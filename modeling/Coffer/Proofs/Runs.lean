import Coffer.Proofs.Operations

/-!
# Runs of operations of one sort

What holds of some operations only is said of the *runs* that are made of them: the operations that
are allowed, one after the other, and steps aside between them of a sort that is given too. An
update may run such operations itself on what it reads, before it gives a value or breaks off.

A run reaches what it leads to (`Runs.reaches`). If it loads nothing, it changes the store without
taking over a file (`Runs.changes`).
-/

namespace Coffer.Session

/-- The session that allowed operations lead to, with steps aside between them. -/
inductive Runs (aside : Session → Session → Prop) (allowed : Session → Operation → Prop) :
    Session → Session → Prop
  | refl (s : Session) : Runs aside allowed s s
  | trans {s t u : Session} : Runs aside allowed s t → Runs aside allowed t u →
    Runs aside allowed s u
  | aside {s t : Session} (h : aside s t) : Runs aside allowed s t
  | perform (s : Session) {o : Operation} (h : allowed s o) (hf : o.Updates fun _ => False) :
    Runs aside allowed s (s.perform o).2
  | update (s : Session) (key : String) (valueKey : Option String) (f : Update)
    (h : allowed s (.update key valueKey f))
    (hf : s.store.closed = false → Runs aside allowed (s.get key valueKey).2
      (f (s.get key valueKey).2 ((s.get key valueKey).1.getD [])).2) :
    Runs aside allowed s (s.update key valueKey f).2

variable {loads : Dictionary → Nat → Prop} {aside : Session → Session → Prop}
  {allowed : Session → Operation → Prop} {s t : Session} {c : Config}

/-- The store is left alone, but for its subscriptions: somebody else uses the host, subscribes or
leaves. -/
def Aside (s t : Session) : Prop :=
  ∃ (host : Host) (feed : Feed), t = { store := { s.store with feed }, host }

theorem Aside.reaches (h : Aside s t) : s.Reaches t := by
  obtain ⟨host, feed, rfl⟩ := h
  exact (Reaches.elsewhere s host).trans (.subscribers _ feed)

theorem Aside.changes (h : Aside s t) : s.store.Changes loads t.store := by
  obtain ⟨host, feed, rfl⟩ := h
  exact .tell s.store feed

/-- An update leads to where its own operations lead, and then to where the write does. -/
theorem Reaches.update_of_run (s : Session) (key : String) (valueKey : Option String) (f : Update)
    (hf : s.store.closed = false → (s.get key valueKey).2.Reaches
      (f (s.get key valueKey).2 ((s.get key valueKey).1.getD [])).2) :
    s.Reaches (s.update key valueKey f).2 := by
  unfold Session.update
  split
  · exact .refl s
  · next hopen =>
    have hnew := (Reaches.get s key valueKey).trans (hf (Bool.eq_false_iff.mpr hopen))
    simp only
    split
    · next heq => rwa [heq] at hnew
    · next value s' heq =>
      rw [heq] at hnew
      have hupsert := Reaches.upsert s' key value valueKey
      split <;> next heq => rw [heq] at hupsert; exact hnew.trans hupsert

/-- **What a run leads to is reached**, if what its steps aside lead to is. -/
theorem Runs.reaches (haside : ∀ s t, aside s t → s.Reaches t) (hrun : Runs aside allowed s t) :
    s.Reaches t := by
  induction hrun with
  | refl s => exact .refl s
  | trans _ _ ih ih' => exact ih.trans ih'
  | aside h => exact haside _ _ h
  | perform s _ hf => exact .perform s (hf.mono fun f h => h.elim)
  | update s key valueKey f _ _ ih => exact .update_of_run s key valueKey f ih

/-! ## Runs that load nothing -/

theorem changes_upsertEncoded (h : s.store.pending = []) (key : String)
    (encoded : Except Error Bytes) (valueKey : Option String) :
    s.store.Changes loads (s.upsertEncoded key encoded valueKey).2.store := by
  cases encoded with
  | error e => exact .refl _
  | ok b => exact changes_upsert h key b valueKey

theorem changes_upsertUnless (h : s.store.pending = []) (key : String) (rejects : Bytes → Bool)
    (encoded : Except Error Bytes) (valueKey : Option String) :
    s.store.Changes loads (s.upsertUnless key rejects encoded valueKey).2.store := by
  have hstore := store_get s key valueKey
  have hwrite : (s.get key valueKey).2.store.Changes loads
      ((s.get key valueKey).2.upsertEncoded key encoded valueKey).2.store :=
    changes_upsertEncoded (hstore ▸ h) key encoded valueKey
  rw [hstore] at hwrite
  rw [upsertUnless_eq]
  split
  · rw [hstore]
    exact .refl _
  · exact hwrite

/-- An operation that does not load changes the store without taking over a file. -/
theorem changes_perform (h : s.store.pending = []) {o : Operation} (hload : o ≠ .rollback)
    (hf : o.Updates fun _ => False) : s.store.Changes loads (s.perform o).2.store := by
  cases o with
  | get key valueKey => exact store_get s key valueKey ▸ .refl _
  | getBuffered key valueKey extra => exact store_getBuffered s key valueKey extra ▸ .refl _
  | upsert key value valueKey => exact changes_upsert h key value valueKey
  | upsertAs codec key v valueKey => exact changes_upsertEncoded h key _ valueKey
  | upsertManyAs codec key vs valueKey => exact changes_upsertEncoded h key _ valueKey
  | upsertAsIf codec key v valueKey condition => exact changes_upsertUnless h key _ _ valueKey
  | upsertManyAsIf codec key vs valueKey condition => exact changes_upsertUnless h key _ _ valueKey
  | update key valueKey f => exact hf.elim
  | getOrAdd key valueKey make => exact changes_getOrAdd h key valueKey (store_get s key valueKey ▸ .refl _)
  | remove key => exact changes_remove s key
  | removeWhere start test => exact changes_removeWhere s start test
  | clear => exact changes_clear s
  | drain =>
    rw [perform, drain_of_idle h]
    exact .refl _
  | save cancelled => exact changes_save s cancelled
  | rollback => exact absurd rfl hload
  | close => exact changes_close h

/-- **A run that loads nothing changes the store without taking over a file.** -/
theorem Runs.changes (haside : ∀ s t, aside s t → s.store.Changes loads t.store)
    (hload : ∀ s o, allowed s o → o ≠ .rollback) (hrun : Runs aside allowed s t)
    (h : s.store.pending = []) : s.store.Changes loads t.store := by
  induction hrun with
  | refl => exact .refl _
  | trans _ _ ih ih' => exact (ih h).trans (ih' ((ih h).pending.trans h))
  | aside hstep => exact haside _ _ hstep
  | perform s hallowed hf => exact changes_perform h (hload _ _ hallowed) hf
  | update s key valueKey f _ _ ih =>
    have hstore := store_get s key valueKey
    refine changes_update h key valueKey fun hopen => ?_
    have hnew := ih hopen (hstore ▸ h)
    rwa [hstore] at hnew

end Coffer.Session
