import Coffer.Proofs.Mirroring
import Coffer.Proofs.Runs

/-!
# Which keys an operation touches

An operation reads and seals under passphrases, merges a write or removes entries, and saves. What it
does is told here by the keys that it may write or remove (`Session.Touches`): one lemma an operation,
one for all operations as data (`touches_perform`), and one for runs of them (`Runs.touches`).

What is not touched is left alone. Under a key that is equal to none of those touched the look-up
finds what it found (`Touches.get?`) and every value key reads what it read (`Touches.get`), as long
as the keyring is linked.
-/

namespace Coffer

namespace Session

/-- From one session to the other only certain keys were written or removed. The keyring was at most
asked for ciphers, and whatever is behind the store may have changed. -/
inductive Touches (keys : String → Prop) : Session → Session → Prop
  | trans {s t u : Session} : Touches keys s t → Touches keys t u → Touches keys s u
  | ask (s : Session) (passphrase : String) : Touches keys s (s.cipherFor passphrase).2
  | behind {s t : Session} (hmemory : t.store.memory = s.store.memory)
    (hkeyring : t.host.keyring = s.host.keyring) : Touches keys s t
  | merge (s : Session) {p : Pending} (h : keys p.key) :
    Touches keys s (s.withStore (s.store.merge p))
  | discard (s : Session) {key : String} (h : keys key) :
    Touches keys s (s.withStore (s.store.discard key).2)

variable {keys : String → Prop} {s t : Session} {c : Comparer} {key : String}

theorem Touches.refl (s : Session) : Touches keys s s := .behind rfl rfl

theorem Touches.mono {keys' : String → Prop} (h : Touches keys s t)
    (hkeys : ∀ key, keys key → keys' key) : Touches keys' s t := by
  induction h with
  | trans _ _ ih ih' => exact ih.trans ih'
  | ask s passphrase => exact .ask s passphrase
  | behind hmemory hkeyring => exact .behind hmemory hkeyring
  | merge s hp => exact .merge s (hkeys _ hp)
  | discard s hkey => exact .discard s (hkeys _ hkey)

/-! ## What is left alone -/

theorem Touches.pending (h : Touches keys s t) : t.store.pending = s.store.pending := by
  induction h with
  | trans _ _ ih ih' => exact ih'.trans ih
  | ask | merge => rfl
  | behind hmemory => exact (congrArg Store.pending hmemory :)
  | discard s => exact Store.pending_discard s.store _

theorem Touches.closed (h : Touches keys s t) : t.store.closed = s.store.closed := by
  induction h with
  | trans _ _ ih ih' => exact ih'.trans ih
  | ask | merge => rfl
  | behind hmemory => exact (congrArg Store.closed hmemory :)
  | @discard s key =>
    show (s.store.discard key).2.closed = s.store.closed
    cases hget : s.store.entries.get? key with
    | none => rw [Store.discard_of_none hget]
    | some e => rw [Store.discard_of_some hget]

theorem Touches.comparer (h : Touches keys s t) : t.store.comparer = s.store.comparer := by
  induction h with
  | trans _ _ ih ih' => exact ih'.trans ih
  | ask => rfl
  | behind hmemory => exact (congrArg Store.comparer hmemory :)
  | merge => exact Dictionary.comparer_insert _ _ _
  | discard s => exact Store.comparer_discard s.store _

theorem Touches.orderly (h : Touches keys s t) (horderly : s.store.entries.Orderly) :
    t.store.entries.Orderly := by
  induction h with
  | trans _ _ ih ih' => exact ih' (ih horderly)
  | ask => exact horderly
  | behind hmemory => exact (congrArg Store.entries hmemory : _ = _) ▸ horderly
  | merge => exact horderly.insert _ _
  | @discard s key =>
    show (s.store.discard key).2.entries.Orderly
    cases hget : s.store.entries.get? key with
    | none => rwa [Store.discard_of_none hget]
    | some e => exact Store.discard_of_some hget ▸ horderly.erase key

theorem Touches.linked (h : Touches keys s t) (hlinked : s.host.keyring.Linked) :
    t.host.keyring.Linked := by
  induction h with
  | trans _ _ ih ih' => exact ih' (ih hlinked)
  | ask s passphrase => exact hlinked.cipherFor passphrase
  | behind _ hkeyring => exact hkeyring ▸ hlinked
  | merge | discard => exact hlinked

/-- **The keyring hands out the same ciphers.** -/
theorem Touches.cipherFor (h : Touches keys s t) (hlinked : s.host.keyring.Linked)
    (passphrase : String) :
    (t.host.keyring.cipherFor passphrase).1 = (s.host.keyring.cipherFor passphrase).1 := by
  induction h with
  | trans h _ ih ih' => exact (ih' (h.linked hlinked)).trans (ih hlinked)
  | ask s asked => exact hlinked.cipherFor_cipherFor asked passphrase
  | behind _ hkeyring => rw [hkeyring]
  | merge | discard => rfl

/-- **A key that is equal to none of those touched finds what it found.** -/
theorem Touches.get? (h : Touches keys s t)
    (hkey : ∀ other, keys other → s.store.comparer.normalize key ≠ s.store.comparer.normalize other) :
    t.store.entries.get? key = s.store.entries.get? key := by
  induction h with
  | trans h _ ih ih' => exact (ih' (h.comparer ▸ hkey)).trans (ih hkey)
  | ask => rfl
  | behind hmemory => exact (congrArg (fun store : Store => store.entries.get? key) hmemory :)
  | merge s hp =>
    show (s.store.entries.insert _ _).get? key = _
    rw [Dictionary.get?_insert, if_neg]
    exact hkey _ hp
  | discard s hother => exact Store.get?_discard_of_ne (hkey _ hother)

/-- **And whoever reads it reads what he read.** -/
theorem Touches.get (h : Touches keys s t) (hlinked : s.host.keyring.Linked)
    (hkey : ∀ other, keys other → s.store.comparer.normalize key ≠ s.store.comparer.normalize other)
    (valueKey : Option String) : (t.get key valueKey).1 = (s.get key valueKey).1 := by
  rw [get_fst, get_fst, h.get? hkey]
  simp only [Keyring.reveal, h.cipherFor hlinked]

/-! ## Operations -/

/-- Who asks for one cipher at most touches no key. -/
theorem touches_of_asks (h : t = s ∨ ∃ passphrase, t = (s.cipherFor passphrase).2) :
    Touches keys s t := by
  rcases h with rfl | ⟨passphrase, rfl⟩
  · exact .refl t
  · exact .ask s passphrase

theorem touches_get (s : Session) (key : String) (valueKey : Option String) :
    Touches keys s (s.get key valueKey).2 :=
  touches_of_asks (get_snd s key valueKey)

/-- A buffered read asks for the same cipher as a plain one. -/
theorem keyring_getBuffered (s : Session) (key : String) (valueKey : Option String)
    (extra : UInt64) :
    (s.getBuffered key valueKey extra).2.host.keyring = (s.get key valueKey).2.host.keyring := by
  unfold getBuffered Session.get
  cases s.store.entries.get? key with
  | none => rfl
  | some e =>
    cases activeKey valueKey with
    | none => rfl
    | some passphrase =>
      simp only
      generalize s.cipherFor passphrase = x
      obtain ⟨e | cipher, s'⟩ := x
      · rfl
      · simp only
        split <;> rfl

theorem touches_getBuffered (s : Session) (key : String) (valueKey : Option String)
    (extra : UInt64) : Touches keys s (s.getBuffered key valueKey extra).2 := by
  have hstore : (s.getBuffered key valueKey extra).2.store = (s.get key valueKey).2.store := by
    rw [store_getBuffered, store_get]
  exact (touches_get s key valueKey).trans
    (.behind (congrArg Store.memory hstore) (keyring_getBuffered s key valueKey extra))

theorem touches_save (s : Session) (cancelled : Bool) : Touches keys s (s.save cancelled).2 :=
  .behind (Store.memory_of_unsaved_eq (unsaved_save s cancelled)) (keyring_save s cancelled)

/-- Saving and telling touch no key. -/
theorem touches_saveThen {α : Type} {store : Store} (h : Touches keys s (s.withStore store)) (a : α)
    {tell : Store → Store} (htell : ∀ store : Store, (tell store).memory = store.memory) :
    Touches keys s ((s.withStore store).saveThen a tell).2 :=
  h.trans (.behind (memory_saveThen htell _ a) (keyring_saveThen _ a tell))

section Writing

variable (hidle : s.store.pending = []) (hkey : keys key)

include hidle hkey

theorem touches_upsert (value : Bytes) (valueKey : Option String) :
    Touches keys s (s.upsert key value valueKey).2 := by
  rw [upsert_of_idle hidle]
  split
  · exact .refl s
  · have hsealed : Touches keys s (s.sealValue value valueKey).2 :=
      touches_of_asks (sealValue_snd s value valueKey)
    generalize s.sealValue value valueKey = x at hsealed
    obtain ⟨e | stored, s'⟩ := x
    · exact hsealed
    · have hmerged : Touches keys s' (s'.withStore
          ((s'.store.merge { key, value := stored }).announce
            { kind := .upsert, key, value := some value })) :=
        (Touches.merge s' hkey).trans (.behind (Store.memory_announce _ _) rfl)
      exact hsealed.trans (touches_saveThen hmerged () fun _ => rfl)

theorem touches_upsertEncoded (encoded : Except Error Bytes) (valueKey : Option String) :
    Touches keys s (s.upsertEncoded key encoded valueKey).2 := by
  cases encoded with
  | error e => exact .refl s
  | ok value => exact touches_upsert hidle hkey value valueKey

theorem touches_upsertUnless (rejects : Bytes → Bool) (encoded : Except Error Bytes)
    (valueKey : Option String) :
    Touches keys s (s.upsertUnless key rejects encoded valueKey).2 := by
  have hread : Touches keys s (s.get key valueKey).2 := touches_get s key valueKey
  rw [upsertUnless_eq]
  split
  · exact hread
  · exact hread.trans (touches_upsertEncoded (hread.pending.trans hidle) hkey encoded valueKey)

theorem touches_getOrAdd (valueKey : Option String) (make : String → Bytes) :
    Touches keys s (s.getOrAdd key valueKey (.ofSpelling make)).2 := by
  have hread : Touches keys s (s.get key valueKey).2 := touches_get s key valueKey
  cases hvalue : (s.get key valueKey).1 with
  | some value =>
    rw [getOrAdd_of_some hvalue]
    exact hread
  | none =>
    rw [getOrAdd_ofSpelling_of_missing hvalue]
    split
    · exact hread
    · exact hread.trans (touches_upsert (hread.pending.trans hidle) hkey (make key) valueKey)

/-- What the update touches itself comes first, and then the write. -/
theorem touches_update (valueKey : Option String) {f : Update}
    (hf : s.store.closed = false → Touches keys (s.get key valueKey).2
      (f (s.get key valueKey).2 ((s.get key valueKey).1.getD [])).2) :
    Touches keys s (s.update key valueKey f).2 := by
  have hread : Touches keys s (s.get key valueKey).2 := touches_get s key valueKey
  unfold update
  split
  · exact .refl s
  · next hopen =>
    have hnew := hread.trans (hf (Bool.eq_false_iff.mpr hopen))
    simp only
    split
    · next heq => rwa [heq] at hnew
    · next value s' heq =>
      rw [heq] at hnew
      have hupsert : Touches keys s' (s'.upsert key value valueKey).2 :=
        touches_upsert (hnew.pending.trans hidle) hkey value valueKey
      split <;> next heq => rw [heq] at hupsert; exact hnew.trans hupsert

end Writing

theorem touches_remove (s : Session) (hkey : keys key) : Touches keys s (s.remove key).2 := by
  cases hclosed : s.store.closed with
  | true =>
    unfold remove
    rw [if_pos hclosed]
    exact .refl s
  | false =>
    cases hget : s.store.entries.get? key with
    | none => exact remove_of_none hclosed hget ▸ .refl s
    | some e =>
      rw [remove_of_some hclosed hget]
      exact touches_saveThen (.discard s hkey) true fun store => Store.memory_announce store _

theorem touches_discardAll (s : Session) {names : List String} (hnames : ∀ key ∈ names, keys key) :
    Touches keys s (s.withStore (s.store.discardAll names).2) := by
  induction names generalizing s with
  | nil => exact .refl s
  | cons key names ih =>
    have hrest := ih (s.withStore (s.store.discard key).2)
      fun other hother => hnames other (List.mem_cons_of_mem _ hother)
    exact (Touches.discard s (hnames key List.mem_cons_self)).trans hrest

theorem touches_removeWhere (s : Session) {start : Option String} {test : String → Bool}
    (hkeys : ∀ key, s.store.comparer.selects start test key = true → keys key) :
    Touches keys s (s.removeWhere start test).2 := by
  have hdoomed : ∀ key ∈ s.doomed start test, keys key :=
    fun key hkey => hkeys key (mem_doomed.mp hkey).2
  rw [removeWhere_eq]
  split
  · exact .refl s
  · split
    · exact .refl s
    · exact touches_saveThen (touches_discardAll s hdoomed) _ (Store.memory_announceAll _)

/-- Under the comparer the operation writes and removes certain keys at most. It does not load,
empty or close the store. -/
def Operation.Within (c : Comparer) (keys : String → Prop) : Operation → Prop
  | .get .. | .getBuffered .. | .drain | .save _ => True
  | .upsert key .. | .upsertAs _ key .. | .upsertManyAs _ key .. | .upsertAsIf _ key ..
  | .upsertManyAsIf _ key .. | .update key .. | .getOrAdd key .. | .remove key => keys key
  | .removeWhere start test => ∀ key, c.selects start test key = true → keys key
  | .clear | .rollback | .close => False

/-- **An operation touches no other keys than its own.** -/
theorem touches_perform (hidle : s.store.pending = []) {o : Operation}
    (ho : o.Within s.store.comparer keys) (hf : o.Updates fun _ => False) :
    Touches keys s (s.perform o).2 := by
  cases o with
  | get key valueKey => exact touches_get s key valueKey
  | getBuffered key valueKey extra => exact touches_getBuffered s key valueKey extra
  | upsert key value valueKey => exact touches_upsert hidle ho value valueKey
  | upsertAs codec key v valueKey => exact touches_upsertEncoded hidle ho _ valueKey
  | upsertManyAs codec key vs valueKey => exact touches_upsertEncoded hidle ho _ valueKey
  | upsertAsIf codec key v valueKey condition => exact touches_upsertUnless hidle ho _ _ valueKey
  | upsertManyAsIf codec key vs valueKey condition => exact touches_upsertUnless hidle ho _ _ valueKey
  | update key valueKey f => exact hf.elim
  | getOrAdd key valueKey make => exact touches_getOrAdd hidle ho valueKey make
  | remove key => exact touches_remove s ho
  | removeWhere start test => exact touches_removeWhere s ho
  | drain =>
    rw [perform, drain_of_idle hidle]
    exact .refl s
  | save cancelled => exact touches_save s cancelled
  | clear | rollback | close => exact ho.elim

/-! ## Runs -/

/-- The store and the ciphers are left alone: somebody else uses the disk or the pools, subscribes or
leaves. -/
def Beside (s t : Session) : Prop := Aside s t ∧ t.host.keyring = s.host.keyring

theorem Beside.touches (h : Beside s t) : Touches keys s t := by
  obtain ⟨⟨host, feed, rfl⟩, hkeyring⟩ := h
  exact .behind rfl hkeyring

/-- **A run touches no other keys than its operations may.** -/
theorem Runs.touches (hrun : Runs Beside (fun _ o => o.Within c keys) s t)
    (hidle : s.store.pending = []) (hc : s.store.comparer = c) : Touches keys s t := by
  induction hrun with
  | refl s => exact .refl s
  | trans _ _ ih ih' =>
    have hfirst := ih hidle hc
    exact hfirst.trans (ih' (hfirst.pending.trans hidle) (hfirst.comparer.trans hc))
  | aside h => exact h.touches
  | perform s ho hf => exact touches_perform hidle (hc.symm ▸ ho) hf
  | update s key valueKey f ho _ ih =>
    have hread : Touches keys s (s.get key valueKey).2 := touches_get s key valueKey
    exact touches_update hidle ho valueKey fun hopen =>
      ih hopen (hread.pending.trans hidle) (hread.comparer.trans hc)

end Session

end Coffer
