import Coffer.Proofs.Effects

/-!
# How an operation persists what it does

An operation does its work in memory and saves at most once, after that (`Session.Persists`). When a
save is due can be told from outside (`Operation.IsDue`): whoever asks for a save gets one, a store
that saves on every change saves when the number of its updates has risen, by however much, and its
first close saves in any case. Reading and loading never save.

Nothing is assumed of the session. If writes of somebody else are waiting, an operation that merges
its own merges them too, and all of them are in the same snapshot. A close merges what is waiting
and saves afterwards, or it finds nothing waiting and saves all the same.

An update runs a transform first, and the transform may perform operations of its own. The update
itself begins when the transform has come to its end (`Operation.start`).
-/

namespace Coffer

/-! ## In memory -/

namespace Store

variable {a b d : Store}

/-- The second store is a later version of the first or the same one: where no change was counted,
nothing has changed. -/
structure Advances (a b : Store) : Prop where
  updates_le : a.updates ≤ b.updates
  same : b.updates = a.updates → b.entries = a.entries ∧ b.estimate = a.estimate

theorem Advances.of_lt (h : a.updates < b.updates) : a.Advances b :=
  ⟨Nat.le_of_lt h, fun heq => absurd heq (Nat.ne_of_gt h)⟩

theorem Advances.refl (a : Store) : a.Advances a := ⟨Nat.le_refl _, fun _ => ⟨rfl, rfl⟩⟩

theorem Advances.trans (h : a.Advances b) (h' : b.Advances d) : a.Advances d := by
  refine ⟨Nat.le_trans h.updates_le h'.updates_le, fun heq => ?_⟩
  -- what is the same at the end was the same in between
  have hmid : b.updates = a.updates :=
    Nat.le_antisymm (heq ▸ h'.updates_le) h.updates_le
  obtain ⟨hentries, hestimate⟩ := h.same hmid
  obtain ⟨hentries', hestimate'⟩ := h'.same (heq.trans hmid.symm)
  exact ⟨hentries'.trans hentries, hestimate'.trans hestimate⟩

theorem Advances.of_unsaved_eq (h : b.unsaved = a.unsaved) : a.Advances b := by
  have hupdates : b.updates = a.updates := (congrArg Store.updates h :)
  exact ⟨Nat.le_of_eq hupdates.symm, fun _ =>
    ⟨(congrArg Store.entries h :), (congrArg Store.estimate h :)⟩⟩

/-- The store was changed in memory, and the archive had no part in it. -/
structure Edits (a b : Store) : Prop extends Advances a b where
  config : b.config = a.config
  archive : b.archive = a.archive
  saves : b.saves = a.saves

theorem Edits.refl (a : Store) : a.Edits a := ⟨.refl a, rfl, rfl, rfl⟩

theorem Edits.trans (h : a.Edits b) (h' : b.Edits d) : a.Edits d :=
  ⟨h.toAdvances.trans h'.toAdvances, h'.config.trans h.config, h'.archive.trans h.archive,
    h'.saves.trans h.saves⟩

/-- What is waiting, who is told, and whether the store is closed, does not count. -/
theorem edits_aside (s : Store) (pending : List Pending) (feed : Feed) (closed : Bool) :
    s.Edits { s with pending, feed, closed } :=
  ⟨⟨Nat.le_refl _, fun _ => ⟨rfl, rfl⟩⟩, rfl, rfl, rfl⟩

theorem edits_merge (s : Store) (p : Pending) : s.Edits (s.merge p) :=
  ⟨.of_lt (Nat.lt_succ_self _), rfl, rfl, rfl⟩

/-- The writes that are waiting are counted one by one as they are merged. -/
theorem edits_mergeAll (s : Store) :
    s.Edits s.mergeAll ∧ s.mergeAll.updates = s.updates + s.pending.length := by
  suffices ∀ (waiting : List Pending) (s : Store), s.Edits (waiting.foldl merge s)
      ∧ (waiting.foldl merge s).updates = s.updates + waiting.length by
    obtain ⟨hedits, hupdates⟩ := this s.pending { s with pending := [] }
    exact ⟨(edits_aside s [] s.feed s.closed).trans hedits, hupdates⟩
  intro waiting
  induction waiting with
  | nil => exact fun s => ⟨.refl s, rfl⟩
  | cons p waiting ih =>
    intro s
    obtain ⟨hedits, hupdates⟩ := ih (s.merge p)
    refine ⟨(edits_merge s p).trans hedits, ?_⟩
    rw [List.foldl_cons, hupdates, List.length_cons]
    show s.updates + 1 + waiting.length = s.updates + (waiting.length + 1)
    omega

theorem edits_discard (s : Store) (key : String) : s.Edits (s.discard key).2 := by
  unfold discard
  split
  · exact .refl s
  · exact ⟨.of_lt (Nat.lt_succ_self _), rfl, rfl, rfl⟩

theorem edits_discardAll (s : Store) (keys : List String) : s.Edits (s.discardAll keys).2 := by
  induction keys generalizing s with
  | nil => exact .refl s
  | cons key keys ih => exact (edits_discard s key).trans (ih _)

theorem edits_discardEverything (s : Store) : s.Edits s.discardEverything :=
  ⟨.of_lt (Nat.lt_succ_self _), rfl, rfl, rfl⟩

theorem exists_announceAll (es : List Entry) (s : Store) :
    ∃ feed, es.foldl Session.announceRemoval s = { s with feed } := by
  induction es generalizing s with
  | nil => exact ⟨s.feed, rfl⟩
  | cons e es ih =>
    obtain ⟨feed, hfeed⟩ := ih (Session.announceRemoval s e)
    refine ⟨feed, hfeed.trans ?_⟩
    rw [Session.announceRemoval, announce_eq]

end Store

namespace Session

variable {s t u : Session} {ε α β : Type}

/-- The session went on in memory, and the disk was left alone. -/
structure Works (s t : Session) : Prop where
  edits : s.store.Edits t.store
  disk : t.host.disk = s.host.disk

theorem Works.refl (s : Session) : s.Works s := ⟨.refl _, rfl⟩

theorem Works.trans (h : s.Works t) (h' : t.Works u) : s.Works u :=
  ⟨h.edits.trans h'.edits, h'.disk.trans h.disk⟩

theorem Works.of_same (hstore : t.store = s.store) (hdisk : t.host.disk = s.host.disk) :
    s.Works t :=
  ⟨hstore ▸ .refl _, hdisk⟩

theorem Works.of_edits {store : Store} (h : s.store.Edits store) : s.Works (s.withStore store) :=
  ⟨h, rfl⟩

/-- Who is told of a change makes no difference. -/
theorem works_of_told {feed : Feed} (h : t = s.withStore { s.store with feed }) : s.Works t := by
  subst h
  exact .of_edits (s.store.edits_aside _ _ _)

/-! ## One save at most -/

/-- What an operation from `s` did about the file. If no save was due, it worked in memory only. If
one was due, it saved once when its work was done: with success, after which it told of its changes,
or in vain, and then the error is its answer. -/
inductive Persists (fail : Error → ε) (due : Prop) (s : Session) (x : Except ε α × Session) : Prop
  | quiet (hdue : ¬due) (hworks : s.Works x.2)
  | saved {u v : Session} {cancelled : Bool} {feed : Feed} (hdue : due) (hworks : s.Works u)
    (hsave : u.save cancelled = (.ok (), v)) (htold : x.2 = v.withStore { v.store with feed })
    (hok : ∃ a, x.1 = .ok a)
  | failed {u : Session} {cancelled : Bool} {e : Error} (hdue : due) (hworks : s.Works u)
    (hsave : u.save cancelled = (.error e, x.2)) (herror : x.1 = .error (fail e))

/-- A store that saves on every change has been changed. -/
def Due (s t : Session) : Prop :=
  s.store.config.saveOnUpdate = true ∧ s.store.updates < t.store.updates

theorem not_due_of_updates_eq (h : t.store.updates = s.store.updates) : ¬s.Due t :=
  fun hdue => Nat.ne_of_gt hdue.2 h

variable {fail : Error → ε} {due : Prop} {x : Except ε α × Session}

/-- **Whatever an operation did, the store is a later version or the same one.** -/
theorem Persists.advances (h : Persists fail due s x) : s.store.Advances x.2.store := by
  have hsaved {u v : Session} {cancelled : Bool} {r : Except Error Unit} (hworks : s.Works u)
      (hsave : u.save cancelled = (r, v)) : s.store.Advances v.store := by
    have hunsaved := unsaved_save u cancelled
    rw [hsave] at hunsaved
    exact hworks.edits.toAdvances.trans (.of_unsaved_eq hunsaved)
  cases h with
  | quiet _ hworks => exact hworks.edits.toAdvances
  | saved _ hworks hsave htold _ =>
    exact (hsaved hworks hsave).trans (works_of_told htold).edits.toAdvances
  | failed _ hworks hsave _ => exact hsaved hworks hsave

theorem Persists.of_same {r : Except ε α} (hstore : t.store = s.store)
    (hdisk : t.host.disk = s.host.disk) : Persists fail (s.Due t) s (r, t) :=
  .quiet (not_due_of_updates_eq (congrArg Store.updates hstore)) (.of_same hstore hdisk)

/-- What was not counted may come before. -/
theorem Persists.after (h : Persists fail (t.Due x.2) t x) (hworks : s.Works t)
    (hupdates : t.store.updates = s.store.updates) : Persists fail (s.Due x.2) s x := by
  have hdue : s.Due x.2 ↔ t.Due x.2 := by
    rw [Due, Due, hworks.edits.config, hupdates]
  cases h with
  | quiet hnot hworks' => exact .quiet (mt hdue.mp hnot) (hworks.trans hworks')
  | saved h hworks' hsave htold hok =>
    exact .saved (hdue.mpr h) (hworks.trans hworks') hsave htold hok
  | failed h hworks' hsave herror =>
    exact .failed (hdue.mpr h) (hworks.trans hworks') hsave herror

/-- Another form of the answer makes no difference. -/
theorem Persists.map (h : Persists fail due s x) (f : α → β) :
    Persists fail due s (x.1.map f, x.2) := by
  cases h with
  | quiet hnot hworks => exact .quiet hnot hworks
  | saved h hworks hsave htold hok =>
    obtain ⟨a, ha⟩ := hok
    exact .saved h hworks hsave htold ⟨f a, by rw [ha]; rfl⟩
  | failed h hworks hsave herror => exact .failed h hworks hsave (by rw [herror]; rfl)

theorem Persists.mapError {x : Except Error α × Session} (h : Persists id due s x)
    (fail : Error → ε) : Persists fail due s (x.1.mapError fail, x.2) := by
  cases h with
  | quiet hnot hworks => exact .quiet hnot hworks
  | saved h hworks hsave htold hok =>
    obtain ⟨a, ha⟩ := hok
    exact .saved h hworks hsave htold ⟨a, by rw [ha]; rfl⟩
  | failed h hworks hsave herror => exact .failed h hworks hsave (by rw [herror]; rfl)

theorem Persists.answer {x : Except Error α × Session} (h : Persists id due s x) (reply : α → β) :
    Persists Interruption.failed due s (Session.answer reply x) :=
  (h.mapError Interruption.failed).map reply

/-! ## Saving after the work -/

section Telling

variable {tell : Store → Store}
  (htell : ∀ store : Store, ∃ feed, tell store = { store with feed }) (hworks : s.Works u)

include htell hworks

theorem persists_saveThen (a : α) (hdue : due ↔ u.store.config.saveOnUpdate = true) :
    Persists id due s (u.saveThen a tell) := by
  unfold saveThen saveChange
  by_cases hsave : u.store.config.saveOnUpdate = true
  · rw [if_pos hsave]
    cases hresult : u.save false with
    | mk r v =>
      cases r with
      | error e => exact .failed (hdue.mpr hsave) hworks hresult rfl
      | ok _ =>
        obtain ⟨feed, hfeed⟩ := htell v.store
        exact .saved (hdue.mpr hsave) hworks hresult (congrArg v.withStore hfeed) ⟨a, rfl⟩
  · rw [if_neg hsave]
    obtain ⟨feed, hfeed⟩ := htell u.store
    exact .quiet (mt hdue.mp hsave) (hworks.trans (works_of_told (congrArg u.withStore hfeed)))

/-- A change that was counted is saved if the store saves on every change. -/
theorem persists_change (a : α) (hraised : s.store.updates < u.store.updates) :
    Persists id (s.Due (u.saveThen a tell).2) s (u.saveThen a tell) := by
  have hmemory (store : Store) : (tell store).memory = store.memory := by
    obtain ⟨feed, hfeed⟩ := htell store
    rw [hfeed]
    rfl
  have hupdates : (u.saveThen a tell).2.store.updates = u.store.updates :=
    (congrArg Store.updates (memory_saveThen hmemory u a) :)
  refine persists_saveThen htell hworks a ?_
  rw [Due, hupdates, hworks.edits.config]
  exact and_iff_left hraised

end Telling

theorem persists_save (s : Session) (cancelled : Bool) :
    Persists id True s (s.save cancelled) := by
  cases hresult : s.save cancelled with
  | mk r v =>
    cases r with
    | error e => exact .failed trivial (.refl s) hresult rfl
    | ok _ =>
      have htold : v = v.withStore { v.store with feed := v.store.feed } := rfl
      exact .saved trivial (.refl s) hresult htold ⟨(), rfl⟩

/-! ## Operations -/

theorem drain_eq (s : Session) :
    s.drain = if s.store.pending = [] then (.ok 0, s)
      else (s.withStore s.store.mergeAll).saveThen s.store.pending.length id := by
  split
  · next hidle => exact drain_of_idle hidle
  · next hwaiting =>
    have hlength : s.store.pending.length ≠ 0 := mt List.eq_nil_of_length_eq_zero hwaiting
    simp only [drain, if_neg hlength]
    rfl

/-- A close saves what it has merged or, if nothing was waiting, what there is. -/
theorem close_eq (s : Session) :
    s.close = if s.store.closed then (.ok (), s)
      else (s.withStore { s.store with closed := true }.mergeAll).saveThen () id := by
  split
  · next hclosed => rw [close, if_pos hclosed]
  · next hopen =>
    by_cases hwaiting : s.store.pending = []
    · rw [close_of_idle hwaiting, if_neg hopen]
      obtain ⟨store, host⟩ := s
      cases store
      cases hwaiting
      rfl
    · simp only [close, if_neg hopen, drain_eq]
      rw [if_neg (show ¬(s.withStore { s.store with closed := true }).store.pending = [] from
        hwaiting)]
      obtain ⟨n, hn⟩ := Nat.exists_eq_succ_of_ne_zero
        (mt List.eq_nil_of_length_eq_zero hwaiting)
      simp only [saveThen, withStore, hn]
      generalize saveChange _ = x
      obtain ⟨e | _, s'⟩ := x <;> rfl

theorem persists_drain (s : Session) : Persists id (s.Due s.drain.2) s s.drain := by
  rw [drain_eq]
  split
  · exact .of_same rfl rfl
  · next hwaiting =>
    obtain ⟨hedits, hupdates⟩ := s.store.edits_mergeAll
    refine persists_change (fun store => ⟨store.feed, rfl⟩) (.of_edits hedits) _ ?_
    show s.store.updates < s.store.mergeAll.updates
    have hlength : s.store.pending.length ≠ 0 := mt List.eq_nil_of_length_eq_zero hwaiting
    omega

theorem persists_close (s : Session) :
    Persists id (s.store.config.saveOnUpdate = true ∧ s.store.closed = false) s s.close := by
  rw [close_eq]
  split
  · next hclosed => exact .quiet (fun hdue => by simp [hclosed] at hdue) (.refl s)
  · next hopen =>
    have hclosing : s.store.Edits { s.store with closed := true } := s.store.edits_aside _ _ _
    have hworks : s.Works (s.withStore { s.store with closed := true }.mergeAll) :=
      .of_edits (hclosing.trans (Store.edits_mergeAll _).1)
    refine persists_saveThen (fun store => ⟨store.feed, rfl⟩) hworks () ?_
    rw [hworks.edits.config]
    exact and_iff_left (Bool.eq_false_iff.mpr hopen)

theorem persists_upsert (s : Session) (key : String) (value : Bytes) (valueKey : Option String) :
    Persists id (s.Due (s.upsert key value valueKey).2) s (s.upsert key value valueKey) := by
  unfold upsert
  split
  · exact .of_same rfl rfl
  · have hstore := store_sealValue s value valueKey
    have hdisk := disk_sealValue s value valueKey
    generalize s.sealValue value valueKey = x at hstore hdisk
    obtain ⟨e | stored, s'⟩ := x
    · exact .of_same hstore hdisk
    · -- the write waits together with those of others, and is merged with them
      obtain ⟨feed, hfeed⟩ : ∃ feed, (s'.store.enqueue { key, value := stored }).announce
          { kind := .upsert, key, value := some value }
          = { s'.store.enqueue { key, value := stored } with feed } :=
        ⟨_, Store.announce_eq _ _⟩
      have hworks : s.Works (s'.withStore { s'.store.enqueue { key, value := stored } with feed }) :=
        (Works.of_same hstore hdisk).trans (.of_edits (s'.store.edits_aside _ _ _))
      have hupdates : s'.store.updates = s.store.updates := congrArg Store.updates hstore
      have hwritten := ((persists_drain _).after hworks hupdates).map fun _ => ()
      simp only [hfeed]
      generalize drain _ = y at hwritten
      obtain ⟨e | n, s''⟩ := y <;> exact hwritten

theorem persists_upsertEncoded (s : Session) (key : String) (encoded : Except Error Bytes)
    (valueKey : Option String) :
    Persists id (s.Due (s.upsertEncoded key encoded valueKey).2) s
      (s.upsertEncoded key encoded valueKey) := by
  cases encoded with
  | error e => exact .of_same rfl rfl
  | ok b => exact persists_upsert s key b valueKey

/-- Where a conditional write begins: where its check has come to its end, and its encoder if the
check has not rejected the value so far. -/
def decidedBy (s : Session) (key : String) (valueKey : Option String) (rejects : Check)
    (encode : Encoder) : Session :=
  if (s.checkedBy key valueKey rejects).1 then (s.checkedBy key valueKey rejects).2
  else (encode (s.checkedBy key valueKey rejects).2).2

theorem persists_upsertUnlessBy (s : Session) (key : String) (rejects : Check) (encode : Encoder)
    (valueKey : Option String) :
    Persists id
      ((s.decidedBy key valueKey rejects encode).Due
        (s.upsertUnlessBy key rejects encode valueKey).2)
      (s.decidedBy key valueKey rejects encode)
      (s.upsertUnlessBy key rejects encode valueKey) := by
  rw [upsertUnlessBy_eq, decidedBy]
  split
  · exact .of_same rfl rfl
  · exact (persists_upsertEncoded _ key _ valueKey).map fun _ => true

theorem persists_upsertUnless (s : Session) (key : String) (rejects : Bytes → Bool)
    (encoded : Except Error Bytes) (valueKey : Option String) :
    Persists id (s.Due (s.upsertUnless key rejects encoded valueKey).2) s
      (s.upsertUnless key rejects encoded valueKey) := by
  -- nothing but the reading comes before
  have hstart : s.decidedBy key valueKey (.ofValue rejects) (.ofResult encoded)
      = (s.get key valueKey).2 := by
    unfold decidedBy checkedBy
    cases (s.get key valueKey).1 with
    | none => rfl
    | some value => exact ite_self _
  have hwritten := persists_upsertUnlessBy s key (.ofValue rejects) (.ofResult encoded) valueKey
  rw [hstart] at hwritten
  have hstore := store_get s key valueKey
  exact hwritten.after (.of_same hstore (disk_get s key valueKey)) (congrArg Store.updates hstore)

/-- Where a call begins that adds a key: where its factory has come to its end, if it is run. -/
def madeBy (s : Session) (key : String) (valueKey : Option String) (make : Factory) : Session :=
  if (s.get key valueKey).1.isSome || s.store.closed then (s.get key valueKey).2
  else (make (s.get key valueKey).2 key).2

theorem persists_getOrAdd (s : Session) (key : String) (valueKey : Option String)
    (make : Factory) :
    Persists id ((s.madeBy key valueKey make).Due (s.getOrAdd key valueKey make).2)
      (s.madeBy key valueKey make) (s.getOrAdd key valueKey make) := by
  cases hvalue : (s.get key valueKey).1 with
  | some value =>
    rw [getOrAdd_of_some hvalue, madeBy, hvalue]
    exact .of_same rfl rfl
  | none =>
    rw [getOrAdd_of_missing hvalue, madeBy, hvalue, Option.isSome_none, Bool.false_or]
    split
    · exact .of_same rfl rfl
    · exact (persists_upsert _ key _ valueKey).map _

theorem persists_getOrAdd_ofSpelling (s : Session) (key : String) (valueKey : Option String)
    (make : String → Bytes) :
    Persists id (s.Due (s.getOrAdd key valueKey (.ofSpelling make)).2) s
      (s.getOrAdd key valueKey (.ofSpelling make)) := by
  have hstart : s.madeBy key valueKey (.ofSpelling make) = (s.get key valueKey).2 := ite_self _
  have hadded := persists_getOrAdd s key valueKey (.ofSpelling make)
  rw [hstart] at hadded
  have hstore := store_get s key valueKey
  exact hadded.after (.of_same hstore (disk_get s key valueKey)) (congrArg Store.updates hstore)

theorem persists_remove (s : Session) (key : String) :
    Persists id (s.Due (s.remove key).2) s (s.remove key) := by
  cases hclosed : s.store.closed with
  | true =>
    rw [remove, if_pos hclosed]
    exact .of_same rfl rfl
  | false =>
    cases hget : s.store.entries.get? key with
    | none =>
      rw [remove_of_none hclosed hget]
      exact .of_same rfl rfl
    | some e =>
      rw [remove_of_some hclosed hget]
      refine persists_change (fun store => ⟨_, Store.announce_eq store _⟩)
        (.of_edits (s.store.edits_discard key)) true ?_
      show s.store.updates < (s.store.discard key).2.updates
      simp [Store.discard, Dictionary.takeOut, hget]

theorem persists_removeWhere (s : Session) (start : Option String) (test : String → Bool) :
    Persists id (s.Due (s.removeWhere start test).2) s (s.removeWhere start test) := by
  rw [removeWhere_eq]
  split
  · exact .of_same rfl rfl
  · split
    · exact .of_same rfl rfl
    · next hsome =>
      refine persists_change (Store.exists_announceAll _)
        (.of_edits (s.store.edits_discardAll (s.doomed start test))) _ ?_
      show s.store.updates < (s.store.discardAll (s.doomed start test)).2.updates
      rw [Store.updates_discardAll]
      have hlength := List.length_pos_iff.mpr (mt List.isEmpty_iff.mpr hsome)
      omega

theorem persists_clear (s : Session) : Persists id (s.Due s.clear.2) s s.clear := by
  rw [clear_eq]
  split
  · exact .of_same rfl rfl
  · have hcleared : s.store.updates < s.store.discardEverything.updates := Nat.lt_succ_self _
    exact persists_change (fun store => ⟨_, Store.announce_eq store _⟩)
      (.of_edits s.store.edits_discardEverything) () hcleared

/-- Where an update begins that is not refused: where its transform has come to its end. -/
def transformedBy (s : Session) (key : String) (valueKey : Option String) (f : Update) : Session :=
  if s.store.closed then s else (f (s.get key valueKey).2 ((s.get key valueKey).1.getD [])).2

theorem persists_update (s : Session) (key : String) (valueKey : Option String) (f : Update) :
    Persists .failed ((s.transformedBy key valueKey f).Due (s.update key valueKey f).2)
      (s.transformedBy key valueKey f) (s.update key valueKey f) := by
  unfold update transformedBy
  split
  · exact .of_same rfl rfl
  · simp only
    generalize f (s.get key valueKey).2 _ = x
    obtain ⟨i | value, s'⟩ := x
    · exact .of_same rfl rfl
    · have hwritten := (persists_upsert s' key value valueKey).answer fun _ => value
      simp only
      generalize s'.upsert key value valueKey = y at hwritten
      obtain ⟨e | _, s''⟩ := y <;> exact hwritten

/-- Where an operation begins: what the transform of an update does comes before that. -/
def Operation.start (s : Session) : Operation → Session
  | .update key valueKey f => s.transformedBy key valueKey f
  | _ => s

theorem Operation.start_of_plain {o : Operation} (h : o.Updates fun _ => False) (s : Session) :
    o.start s = s := by
  cases o with
  | update => exact h.elim
  | _ => rfl

/-- Is a save due in an operation from `s` to `t`? -/
def Operation.IsDue (s t : Session) : Operation → Prop
  | .get .. | .getBuffered .. | .rollback => False
  | .save _ => True
  | .close => s.store.config.saveOnUpdate = true ∧ s.store.closed = false
  | _ => s.Due t

/-- **An operation saves once if a save is due, and else does not save.** -/
theorem persists_perform (s : Session) {o : Operation} (hload : o ≠ .rollback) :
    Persists .failed (o.IsDue (o.start s) (s.perform o).2) (o.start s) (s.perform o) := by
  cases o with
  | get key valueKey => exact .quiet id (.of_same (store_get s key valueKey) (disk_get _ _ _))
  | getBuffered key valueKey extra =>
    exact .quiet id (.of_same (store_getBuffered s key valueKey extra) (disk_getBuffered _ _ _ _))
  | upsert key value valueKey => exact (persists_upsert s key value valueKey).answer _
  | upsertAs codec key v valueKey => exact (persists_upsertEncoded s key _ valueKey).answer _
  | upsertManyAs codec key vs valueKey => exact (persists_upsertEncoded s key _ valueKey).answer _
  | upsertAsIf codec key v valueKey condition =>
    exact (persists_upsertUnless s key _ _ valueKey).answer _
  | upsertManyAsIf codec key vs valueKey condition =>
    exact (persists_upsertUnless s key _ _ valueKey).answer _
  | update key valueKey f => exact (persists_update s key valueKey f).map Reply.value
  | getOrAdd key valueKey make => exact (persists_getOrAdd_ofSpelling s key valueKey make).answer _
  | remove key => exact (persists_remove s key).answer _
  | removeWhere start test => exact (persists_removeWhere s start test).answer _
  | clear => exact (persists_clear s).answer _
  | drain => exact (persists_drain s).answer _
  | save cancelled => exact (persists_save s cancelled).answer _
  | rollback => exact absurd rfl hload
  | close => exact (persists_close s).answer _

end Session

/-- An update that stores another entry on its way, and then appends a byte. -/
def storeAndAppend : Update := fun s value => (.ok (value ++ [1]), (s.upsert "b" [2] none).2)

theorem reaches_storeAndAppend (s : Session) (value : Bytes) :
    s.Reaches (storeAndAppend s value).2 :=
  .upsert s "b" [2] none

end Coffer
