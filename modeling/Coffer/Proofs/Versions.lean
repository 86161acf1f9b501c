import Coffer.Proofs.Persisting

/-!
# The number of updates is a version number

The number of updates of a store never falls, and as long as it stays the same the entries and the
estimate stay the same (`Session.advances_perform`). Whoever has looked at a store can tell by the
number alone whether it has been changed since, whatever the operations in between were answered: a
write that cannot be saved has been merged and counted, and a load that fails takes nothing over.

It holds between any two points of time at which a program may look (`Reaches.advances`), also while
writes are waiting.
-/

namespace Coffer.Session

variable {s t : Session}

/-- A load that succeeds is counted, and one that fails changes the archive at most. -/
theorem advances_rollback (s : Session) : s.store.Advances s.rollback.2.store := by
  unfold rollback
  simp only
  split
  · exact .of_unsaved_eq rfl
  · exact .of_lt (Nat.lt_succ_self _)

theorem advances_of_store_eq (h : t.store = s.store) : s.store.Advances t.store := h ▸ .refl _

/-- **Whatever a program does with a store, what it comes to is a later version or the same one.** -/
theorem Reaches.advances (hreach : s.Reaches t) : s.store.Advances t.store := by
  induction hreach with
  | refl s => exact .refl s.store
  | trans _ _ ih ih' => exact ih.trans ih'
  | elsewhere s host => exact .refl s.store
  | subscribers s feed => exact (s.store.edits_aside _ feed _).toAdvances
  | subscribe s => exact (s.store.edits_aside _ _ _).toAdvances
  | get s key valueKey => exact advances_of_store_eq (store_get s key valueKey)
  | getBuffered s key valueKey extra =>
    exact advances_of_store_eq (store_getBuffered s key valueKey extra)
  | render s => exact .of_unsaved_eq (unsaved_render s)
  | write s _ cancelled => exact .of_unsaved_eq (unsaved_write s _ cancelled)
  | save s cancelled => exact (persists_save s cancelled).advances
  | drain s => exact (persists_drain s).advances
  | rollback s => exact advances_rollback s
  | close s => exact (persists_close s).advances
  | upsert s key value valueKey => exact (persists_upsert s key value valueKey).advances
  | update s key valueKey f _ ih =>
    -- what the transform does comes first
    have htransform : s.store.Advances (s.transformedBy key valueKey f).store := by
      unfold transformedBy
      split
      · exact .refl s.store
      · have hread := advances_of_store_eq (store_get s key valueKey)
        exact hread.trans (ih _ _)
    exact htransform.trans (persists_update s key valueKey f).advances
  | getOrAdd s key valueKey make _ ih =>
    have hfactory : s.store.Advances (s.madeBy key valueKey make).store := by
      have hread := advances_of_store_eq (store_get s key valueKey)
      unfold madeBy
      split
      · exact hread
      · exact hread.trans (ih _ key)
    exact hfactory.trans (persists_getOrAdd s key valueKey make).advances
  | remove s key => exact (persists_remove s key).advances
  | removeWhere s start test => exact (persists_removeWhere s start test).advances
  | clear s => exact (persists_clear s).advances

/-- **The number of updates is a version number.** No operation lowers it, whatever it is answered,
and one that leaves it as it is has left the entries and the estimate as they are. Its update, if it
has one, may use the store itself. -/
theorem advances_perform (s : Session) {o : Operation}
    (hf : o.Updates fun f => ∀ (s : Session) (value : Bytes), s.Reaches (f s value).2) :
    s.store.Advances (s.perform o).2.store :=
  (Reaches.perform s hf).advances

/-- Neither of two writes can be saved, and both are counted. -/
theorem advances_perform_storeAndAppend :
    (Operation.update "a" none storeAndAppend).Updates
        (fun f => ∀ (s : Session) (value : Bytes), s.Reaches (f s value).2)
      ∧ (gazetteAlone.perform (.update "a" none storeAndAppend)).1
        = .error (.failed (.io .notFound))
      ∧ gazetteAlone.store.updates = 1
      ∧ (gazetteAlone.perform (.update "a" none storeAndAppend)).2.store.updates = 3
      ∧ gazetteAlone.store.Advances
        (gazetteAlone.perform (.update "a" none storeAndAppend)).2.store :=
  ⟨reaches_storeAndAppend, by decide, by decide, by decide,
    advances_perform gazetteAlone (o := .update "a" none storeAndAppend) reaches_storeAndAppend⟩

end Coffer.Session
