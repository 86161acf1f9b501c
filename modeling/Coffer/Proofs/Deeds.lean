import Coffer.Proofs.Estimates

/-!
# Deeds under different keys commute

What is done to a store in memory under one key is a *deed*: a write is merged, an entry is removed,
or nothing is done (`Store.Deed`). Deeds under different keys can be done in any order: the store
holds the same afterwards, with the same counters (`Store.agrees_of_perm`).

The look-up determines the entries, and tells the effects of two deeds apart. The estimate needs an
invariant. A removal takes the charge of an entry off it and does not go below zero, so a write may
come before or after it only because the estimate covers what the entries are charged
(`Covered.entrySize_le`). With keys in UTF-8 that is so in every store that was opened.
-/

namespace Coffer

namespace Dictionary

variable {d : Dictionary}

/-- Insertions under different keys can be made in either order. -/
theorem Orderly.copies_insert_insert (h : d.Orderly) {key other : String}
    (hne : d.comparer.normalize key ≠ d.comparer.normalize other) (value value' : Option Bytes) :
    ((d.insert other value').insert key value).Copies
      ((d.insert key value).insert other value') := by
  refine ((h.insert _ _).insert _ _).copies_of_get?_eq ((h.insert _ _).insert _ _) (by simp) ?_
  intro name
  simp only [get?_insert, comparer_insert, if_neg hne, if_neg hne.symm]
  by_cases hkey : d.comparer.normalize name = d.comparer.normalize key
  · rw [if_pos hkey, if_neg (hkey ▸ hne), if_pos hkey]
  · rw [if_neg hkey, if_neg hkey]

/-- So can an insertion and a removal. -/
theorem Orderly.copies_erase_insert (h : d.Orderly) {key other : String}
    (hne : d.comparer.normalize key ≠ d.comparer.normalize other) (value : Option Bytes) :
    ((d.erase other).insert key value).Copies ((d.insert key value).erase other) := by
  refine ((h.insert _ _).erase _).copies_of_get?_eq ((h.erase _).insert _ _) (by simp) ?_
  intro name
  simp only [get?_insert, get?_erase, comparer_insert, comparer_erase, if_neg hne]
  by_cases hkey : d.comparer.normalize name = d.comparer.normalize key
  · rw [if_pos hkey, if_neg (hkey ▸ hne), if_pos hkey]
  · rw [if_neg hkey, if_neg hkey]

end Dictionary

namespace Store

variable {c : Config} {slack : Nat} {s a b : Store}

/-! ## Deeds -/

/-- What is done to a store under a key. -/
inductive Deed where
  | merge (p : Pending)
  | discard (key : String)
  | pass (key : String)

/-- The key of a deed. -/
def Deed.key : Deed → String
  | .merge p => p.key
  | .discard key => key
  | .pass key => key

/-- The store after a deed. -/
def after (s : Store) : Deed → Store
  | .merge p => s.merge p
  | .discard key => (s.discard key).2
  | .pass _ => s

theorem Covered.after (h : s.Covered c slack) (x : Deed) : (s.after x).Covered c slack := by
  cases x with
  | merge p => exact h.merge p
  | discard key => exact h.discard key
  | pass key => exact h

theorem pending_after (s : Store) (x : Deed) : (s.after x).pending = s.pending := by
  cases x with
  | merge p => rfl
  | discard key => exact pending_discard s key
  | pass key => rfl

theorem comparer_after (s : Store) (x : Deed) : (s.after x).comparer = s.comparer := by
  cases x with
  | merge p => exact Dictionary.comparer_insert _ _ _
  | discard key => exact comparer_discard s key
  | pass key => rfl

/-- The same deed keeps two stores alike. -/
theorem Agrees.after (h : a.Agrees b) (x : Deed) : (a.after x).Agrees (b.after x) := by
  cases x with
  | merge p => exact h.merge p
  | discard key => exact (h.discard key).2
  | pass key => exact h

theorem Agrees.foldl_after (h : a.Agrees b) (xs : List Deed) :
    (xs.foldl Store.after a).Agrees (xs.foldl Store.after b) := by
  induction xs generalizing a b with
  | nil => exact h
  | cons x xs ih => exact ih (h.after x)

/-! ## Two deeds -/

/-- What an entry is charged with is covered by the estimate. -/
theorem Covered.entrySize_le (h : s.Covered c 0) {key : String} {e : Entry}
    (hget : s.entries.get? key = some e) : s.entrySize e.key e.bytes ≤ s.estimate := by
  have herase := h.orderly.weight_erase (f := c.encoding.charge) hget
  have hle := h.weight_le
  rw [entrySize_eq, h.config]
  omega

section Two

variable (hs : s.Covered c 0) (hidle : s.pending = [])

include hs hidle

theorem agrees_merge_merge {p q : Pending}
    (hne : s.comparer.normalize p.key ≠ s.comparer.normalize q.key) :
    ((s.merge p).merge q).Agrees ((s.merge q).merge p) := by
  have hentries := hs.orderly.copies_insert_insert hne (some p.value) (some q.value)
  have hinserted := (hs.orderly.insert p.key (some p.value)).insert q.key (some q.value)
  have hestimate : s.estimate + s.entrySize q.key q.value + s.entrySize p.key p.value
      = s.estimate + s.entrySize p.key p.value + s.entrySize q.key q.value :=
    Nat.add_right_comm _ _ _
  show Agrees { s with
      entries := (s.entries.insert p.key (some p.value)).insert q.key (some q.value)
      estimate := s.estimate + s.entrySize p.key p.value + s.entrySize q.key q.value
      updates := s.updates + 1 + 1 } { s with
      entries := (s.entries.insert q.key (some q.value)).insert p.key (some p.value)
      estimate := s.estimate + s.entrySize q.key q.value + s.entrySize p.key p.value
      updates := s.updates + 1 + 1 }
  rw [hestimate]
  exact (Agrees.refl hs.orderly hidle).of_copies hentries hinserted

/-- **A write and a removal commute**, because there is enough of the estimate to be taken off
before the write adds to it. -/
theorem agrees_merge_discard {p : Pending} {key : String}
    (hne : s.comparer.normalize p.key ≠ s.comparer.normalize key) :
    ((s.merge p).discard key).2.Agrees ((s.discard key).2.merge p) := by
  have hother : (s.merge p).entries.get? key = s.entries.get? key :=
    (Dictionary.get?_insert _ _ _ _).trans (if_neg hne.symm)
  cases hget : s.entries.get? key with
  | none =>
    rw [discard_of_none hget, discard_of_none (hother.trans hget)]
    exact .refl (hs.merge p).orderly hidle
  | some e =>
    have hentries := hs.orderly.copies_erase_insert hne (some p.value)
    have herased := (hs.orderly.insert p.key (some p.value)).erase key
    have hestimate : s.estimate - s.entrySize e.key e.bytes + s.entrySize p.key p.value
        = s.estimate + s.entrySize p.key p.value - s.entrySize e.key e.bytes :=
      (Nat.sub_add_comm (hs.entrySize_le hget)).symm
    rw [discard_of_some hget, discard_of_some (hother.trans hget)]
    show Agrees { s with
        entries := (s.entries.insert p.key (some p.value)).erase key
        estimate := s.estimate + s.entrySize p.key p.value - s.entrySize e.key e.bytes
        updates := s.updates + 1 + 1 } { s with
        entries := (s.entries.erase key).insert p.key (some p.value)
        estimate := s.estimate - s.entrySize e.key e.bytes + s.entrySize p.key p.value
        updates := s.updates + 1 + 1 }
    rw [hestimate]
    exact (Agrees.refl hs.orderly hidle).of_copies hentries herased

/-- **Two deeds under different keys commute.** -/
theorem agrees_after_after {x y : Deed}
    (hne : s.comparer.normalize x.key ≠ s.comparer.normalize y.key) :
    ((s.after x).after y).Agrees ((s.after y).after x) := by
  have hsame (z : Deed) : (s.after z).Agrees (s.after z) :=
    .refl (hs.after z).orderly ((pending_after s z).trans hidle)
  cases x with
  | pass key => exact hsame y
  | merge p =>
    cases y with
    | pass key => exact hsame (.merge p)
    | merge q => exact agrees_merge_merge hs hidle hne
    | discard key => exact agrees_merge_discard hs hidle hne
  | discard key =>
    cases y with
    | pass other => exact hsame (.discard key)
    | merge q => exact (agrees_merge_discard hs hidle hne.symm).symm
    | discard other =>
      show ((s.discard key).2.discard other).2.Agrees ((s.discard other).2.discard key).2
      rw [(discard_comm s key other).1]
      exact .refl ((hs.discard other).discard key).orderly
        ((pending_discard _ key).trans ((pending_discard s other).trans hidle))

end Two

/-- **Deeds under different keys can be done in any order.** -/
theorem agrees_of_perm {xs ys : List Deed} (hperm : xs.Perm ys) (hs : s.Covered c 0)
    (hidle : s.pending = []) (hapart : (xs.map fun x => s.comparer.normalize x.key).Nodup) :
    (xs.foldl after s).Agrees (ys.foldl after s) := by
  induction hperm generalizing s with
  | nil => exact .refl hs.orderly hidle
  | cons x _ ih =>
    refine ih (hs.after x) ((pending_after s x).trans hidle) ?_
    rw [comparer_after]
    exact hapart.of_cons
  | swap x y xs =>
    have hne : s.comparer.normalize y.key ≠ s.comparer.normalize x.key :=
      fun heq => (List.nodup_cons.mp hapart).1 (List.mem_cons.mpr (.inl heq))
    exact (agrees_after_after hs hidle hne).foldl_after xs
  | trans hfirst _ ih ih' =>
    exact (ih hs hidle hapart).trans (ih' hs hidle ((hfirst.map _).nodup_iff.mp hapart))

end Store

end Coffer
