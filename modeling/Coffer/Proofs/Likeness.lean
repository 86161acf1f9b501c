import Coffer.Proofs.Operations

/-!
# Stores that hold the same

Two stores are *alike* if they hold the same in memory: the same entries, in whatever order, under
the same comparer, with the same counters (`Store.Alike`). What is behind them, whom they tell of
their changes, and how often they were saved does not count.

Each change that an operation makes in memory keeps two stores alike (`Agrees.merge`,
`Agrees.discardAll`, `Agrees.discardEverything`). When several entries are removed, the two stores
may go through them in different orders. The order makes no difference, neither to the entries that
stay nor to the counters (`discardAll_perm`).
-/

namespace Coffer

/-! ## Dictionaries with the same entries -/

namespace Dictionary

variable {d d' : Dictionary}

/-- What an orderly dictionary has filed is told by its entries. -/
theorem Orderly.filed_eq (h : d.Orderly) :
    d.filed = d.entries.map fun e => { index := d.comparer.normalize e.key, entry := e } := by
  rw [entries, List.map_map]
  conv_lhs => rw [← List.map_id d.filed]
  refine List.map_congr_left fun f hf => ?_
  rw [Function.comp_apply, ← h.index_eq f hf]
  rfl

theorem Copies.filed (h : d'.Copies d) (hd : d.Orderly) : d'.filed.Perm d.filed := by
  rw [h.orderly.filed_eq, hd.filed_eq, h.comparer]
  exact h.entries.map _

theorem Copies.insert (h : d'.Copies d) (hd : d.Orderly) (key : String) (value : Option Bytes) :
    (d'.insert key value).Copies (d.insert key value) := by
  have hfiled := h.filed hd
  refine ⟨h.orderly.insert key value, ?_, ?_⟩
  · rw [comparer_insert, comparer_insert, h.comparer]
  · -- the key is there in both or in neither
    unfold Dictionary.insert
    simp only [h.comparer, hfiled.any_eq]
    split
    · exact (hfiled.map _).map _
    · exact (hfiled.append_right _).map _

theorem Copies.erase (h : d'.Copies d) (hd : d.Orderly) (key : String) :
    (d'.erase key).Copies (d.erase key) := by
  refine ⟨h.orderly.erase key, h.comparer, ?_⟩
  unfold Dictionary.erase
  simp only [h.comparer]
  exact ((h.filed hd).filter _).map _

theorem Orderly.mem_entries_iff (h : d.Orderly) {e : Entry} :
    e ∈ d.entries ↔ d.get? e.key = some e :=
  (h.get?_eq_some_iff.trans (and_iff_left rfl)).symm

/-- **The look-up determines the entries.** -/
theorem Orderly.copies_of_get?_eq (h : d.Orderly) (h' : d'.Orderly)
    (hcomparer : d'.comparer = d.comparer) (hget : ∀ key, d'.get? key = d.get? key) :
    d'.Copies d := by
  refine ⟨h', hcomparer, ?_⟩
  rw [List.perm_ext_iff_of_nodup (h'.nodup_keys.of_map _) (h.nodup_keys.of_map _)]
  intro e
  rw [h'.mem_entries_iff, h.mem_entries_iff, hget]

theorem erase_comm (d : Dictionary) (key other : String) :
    (d.erase key).erase other = (d.erase other).erase key := by
  simp only [erase, List.filter_comm]

end Dictionary

namespace Store

variable {s a b d a' b' : Store}

/-! ## Removing several entries -/

theorem discard_of_none {key : String} (h : s.entries.get? key = none) :
    s.discard key = (none, s) := by
  simp [discard, Dictionary.takeOut, h]

theorem discard_of_some {key : String} {e : Entry} (h : s.entries.get? key = some e) :
    s.discard key = (some e, { s with
      entries := s.entries.erase key
      estimate := s.estimate - s.entrySize e.key e.bytes
      updates := s.updates + 1 }) := by
  simp [discard, Dictionary.takeOut, h]

theorem discardAll_cons_of_none {key : String} (h : s.entries.get? key = none)
    (keys : List String) : s.discardAll (key :: keys) = s.discardAll keys := by
  rw [discardAll, discard_of_none h]
  rfl

theorem discardAll_cons_of_some {key : String} {e : Entry} (h : s.entries.get? key = some e)
    (keys : List String) :
    s.discardAll (key :: keys)
      = (e :: ((s.discard key).2.discardAll keys).1, ((s.discard key).2.discardAll keys).2) := by
  rw [discardAll, discard_of_some h]
  rfl

theorem comparer_discard (s : Store) (key : String) :
    (s.discard key).2.entries.comparer = s.entries.comparer := by
  cases hget : s.entries.get? key with
  | none => rw [discard_of_none hget]
  | some e => rw [discard_of_some hget, Dictionary.comparer_erase]

/-- Keys that are equal under the comparer remove the same entry. -/
theorem discard_congr {x y : String}
    (h : s.entries.comparer.normalize x = s.entries.comparer.normalize y) :
    s.discard x = s.discard y := by
  simp only [discard, Dictionary.takeOut, Dictionary.get?, Dictionary.erase, h]

/-- Removing one key does not touch what another finds. -/
theorem get?_discard_of_ne {key other : String}
    (h : s.entries.comparer.normalize other ≠ s.entries.comparer.normalize key) :
    (s.discard key).2.entries.get? other = s.entries.get? other := by
  cases hget : s.entries.get? key with
  | none => rw [discard_of_none hget]
  | some e => rw [discard_of_some hget, Dictionary.get?_erase, if_neg h]

/-- The order in which two keys are removed makes no difference. -/
theorem discard_comm (s : Store) (x y : String) :
    ((s.discard x).2.discard y).2 = ((s.discard y).2.discard x).2
      ∧ ((s.discard x).1.toList ++ ((s.discard x).2.discard y).1.toList).Perm
        ((s.discard y).1.toList ++ ((s.discard y).2.discard x).1.toList) := by
  by_cases hkey : s.entries.comparer.normalize x = s.entries.comparer.normalize y
  · have hagain : (s.discard y).2.discard x = (s.discard y).2.discard y :=
      discard_congr (by rw [comparer_discard, hkey])
    rw [discard_congr hkey, hagain]
    exact ⟨rfl, .refl _⟩
  · have hx := get?_discard_of_ne (s := s) (Ne.symm hkey)
    have hy := get?_discard_of_ne (s := s) hkey
    cases hgetx : s.entries.get? x with
    | none =>
      rw [hgetx] at hy
      rw [discard_of_none hgetx, discard_of_none hy]
      simp
    | some e =>
      cases hgety : s.entries.get? y with
      | none =>
        rw [hgety] at hx
        rw [discard_of_none hgety, discard_of_none hx]
        simp
      | some f =>
        rw [hgety] at hx
        rw [hgetx] at hy
        rw [discard_of_some hx, discard_of_some hy, discard_of_some hgetx, discard_of_some hgety]
        refine ⟨?_, .swap f e []⟩
        simp only [Dictionary.erase_comm, Nat.sub_right_comm, entrySize]

/-- **The order in which entries are removed makes no difference.** -/
theorem discardAll_perm {keys keys' : List String} (h : keys.Perm keys') (s : Store) :
    (s.discardAll keys).2 = (s.discardAll keys').2
      ∧ (s.discardAll keys).1.Perm (s.discardAll keys').1 := by
  induction h generalizing s with
  | nil => exact ⟨rfl, .refl _⟩
  | cons key _ ih =>
    obtain ⟨hstore, hremoved⟩ := ih (s.discard key).2
    exact ⟨hstore, hremoved.append_left _⟩
  | swap x y keys =>
    obtain ⟨hstore, hremoved⟩ := discard_comm s y x
    refine ⟨?_, ?_⟩
    · show (((s.discard y).2.discard x).2.discardAll keys).2
        = (((s.discard x).2.discard y).2.discardAll keys).2
      rw [hstore]
    · show ((s.discard y).1.toList ++ (((s.discard y).2.discard x).1.toList
        ++ (((s.discard y).2.discard x).2.discardAll keys).1)).Perm
        ((s.discard x).1.toList ++ (((s.discard x).2.discard y).1.toList
        ++ (((s.discard x).2.discard y).2.discardAll keys).1))
      rw [hstore, ← List.append_assoc, ← List.append_assoc]
      exact hremoved.append_right _
  | trans _ _ ih ih' =>
    exact ⟨(ih s).1.trans (ih' s).1, (ih s).2.trans (ih' s).2⟩

/-! ## Stores that are alike -/

/-- The two stores hold the same in memory. -/
structure Alike (a b : Store) : Prop where
  entries : b.entries.entries.Perm a.entries.entries
  comparer : b.comparer = a.comparer
  encoding : b.config.encoding = a.config.encoding
  estimate : b.estimate = a.estimate
  updates : b.updates = a.updates
  closed : b.closed = a.closed

/-- Stores that are alike between two operations. -/
structure Agrees (a b : Store) : Prop extends Alike a b where
  orderly : a.entries.Orderly
  orderly' : b.entries.Orderly
  idle : a.pending = []
  idle' : b.pending = []

theorem Agrees.refl (horderly : a.entries.Orderly) (hidle : a.pending = []) : a.Agrees a where
  entries := .refl _
  comparer := rfl
  encoding := rfl
  estimate := rfl
  updates := rfl
  closed := rfl
  orderly := horderly
  orderly' := horderly
  idle := hidle
  idle' := hidle

theorem Agrees.symm (h : a.Agrees b) : b.Agrees a where
  entries := h.entries.symm
  comparer := h.comparer.symm
  encoding := h.encoding.symm
  estimate := h.estimate.symm
  updates := h.updates.symm
  closed := h.closed.symm
  orderly := h.orderly'
  orderly' := h.orderly
  idle := h.idle'
  idle' := h.idle

theorem Agrees.trans (h : a.Agrees b) (h' : b.Agrees d) : a.Agrees d where
  entries := h'.entries.trans h.entries
  comparer := h'.comparer.trans h.comparer
  encoding := h'.encoding.trans h.encoding
  estimate := h'.estimate.trans h.estimate
  updates := h'.updates.trans h.updates
  closed := h'.closed.trans h.closed
  orderly := h.orderly
  orderly' := h'.orderly'
  idle := h.idle
  idle' := h'.idle'

theorem Agrees.copies (h : a.Agrees b) : b.entries.Copies a.entries :=
  ⟨h.orderly', h.comparer, h.entries⟩

theorem Agrees.get?_eq (h : a.Agrees b) (key : String) :
    b.entries.get? key = a.entries.get? key :=
  h.copies.get?_eq h.orderly key

theorem Agrees.entrySize_eq (h : a.Agrees b) (key : String) (value : Bytes) :
    b.entrySize key value = a.entrySize key value := by
  rw [entrySize, entrySize, h.encoding]

theorem Agrees.of_copies {d d' : Dictionary} (h : a.Agrees b) (hcopies : d'.Copies d)
    (hd : d.Orderly) {estimate updates : Nat} :
    Agrees { a with entries := d, estimate, updates } { b with entries := d', estimate, updates } :=
  { h with
    entries := hcopies.entries
    comparer := hcopies.comparer
    orderly := hd
    orderly' := hcopies.orderly
    estimate := rfl
    updates := rfl }

theorem Agrees.merge (h : a.Agrees b) (p : Pending) : (a.merge p).Agrees (b.merge p) := by
  unfold Store.merge
  rw [h.estimate, h.updates, h.entrySize_eq]
  exact h.of_copies (h.copies.insert h.orderly _ _) (h.orderly.insert _ _)

theorem Agrees.discard (h : a.Agrees b) (key : String) :
    (b.discard key).1 = (a.discard key).1 ∧ (a.discard key).2.Agrees (b.discard key).2 := by
  have hget := h.get?_eq key
  cases hfound : a.entries.get? key with
  | none =>
    rw [hfound] at hget
    rw [discard_of_none hget, discard_of_none hfound]
    exact ⟨rfl, h⟩
  | some e =>
    rw [hfound] at hget
    rw [discard_of_some hget, discard_of_some hfound, h.estimate, h.updates, h.entrySize_eq]
    exact ⟨rfl, h.of_copies (h.copies.erase h.orderly key) (h.orderly.erase key)⟩

/-- The same entries are removed on both sides, in whatever order each goes through them. -/
theorem Agrees.discardAll (h : a.Agrees b) {keys keys' : List String} (hkeys : keys'.Perm keys) :
    (b.discardAll keys').1.Perm (a.discardAll keys).1
      ∧ (a.discardAll keys).2.Agrees (b.discardAll keys').2 := by
  obtain ⟨hstore, hremoved⟩ := discardAll_perm hkeys b
  rw [hstore]
  -- now both go through them in the same order
  suffices hsame : (b.discardAll keys).1 = (a.discardAll keys).1
      ∧ (a.discardAll keys).2.Agrees (b.discardAll keys).2 from
    ⟨hsame.1 ▸ hremoved, hsame.2⟩
  clear hstore hremoved hkeys
  induction keys generalizing a b with
  | nil => exact ⟨rfl, h⟩
  | cons key keys ih =>
    obtain ⟨hfirst, hdiscard⟩ := h.discard key
    obtain ⟨hrest, hagrees⟩ := ih hdiscard
    exact ⟨congrArg₂ (fun first rest => first.toList ++ rest) hfirst hrest, hagrees⟩

theorem Agrees.discardEverything (h : a.Agrees b) :
    a.discardEverything.Agrees b.discardEverything := by
  have hcopies : b.entries.clear.Copies a.entries.clear := ⟨.clear _, h.comparer, .refl _⟩
  unfold Store.discardEverything
  rw [h.updates]
  exact h.of_copies hcopies (.clear _)

theorem Agrees.close (h : a.Agrees b) :
    Agrees { a with closed := true } { b with closed := true } :=
  { h with closed := rfl }

/-! ## What does not count -/

/-- The store without what is behind it: its archive, how often it was saved, and its feed. -/
def memory (s : Store) : Store := { s.unsaved with feed := {} }

theorem memory_of_unsaved_eq (h : a'.unsaved = a.unsaved) : a'.memory = a.memory :=
  congrArg (fun s : Store => { s with feed := {} }) h

theorem memory_announce (s : Store) (c : Change) : (s.announce c).memory = s.memory := by
  rw [announce_eq]
  rfl

theorem memory_announceAll (es : List Entry) (s : Store) :
    (es.foldl Session.announceRemoval s).memory = s.memory := by
  induction es generalizing s with
  | nil => rfl
  | cons e es ih => exact (ih _).trans (memory_announce s _)

/-- **What is behind two stores does not count.** -/
theorem Agrees.of_memory (h : a.Agrees b) (ha : a'.memory = a.memory)
    (hb : b'.memory = b.memory) : a'.Agrees b' := by
  cases a
  cases a'
  cases b
  cases b'
  simp only [memory, unsaved, Store.mk.injEq] at ha hb
  obtain ⟨rfl, -, rfl, rfl, rfl, rfl, -, -, rfl⟩ := ha
  obtain ⟨rfl, -, rfl, rfl, rfl, rfl, -, -, rfl⟩ := hb
  exact { h with }

end Store

end Coffer
