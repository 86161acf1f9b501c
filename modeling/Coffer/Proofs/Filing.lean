import Mathlib.Data.List.Induction
import Mathlib.Data.List.Nodup
import Coffer.Dictionary.Lemmas

/-!
# Filing a list of entries

What is in a dictionary after a list of entries was filed one after the other. Of the entries whose
keys are equal under the comparer one stays, with the spelling of the first and the value of the
last of them (`get?_ofEntries`). If no two are equal, all stay as they are (`entries_ofEntries`),
and only then does their number stay (`nodup_of_size_ofEntries`).

An orderly dictionary is determined by its entries in any order (`Orderly.get?_eq_of_perm`).
-/

namespace Coffer.Dictionary

/-! ## Orderly dictionaries -/

theorem Orderly.clear (d : Dictionary) : d.clear.Orderly :=
  ⟨by simp [Dictionary.clear], by simp [Dictionary.clear]⟩

/-- The normal forms of the keys of an orderly dictionary are what the entries are filed under. -/
theorem Orderly.map_index {d : Dictionary} (h : d.Orderly) :
    d.filed.map (·.index) = d.entries.map fun e => d.comparer.normalize e.key := by
  rw [entries, List.map_map]
  exact List.map_congr_left fun f hf => h.index_eq f hf

theorem Orderly.nodup_keys {d : Dictionary} (h : d.Orderly) :
    (d.entries.map fun e => d.comparer.normalize e.key).Nodup :=
  h.map_index ▸ h.nodup

/-- In an orderly dictionary a key finds the entry whose key is equal to it. -/
theorem Orderly.get?_eq_some_iff {d : Dictionary} (h : d.Orderly) {key : String} {e : Entry} :
    d.get? key = some e
      ↔ e ∈ d.entries ∧ d.comparer.normalize e.key = d.comparer.normalize key := by
  simp only [get?, Option.map_eq_some_iff]
  constructor
  · rintro ⟨f, hf, rfl⟩
    have hmem := List.mem_of_find?_eq_some hf
    have hindex : f.index = d.comparer.normalize key := by simpa using List.find?_some hf
    exact ⟨List.mem_map.mpr ⟨f, hmem, rfl⟩, by rw [← h.index_eq f hmem, hindex]⟩
  · rintro ⟨hmem, hkey⟩
    obtain ⟨f, hf, rfl⟩ := List.mem_map.mp hmem
    have hindex : f.index = d.comparer.normalize key := by rw [h.index_eq f hf, hkey]
    obtain ⟨g, hg⟩ : ∃ g, d.filed.find? (fun f => f.index == d.comparer.normalize key) = some g :=
      Option.isSome_iff_exists.mp (List.find?_isSome.mpr ⟨f, hf, by simpa using hindex⟩)
    have hgf : g = f := by
      apply List.inj_on_of_nodup_map h.nodup (List.mem_of_find?_eq_some hg) hf
      rw [hindex]
      simpa using List.find?_some hg
    exact ⟨f, hgf ▸ hg, rfl⟩

/-- **The entries in any order determine the look-up.** -/
theorem Orderly.get?_eq_of_perm {d d' : Dictionary} (h : d.Orderly) (h' : d'.Orderly)
    (hc : d'.comparer = d.comparer) (hperm : d'.entries.Perm d.entries) (key : String) :
    d'.get? key = d.get? key := by
  apply Option.ext
  intro e
  rw [h'.get?_eq_some_iff, h.get?_eq_some_iff, hc, hperm.mem_iff]

/-! ## Filing one more -/

theorem contains_eq_any (d : Dictionary) (key : String) :
    d.contains key = d.filed.any fun f => f.index == d.comparer.normalize key := by
  rw [contains, get?, Option.isSome_map, List.isSome_find?]

theorem ofEntries_concat (c : Comparer) (es : List Entry) (e : Entry) :
    ofEntries c (es ++ [e]) = (ofEntries c es).insert e.key e.value := by
  simp [ofEntries]

@[simp] theorem comparer_ofEntries (c : Comparer) (es : List Entry) :
    (ofEntries c es).comparer = c := by
  induction es using List.reverseRecOn with
  | nil => rfl
  | append_singleton es e ih => rw [ofEntries_concat, comparer_insert, ih]

theorem Orderly.ofEntries (c : Comparer) (es : List Entry) : (ofEntries c es).Orderly := by
  induction es using List.reverseRecOn with
  | nil => exact .empty c
  | append_singleton es e ih =>
    rw [ofEntries_concat]
    exact ih.insert e.key e.value

/-- A key that finds nothing is filed behind all others. -/
theorem filed_insert_of_get?_eq_none {d : Dictionary} {key : String} (h : d.get? key = none)
    (value : Option Bytes) :
    (d.insert key value).filed
      = d.filed ++ [{ index := d.comparer.normalize key, entry := { key, value } }] := by
  have hnone : (d.filed.any fun f => f.index == d.comparer.normalize key) = false := by
    rw [← contains_eq_any, contains, h, Option.isSome_none]
  simp only [insert, hnone, Bool.false_eq_true, if_false]

/-- A key that finds an entry replaces its value. The key's spelling plays no part in it. -/
theorem insert_of_contains {d : Dictionary} {key : String} (h : d.contains key = true)
    (value : Option Bytes) :
    d.insert key value
      = { d with
          filed := d.filed.map fun f =>
            if f.index == d.comparer.normalize key then { f with entry := { f.entry with value } }
            else f } := by
  rw [contains_eq_any] at h
  simp only [insert, if_pos h]

theorem keys_insert_of_get?_eq_some {d : Dictionary} {key : String} {e : Entry}
    (h : d.get? key = some e) (value : Option Bytes) : (d.insert key value).keys = d.keys := by
  have hcontains : d.contains key = true := by rw [contains, h, Option.isSome_some]
  simp only [insert_of_contains hcontains, keys, entries, List.map_map]
  apply List.map_congr_left
  intro f _
  simp only [Function.comp_apply]
  split <;> rfl

theorem length_keys (d : Dictionary) : d.keys.length = d.size := by
  rw [keys, entries, List.length_map, List.length_map, size]

theorem size_insert_of_get?_eq_some {d : Dictionary} {key : String} {e : Entry}
    (h : d.get? key = some e) (value : Option Bytes) : (d.insert key value).size = d.size := by
  rw [← length_keys, keys_insert_of_get?_eq_some h, length_keys]

/-! ## Spellings of one key -/

section Spellings

variable {d : Dictionary} {key other : String}

theorem get?_congr (h : d.comparer.normalize key = d.comparer.normalize other) :
    d.get? key = d.get? other := by
  rw [get?_eq, get?_eq, h]

theorem contains_congr (h : d.comparer.normalize key = d.comparer.normalize other) :
    d.contains key = d.contains other := by
  rw [contains, contains, get?_congr h]

/-- Only a key that is new brings its spelling along. -/
theorem insert_congr (h : d.comparer.normalize key = d.comparer.normalize other)
    (hkey : d.contains key = true) (value : Option Bytes) :
    d.insert key value = d.insert other value := by
  rw [insert_of_contains hkey, insert_of_contains (contains_congr h ▸ hkey), h]

theorem erase_congr (h : d.comparer.normalize key = d.comparer.normalize other) :
    d.erase key = d.erase other := by
  rw [erase, erase, h]

end Spellings

/-! ## What stays of a list -/

/-- What stays of a list of entries under a key. Of the entries whose keys are equal to it under the
comparer it has the spelling of the first and the value of the last. -/
def survivor? (c : Comparer) (es : List Entry) (key : String) : Option Entry :=
  let equal := es.filter fun e => c.normalize e.key = c.normalize key
  match equal.head?, equal.getLast? with
  | some first, some last => some { key := first.key, value := last.value }
  | _, _ => none

theorem survivor?_concat (c : Comparer) (es : List Entry) (e : Entry) (key : String) :
    survivor? c (es ++ [e]) key =
      if c.normalize key = c.normalize e.key then
        some { key := ((survivor? c es e.key).map (·.key)).getD e.key, value := e.value }
      else survivor? c es key := by
  unfold survivor?
  rw [List.filter_append]
  split
  · next hkey =>
    rw [hkey]
    -- the new entry is the last with its key, and the first only if there was none
    cases hequal : es.filter fun f => decide (c.normalize f.key = c.normalize e.key) with
    | nil => simp
    | cons f rest =>
      have hlast : (f :: (rest ++ [e])).getLast? = some e := by
        rw [← List.cons_append, List.getLast?_concat]
      have hfirst : (f :: rest).getLast? = some ((f :: rest).getLast (by simp)) :=
        List.getLast?_eq_some_getLast _
      simp [hlast, hfirst]
  · next hkey =>
    have hne : ¬c.normalize e.key = c.normalize key := fun h => hkey h.symm
    simp [hne]

/-- **Of the entries with equal keys the first spelling and the last value stay.** -/
theorem get?_ofEntries (c : Comparer) (es : List Entry) (key : String) :
    (ofEntries c es).get? key = survivor? c es key := by
  induction es using List.reverseRecOn generalizing key with
  | nil => rfl
  | append_singleton es e ih =>
    rw [ofEntries_concat, get?_insert, survivor?_concat, comparer_ofEntries, ih, ih]

/-! ## Lists without equal keys -/

/-- If no two keys are equal, all entries stay, in their order. -/
theorem entries_ofEntries {c : Comparer} {es : List Entry}
    (h : (es.map fun e => c.normalize e.key).Nodup) : (ofEntries c es).entries = es := by
  induction es using List.reverseRecOn with
  | nil => rfl
  | append_singleton es e ih =>
    rw [List.map_append, List.nodup_append] at h
    obtain ⟨hes, -, hne⟩ := h
    have hnone : (ofEntries c es).get? e.key = none := by
      apply Option.eq_none_iff_forall_ne_some.mpr
      intro f hf
      rw [(Orderly.ofEntries c es).get?_eq_some_iff, ih hes, comparer_ofEntries] at hf
      exact hne _ (List.mem_map.mpr ⟨f, hf.1, rfl⟩) _ (by simp) hf.2
    rw [ofEntries_concat, entries, filed_insert_of_get?_eq_none hnone, List.map_append, ← entries,
      ih hes]
    rfl

theorem size_ofEntries_le (c : Comparer) (es : List Entry) : (ofEntries c es).size ≤ es.length := by
  induction es using List.reverseRecOn with
  | nil => exact Nat.le_refl 0
  | append_singleton es e ih =>
    rw [ofEntries_concat, List.length_append, List.length_singleton]
    cases hfound : (ofEntries c es).get? e.key with
    | none =>
      rw [size, filed_insert_of_get?_eq_none hfound, List.length_append, ← size]
      exact Nat.add_le_add_right ih 1
    | some f =>
      rw [size_insert_of_get?_eq_some hfound]
      exact Nat.le_succ_of_le ih

/-- If as many entries stay as there were, no two keys were equal. -/
theorem nodup_of_size_ofEntries {c : Comparer} {es : List Entry}
    (h : (ofEntries c es).size = es.length) : (es.map fun e => c.normalize e.key).Nodup := by
  induction es using List.reverseRecOn with
  | nil => exact List.nodup_nil
  | append_singleton es e ih =>
    have hle := size_ofEntries_le c es
    rw [ofEntries_concat, List.length_append, List.length_singleton] at h
    cases hfound : (ofEntries c es).get? e.key with
    | some f =>
      -- one entry was merged, and no later one can make up for it
      rw [size_insert_of_get?_eq_some hfound] at h
      omega
    | none =>
      rw [size, filed_insert_of_get?_eq_none hfound, List.length_append, List.length_singleton,
        ← size] at h
      have hes := ih (by omega)
      rw [List.map_append, List.nodup_append]
      refine ⟨hes, by simp, ?_⟩
      rintro i hi j hj rfl
      obtain ⟨f, hf, hfi⟩ := List.mem_map.mp hi
      have hsome : (ofEntries c es).get? e.key = some f := by
        rw [(Orderly.ofEntries c es).get?_eq_some_iff, entries_ofEntries hes, comparer_ofEntries]
        exact ⟨hf, hfi.trans (by simpa using hj)⟩
      rw [hfound] at hsome
      cases hsome

/-- Entries that stand in an orderly dictionary, filed anew in any order, are filed as they were. -/
theorem Orderly.entries_ofEntries_perm {d : Dictionary} (h : d.Orderly) {es : List Entry}
    (hperm : es.Perm d.entries) : (Dictionary.ofEntries d.comparer es).entries = es :=
  entries_ofEntries ((hperm.map _).nodup_iff.mpr h.nodup_keys)

end Coffer.Dictionary
