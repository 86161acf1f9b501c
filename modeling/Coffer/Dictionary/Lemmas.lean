import Coffer.Dictionary.Basic

/-!
# Dictionaries as finite maps

What each operation does to the look-up. A key counts by its normal form alone: inserting changes
the look-up of the keys with that normal form and of no others (`get?_insert`), and so does erasing
(`get?_erase`).

A dictionary is *orderly* if each entry is filed under the normal form of its own spelling and no
two under the same one. Orderly dictionaries stay orderly.
-/

namespace Coffer.Dictionary

/-- The entry filed under a normal form. -/
def find? (filed : List Filed) (index : String) : Option Entry :=
  (filed.find? fun f => f.index == index).map (·.entry)

theorem get?_eq (d : Dictionary) (key : String) :
    d.get? key = find? d.filed (d.comparer.normalize key) := rfl

@[simp]
theorem get?_empty (c : Comparer) (key : String) : (empty c).get? key = none := rfl

@[simp]
theorem get?_clear (d : Dictionary) (key : String) : d.clear.get? key = none := rfl

@[simp]
theorem comparer_insert (d : Dictionary) (key : String) (value : Option Bytes) :
    (d.insert key value).comparer = d.comparer := by
  unfold insert
  simp only
  split <;> rfl

@[simp]
theorem comparer_erase (d : Dictionary) (key : String) : (d.erase key).comparer = d.comparer := rfl

/-- Replacing the value filed under an index. -/
theorem find?_replace (filed : List Filed) (index other : String) (value : Option Bytes) :
    find? (filed.map fun f =>
        if f.index == index then { f with entry := { f.entry with value } } else f) other =
      if other = index then (find? filed other).map fun e => { e with value }
      else find? filed other := by
  induction filed with
  | nil => simp [find?]
  | cons f rest ih =>
    simp only [find?] at ih ⊢
    simp only [List.map_cons, List.find?_cons]
    by_cases hf : f.index = index
    · by_cases ho : other = index
      · simp [hf, ho]
      · have hfo : (f.index == other) = false := by
          simp only [beq_eq_false_iff_ne, ne_eq]
          exact fun h => ho (h ▸ hf)
        simp only [hf, beq_self_eq_true, if_true, ho, if_false] at ih ⊢
        rw [hf] at hfo
        simp only [hfo]
        exact ih
    · have hfi : (f.index == index) = false := by simpa using hf
      simp only [hfi, Bool.false_eq_true, if_false]
      by_cases hfo : f.index = other
      · have ho : other ≠ index := fun h => hf (hfo.trans h)
        simp [hfo, ho]
      · have hbeq : (f.index == other) = false := by simpa using hfo
        simp only [hbeq]
        exact ih

/-- **Inserting sets the entry of all keys with the same normal form.** It keeps the spelling that
is there. -/
theorem get?_insert (d : Dictionary) (key other : String) (value : Option Bytes) :
    (d.insert key value).get? other =
      if d.comparer.normalize other = d.comparer.normalize key then
        some { key := ((d.get? key).map (·.key)).getD key, value }
      else d.get? other := by
  rw [get?_eq, comparer_insert]
  unfold insert
  simp only
  split
  · rename_i hany
    rw [find?_replace]
    split
    · rename_i ho
      rw [ho, get?_eq]
      obtain ⟨f, hf, hbeq⟩ := List.any_eq_true.mp hany
      cases hfind : find? d.filed (d.comparer.normalize key) with
      | none =>
        simp only [find?, Option.map_eq_none_iff, List.find?_eq_none] at hfind
        exact absurd hbeq (hfind f hf)
      | some e => rfl
    · rfl
  · rename_i hany
    have hnone : find? d.filed (d.comparer.normalize key) = none := by
      simp only [find?, Option.map_eq_none_iff, List.find?_eq_none]
      intro f hf hbeq
      exact hany (List.any_eq_true.mpr ⟨f, hf, hbeq⟩)
    simp only [find?] at hnone ⊢
    rw [List.find?_append, get?_eq, get?_eq]
    simp only [find?]
    split
    · rename_i ho
      rw [ho]
      rw [Option.map_eq_none_iff] at hnone
      simp [hnone]
    · rename_i ho
      have hbeq : (d.comparer.normalize key == d.comparer.normalize other) = false := by
        simp only [beq_eq_false_iff_ne, ne_eq]
        exact fun h => ho h.symm
      simp [hbeq]

/-- **Erasing removes the entry of all keys with the same normal form.** -/
theorem get?_erase (d : Dictionary) (key other : String) :
    (d.erase key).get? other =
      if d.comparer.normalize other = d.comparer.normalize key then none else d.get? other := by
  simp only [get?, erase]
  rw [List.find?_filter]
  split
  · rename_i ho
    rw [ho, Option.map_eq_none_iff, List.find?_eq_none]
    intro f _
    cases hf : f.index == d.comparer.normalize key <;> simp_all
  · rename_i ho
    congr 2
    funext f
    by_cases hf : f.index = d.comparer.normalize other
    · have hne : f.index ≠ d.comparer.normalize key := fun h => ho (hf.symm.trans h)
      simp [hf, hf ▸ hne]
    · simp [hf]

/-! ## Orderly dictionaries -/

/-- Each entry is filed under the normal form of its spelling, and no two under the same one. -/
structure Orderly (d : Dictionary) : Prop where
  index_eq : ∀ f ∈ d.filed, f.index = d.comparer.normalize f.entry.key
  nodup : (d.filed.map (·.index)).Nodup

theorem Orderly.empty (c : Comparer) : (empty c).Orderly :=
  ⟨by simp [Dictionary.empty], by simp [Dictionary.empty]⟩

theorem Orderly.erase {d : Dictionary} (h : d.Orderly) (key : String) : (d.erase key).Orderly := by
  refine ⟨?_, ?_⟩
  · intro f hf
    exact h.index_eq f (List.mem_filter.mp hf).1
  · exact List.Nodup.sublist (List.Sublist.map _ List.filter_sublist) h.nodup

theorem Orderly.insert {d : Dictionary} (h : d.Orderly) (key : String) (value : Option Bytes) :
    (d.insert key value).Orderly := by
  unfold Dictionary.insert
  simp only
  split
  · refine ⟨?_, ?_⟩
    · intro f hf
      obtain ⟨g, hg, rfl⟩ := List.mem_map.mp hf
      have hindex := h.index_eq g hg
      split <;> exact hindex
    · have hsame : (d.filed.map fun f =>
          if f.index == d.comparer.normalize key then
            { f with entry := { f.entry with value } } else f).map (·.index) =
          d.filed.map (·.index) := by
        rw [List.map_map]
        apply List.map_congr_left
        intro f _
        simp only [Function.comp_apply]
        split <;> rfl
      rw [hsame]
      exact h.nodup
  · rename_i hany
    refine ⟨?_, ?_⟩
    · intro f hf
      rcases List.mem_append.mp hf with hf | hf
      · exact h.index_eq f hf
      · rw [List.mem_singleton.mp hf]
    · rw [List.map_append]
      apply List.nodup_append.mpr
      refine ⟨h.nodup, by simp, ?_⟩
      intro i hi j hj hij
      obtain ⟨f, hf, rfl⟩ := List.mem_map.mp hi
      simp only [List.map_cons, List.map_nil, List.mem_singleton] at hj
      exact hany (List.any_eq_true.mpr ⟨f, hf, by simpa using hij.trans hj⟩)

end Coffer.Dictionary
