import Mathlib.Data.Set.Card
import Coffer.Proofs.Filing

/-!
# What a dictionary holds after some calls

The keys that are equal under the comparer share one slot. What is in it is told by the calls so
far, without a look at the dictionary: something was inserted and not taken out again (`Occupied`),
its value is that of the last insertion, and its spelling that of the first one since the slot was
empty (`Holds`). The dictionary says the same, whatever the calls were (`reflects_run`).

A call either fills a slot, vacates it or leaves it alone. One lemma for each says what it makes of
what the calls before it told, and the rest is induction from the last call.
-/

namespace Coffer.Dictionary

/-- A call that changes a dictionary. -/
inductive Call where
  | insert (key : String) (value : Option Bytes)
  | remove (key : String)
  | clear
  deriving Repr, DecidableEq

namespace Call

/-- The dictionary after a call. -/
def apply (d : Dictionary) : Call → Dictionary
  | .insert key value => (d.exchange key value).2
  | .remove key => (d.takeOut key).2
  | .clear => d.clear

/-- The call puts something into the slot of a key. -/
def Fills (c : Comparer) (key : String) : Call → Prop
  | .insert other _ => c.normalize other = c.normalize key
  | .remove _ | .clear => False

/-- The call empties the slot of a key. -/
def Vacates (c : Comparer) (key : String) : Call → Prop
  | .insert _ _ => False
  | .remove other => c.normalize other = c.normalize key
  | .clear => True

end Call

/-- The dictionary that calls make of an empty one. -/
def run (c : Comparer) (calls : List Call) : Dictionary := calls.foldl Call.apply (empty c)

/-- Something was inserted under the key and not taken out again. -/
def Occupied (c : Comparer) (calls : List Call) (key : String) : Prop :=
  ∃ before other value after, calls = before ++ .insert other value :: after
    ∧ c.normalize other = c.normalize key ∧ ∀ a ∈ after, ¬a.Vacates c key

/-- The calls say that the entry is in the slot of the key. -/
structure Holds (c : Comparer) (calls : List Call) (key : String) (e : Entry) : Prop where
  /-- Its value is that of the last insertion, and the slot was left alone since. -/
  value : ∃ before other after, calls = before ++ .insert other e.value :: after
    ∧ c.normalize other = c.normalize key ∧ ∀ a ∈ after, ¬a.Fills c key ∧ ¬a.Vacates c key
  /-- Its spelling is that of the first insertion since the slot was empty. -/
  spelling : ∃ before value after, calls = before ++ .insert e.key value :: after
    ∧ c.normalize e.key = c.normalize key ∧ ¬Occupied c before key
    ∧ ∀ a ∈ after, ¬a.Vacates c key

variable {c : Comparer} {calls : List Call} {a : Call} {key : String} {e : Entry}

/-! ## One more call -/

theorem Call.exists_insert_of_fills (h : a.Fills c key) : ∃ other value, a = .insert other value := by
  cases a with
  | insert other value => exact ⟨other, value, rfl⟩
  | remove _ => cases h
  | clear => cases h

theorem run_concat (c : Comparer) (calls : List Call) (a : Call) :
    run c (calls ++ [a]) = a.apply (run c calls) := by
  simp [run]

theorem Orderly.run (c : Comparer) (calls : List Call) : (run c calls).Orderly := by
  induction calls using List.reverseRecOn with
  | nil => exact .empty c
  | append_singleton calls a ih =>
    rw [run_concat]
    cases a with
    | insert key value => exact ih.insert key value
    | remove key => exact ih.erase key
    | clear => exact .clear _

@[simp] theorem comparer_run (c : Comparer) (calls : List Call) : (run c calls).comparer = c := by
  induction calls using List.reverseRecOn with
  | nil => rfl
  | append_singleton calls a ih =>
    rw [run_concat]
    cases a with
    | insert key value => exact (comparer_insert _ key value).trans ih
    | remove key => exact ih
    | clear => exact ih

theorem Holds.occupied (h : Holds c calls key e) : Occupied c calls key := by
  obtain ⟨before, value, after, hcalls, hkey, -, hafter⟩ := h.spelling
  exact ⟨before, e.key, value, after, hcalls, hkey, hafter⟩

/-- A slot is occupied if the last call fills it, or leaves it occupied. -/
theorem occupied_concat :
    Occupied c (calls ++ [a]) key ↔ a.Fills c key ∨ Occupied c calls key ∧ ¬a.Vacates c key := by
  constructor
  · rintro ⟨before, other, value, after, hcalls, hkey, hafter⟩
    rcases List.eq_nil_or_concat after with rfl | ⟨after, b, rfl⟩
    · obtain ⟨-, hlast⟩ := List.append_inj' hcalls rfl
      obtain rfl : a = .insert other value := by simpa using hlast
      exact .inl hkey
    · rw [List.concat_eq_append, ← List.cons_append, ← List.append_assoc] at hcalls
      obtain ⟨rfl, hab⟩ := List.append_inj' hcalls rfl
      obtain rfl : a = b := by simpa using hab
      simp only [List.concat_eq_append, List.forall_mem_append, List.forall_mem_singleton] at hafter
      exact .inr ⟨⟨before, other, value, after, rfl, hkey, hafter.1⟩, hafter.2⟩
  · rintro (hfills | ⟨⟨before, other, value, after, rfl, hkey, hafter⟩, hvacates⟩)
    · obtain ⟨other, value, rfl⟩ := Call.exists_insert_of_fills hfills
      exact ⟨calls, other, value, [], rfl, hfills, by simp⟩
    · refine ⟨before, other, value, after ++ [a], by simp, hkey, ?_⟩
      simpa only [List.forall_mem_append, List.forall_mem_singleton] using ⟨hafter, hvacates⟩

/-- A call that leaves a slot alone changes nothing about what is in it. -/
theorem Holds.concat (h : Holds c calls key e) (hfills : ¬a.Fills c key)
    (hvacates : ¬a.Vacates c key) : Holds c (calls ++ [a]) key e := by
  obtain ⟨before, other, after, hcalls, hother, hafter⟩ := h.value
  obtain ⟨before', value, after', hcalls', hkey, hempty, hafter'⟩ := h.spelling
  refine ⟨⟨before, other, after ++ [a], by simp [hcalls], hother, ?_⟩,
    ⟨before', value, after' ++ [a], by simp [hcalls'], hkey, hempty, ?_⟩⟩
  · simpa only [List.forall_mem_append, List.forall_mem_singleton]
      using ⟨hafter, hfills, hvacates⟩
  · simpa only [List.forall_mem_append, List.forall_mem_singleton] using ⟨hafter', hvacates⟩

/-- An insertion into an empty slot brings its own spelling. -/
theorem Holds.insert_of_not_occupied {other : String} (value : Option Bytes)
    (hkey : c.normalize other = c.normalize key) (h : ¬Occupied c calls key) :
    Holds c (calls ++ [.insert other value]) key { key := other, value } :=
  ⟨⟨calls, other, [], rfl, hkey, by simp⟩, ⟨calls, value, [], rfl, hkey, h, by simp⟩⟩

/-- An insertion into an occupied slot keeps the spelling. -/
theorem Holds.insert {other : String} (h : Holds c calls key e) (value : Option Bytes)
    (hkey : c.normalize other = c.normalize key) :
    Holds c (calls ++ [.insert other value]) key { e with value } := by
  obtain ⟨before, value', after, hcalls, hkey', hempty, hafter⟩ := h.spelling
  refine ⟨⟨calls, other, [], rfl, hkey, by simp⟩,
    ⟨before, value', after ++ [.insert other value], by simp [hcalls], hkey', hempty, ?_⟩⟩
  simp only [List.forall_mem_append, List.forall_mem_singleton]
  exact ⟨hafter, id⟩

/-! ## What a call does to a look-up -/

section Apply

variable {d : Dictionary}

theorem get?_apply_of_vacates (h : a.Vacates d.comparer key) : (a.apply d).get? key = none := by
  cases a with
  | insert other value => cases h
  | remove other => rw [Call.apply, takeOut, get?_erase, if_pos (Eq.symm h)]
  | clear => rfl

/-- A filled slot keeps the spelling that is there. -/
theorem get?_apply_insert {other : String} (value : Option Bytes)
    (h : d.comparer.normalize other = d.comparer.normalize key) :
    ((Call.insert other value).apply d).get? key
      = some { key := ((d.get? key).map (·.key)).getD other, value } := by
  rw [Call.apply, exchange, get?_insert, if_pos h.symm, get?_congr h]

theorem get?_apply_of_alone (hfills : ¬a.Fills d.comparer key)
    (hvacates : ¬a.Vacates d.comparer key) : (a.apply d).get? key = d.get? key := by
  cases a with
  | insert other value =>
    rw [Call.apply, exchange, get?_insert, if_neg fun h => hfills (Eq.symm h)]
  | remove other => rw [Call.apply, takeOut, get?_erase, if_neg fun h => hvacates (Eq.symm h)]
  | clear => exact absurd trivial hvacates

end Apply

/-! ## All calls -/

theorem Call.not_fills_of_vacates (h : a.Vacates c key) : ¬a.Fills c key := by
  cases a with
  | insert other value => cases h
  | remove other => exact id
  | clear => exact id

/-- **What is found under a key is what the calls say is in its slot.** -/
theorem get?_run (c : Comparer) (calls : List Call) (key : String) :
    ((run c calls).get? key = none ∧ ¬Occupied c calls key)
      ∨ ∃ e, (run c calls).get? key = some e ∧ Holds c calls key e := by
  induction calls using List.reverseRecOn with
  | nil =>
    refine .inl ⟨rfl, ?_⟩
    rintro ⟨before, other, value, after, hcalls, -⟩
    simp at hcalls
  | append_singleton calls a ih =>
    have hcomparer := comparer_run c calls
    rw [run_concat, occupied_concat]
    by_cases hvacates : a.Vacates c key
    · -- the slot is emptied, whatever was in it
      exact .inl ⟨get?_apply_of_vacates (hcomparer.symm ▸ hvacates),
        by simp [Call.not_fills_of_vacates hvacates, hvacates]⟩
    by_cases hfills : a.Fills c key
    · obtain ⟨other, value, rfl⟩ := Call.exists_insert_of_fills hfills
      rw [get?_apply_insert value (hcomparer.symm ▸ hfills)]
      rcases ih with ⟨hnone, hempty⟩ | ⟨e, hsome, hholds⟩
      · rw [hnone]
        exact .inr ⟨_, rfl, Holds.insert_of_not_occupied value hfills hempty⟩
      · rw [hsome]
        exact .inr ⟨_, rfl, hholds.insert value hfills⟩
    · -- another slot is concerned
      rw [get?_apply_of_alone (hcomparer.symm ▸ hfills) (hcomparer.symm ▸ hvacates)]
      rcases ih with ⟨hnone, hempty⟩ | ⟨e, hsome, hholds⟩
      · exact .inl ⟨hnone, by simp [hfills, hempty]⟩
      · exact .inr ⟨e, hsome, hholds.concat hfills hvacates⟩

theorem get?_run_eq_none_iff :
    (run c calls).get? key = none ↔ ¬Occupied c calls key := by
  rcases get?_run c calls key with ⟨hnone, hempty⟩ | ⟨e, hsome, hholds⟩
  · exact iff_of_true hnone hempty
  · rw [hsome]
    exact iff_of_false (by simp) (not_not_intro hholds.occupied)

theorem holds_of_get?_run (h : (run c calls).get? key = some e) : Holds c calls key e := by
  rcases get?_run c calls key with ⟨hnone, -⟩ | ⟨f, hsome, hholds⟩
  · rw [h] at hnone
    cases hnone
  · rw [h] at hsome
    cases hsome
    exact hholds

/-! ## Counting -/

/-- An orderly dictionary has as many entries as there are normal forms of keys that it contains. -/
theorem Orderly.size_eq_ncard {d : Dictionary} (h : d.Orderly) :
    d.size = {i | ∃ key, d.comparer.normalize key = i ∧ d.contains key = true}.ncard := by
  have hindex : {i | ∃ key, d.comparer.normalize key = i ∧ d.contains key = true}
      = (d.filed.map (·.index)).toFinset := by
    ext i
    simp only [Set.mem_ofPred_eq, List.coe_toFinset, List.mem_map]
    constructor
    · rintro ⟨key, rfl, hkey⟩
      obtain ⟨e, he⟩ := Option.isSome_iff_exists.mp hkey
      obtain ⟨hmem, hequal⟩ := h.get?_eq_some_iff.mp he
      obtain ⟨f, hf, rfl⟩ := List.mem_map.mp hmem
      exact ⟨f, hf, (h.index_eq f hf).trans hequal⟩
    · rintro ⟨f, hf, rfl⟩
      have hfound : d.get? f.entry.key = some f.entry :=
        h.get?_eq_some_iff.mpr ⟨List.mem_map_of_mem hf, rfl⟩
      exact ⟨f.entry.key, (h.index_eq f hf).symm, by rw [contains, hfound]; rfl⟩
  rw [hindex, Set.ncard_coe_finset, List.toFinset_card_of_nodup h.nodup, List.length_map, size]

/-! ## The map -/

/-- The dictionary is the finite map that the calls describe. -/
structure Reflects (c : Comparer) (calls : List Call) (d : Dictionary) : Prop where
  /-- A key is there if it was inserted and not taken out again. -/
  contains_iff : ∀ key, d.contains key = true ↔ Occupied c calls key
  /-- What it finds has the last value and the first spelling. -/
  holds : ∀ key e, d.get? key = some e → Holds c calls key e
  /-- An insertion tells the value that it replaces, and none if the slot is empty. -/
  exchange_eq_none_iff : ∀ key value, (d.exchange key value).1 = none ↔ ¬Occupied c calls key
  exchange_eq_some : ∀ key value previous, (d.exchange key value).1 = some previous →
    ∃ spelling, Holds c calls key { key := spelling, value := previous }
  /-- A removal tells the entry that it takes out, and none if the slot is empty. -/
  takeOut_eq_none_iff : ∀ key, (d.takeOut key).1 = none ↔ ¬Occupied c calls key
  takeOut_eq_some : ∀ key e, (d.takeOut key).1 = some e → Holds c calls key e
  /-- There are as many entries as slots that are occupied. -/
  size_eq : d.size = {i | ∃ key, c.normalize key = i ∧ Occupied c calls key}.ncard
  /-- Each entry is filed under the normal form of its own spelling. -/
  index_eq : ∀ f ∈ d.filed, f.index = c.normalize f.entry.key
  /-- No two entries have keys that are equal under the comparer. -/
  distinct : d.entries.Pairwise fun e f => c.normalize e.key ≠ c.normalize f.key

/-- **A dictionary is a finite map modulo the comparer.** -/
theorem reflects_run (c : Comparer) (calls : List Call) : Reflects c calls (run c calls) := by
  have horderly := Orderly.run c calls
  have hcontains : ∀ key, (run c calls).contains key = true ↔ Occupied c calls key := by
    intro key
    rw [← not_iff_not, ← get?_run_eq_none_iff, contains, Option.not_isSome_iff_eq_none]
  refine {
    contains_iff := hcontains
    holds := fun _ _ => holds_of_get?_run
    exchange_eq_none_iff := fun key value => ?_
    exchange_eq_some := fun key value previous h => ?_
    takeOut_eq_none_iff := fun _ => get?_run_eq_none_iff
    takeOut_eq_some := fun _ _ => holds_of_get?_run
    size_eq := ?_
    index_eq := fun f hf => ?_
    distinct := ?_ }
  · rw [exchange, Option.map_eq_none_iff, get?_run_eq_none_iff]
  · obtain ⟨e, he, rfl⟩ := Option.map_eq_some_iff.mp h
    exact ⟨e.key, holds_of_get?_run he⟩
  · simp only [horderly.size_eq_ncard, comparer_run, hcontains]
  · rw [horderly.index_eq f hf, comparer_run]
  · have hnodup := horderly.nodup_keys
    rw [comparer_run] at hnodup
    exact List.pairwise_map.mp hnodup

end Coffer.Dictionary
