import Coffer.Proofs.Letters
import Coffer.Proofs.Slots

/-!
# Normal forms

A normal form is its own normal form (`Comparer.normalize_normalize`). Without regard to case this
is not plain from the definition: a normal form can have capitals, for not every capital has a small
letter. Such a form is lowercased once more, which must not change it, although its letters have
other neighbours than those of the key. So the keys that are normal forms are told by their letters
alone (`Comparer.IsNormal`), and every key is taken to one of them.

A key and its normal form are therefore two spellings of one key, and a dictionary that has an entry
for the one gives access to it through the other (`Dictionary.normal_form_standsFor`).
-/

namespace Coffer

namespace Comparer

open Text

variable {c : Comparer} {key : String}

/-- The key has no capital that would have it lowercased, or nothing to lowercase. -/
def IsNormal : Comparer → String → Prop
  | .ordinal, _ => True
  | .ignoreCase, key => key.toList.any isUppercase = false ∨ ∀ ch ∈ key.toList, IsFixed ch

/-- **The normal forms are the keys that normalizing leaves alone.** -/
theorem normalize_eq_self_iff : c.normalize key = key ↔ c.IsNormal key := by
  cases c with
  | ordinal => exact iff_of_true rfl trivial
  | ignoreCase =>
    rw [normalize, IsNormal]
    cases hupper : key.toList.any isUppercase with
    | false => simp
    | true => simp [lowercase_eq_self_iff]

theorem isNormal_lowercase (key : String) : IsNormal .ignoreCase (lowercase key) :=
  .inr fun _ hch => isFixed_of_mem_lowercase hch

/-- A lowercased text is its own normal form, even if it has capitals left. -/
theorem normalize_lowercase (key : String) :
    normalize .ignoreCase (lowercase key) = lowercase key :=
  normalize_eq_self_iff.mpr (isNormal_lowercase key)

theorem isNormal_normalize (c : Comparer) (key : String) : c.IsNormal (c.normalize key) := by
  cases c with
  | ordinal => trivial
  | ignoreCase =>
    rw [normalize]
    split
    · exact isNormal_lowercase key
    · next hupper => exact .inl (Bool.not_eq_true _ ▸ hupper)

/-- **A normal form is its own normal form.** -/
theorem normalize_normalize (c : Comparer) (key : String) :
    c.normalize (c.normalize key) = c.normalize key :=
  normalize_eq_self_iff.mpr (isNormal_normalize c key)

set_option maxRecDepth 8000 in
/-- The mathematical 𝐀 is a capital without a small letter. It makes the sigma after it a final one,
and the normal form is lowercased once more. -/
example : normalize .ignoreCase "𝐀Σ" = "𝐀ς" ∧ "𝐀ς".toList.any isUppercase = true := by decide

end Comparer

/-! ## Spellings that give access to an entry -/

namespace Dictionary

/-- In a dictionary a spelling stands for a key that names an entry: all that can be done to the
entry under the key is done under the spelling as well. -/
structure StandsFor (d : Dictionary) (spelling key : String) (e : Entry) : Prop where
  /-- The entry is found. -/
  found : d.get? spelling = some e
  contained : d.contains spelling = true
  /-- Its value is replaced. The entry keeps the spelling that it has. -/
  replaced : ∀ value, d.exchange spelling value = (some e.value, d.insert key value)
    ∧ (d.insert key value).get? key = some { e with value }
  /-- The entry is taken out. -/
  removed : d.takeOut spelling = (some e, d.erase key) ∧ (d.erase key).get? key = none

/-- Spellings with the same normal form stand for each other. -/
theorem standsFor_of_normalize_eq {d : Dictionary} {spelling key : String} {e : Entry}
    (hsame : d.comparer.normalize spelling = d.comparer.normalize key) (h : d.get? key = some e) :
    d.StandsFor spelling key e := by
  have hfound : d.get? spelling = some e := (get?_congr hsame).trans h
  have hcontained : d.contains spelling = true := by rw [contains, hfound, Option.isSome_some]
  refine ⟨hfound, hcontained, fun value => ⟨?_, ?_⟩, ?_, ?_⟩
  · rw [exchange, hfound, insert_congr hsame hcontained, Option.map_some]
  · rw [get?_insert, if_pos rfl, h, Option.map_some, Option.getD_some]
  · rw [takeOut, hfound, erase_congr hsame]
  · rw [get?_erase, if_pos rfl]

/-- **A normal form is its own normal form, and so it stands for the key.** As soon as something was
inserted under the key, and until it is taken out again, there is an entry, with the value of the
last insertion, that is found, replaced and taken out under the normal form as it is under the
key. -/
theorem normal_form_standsFor (c : Comparer) (calls : List Call) (key : String) :
    c.normalize (c.normalize key) = c.normalize key
      ∧ (c.normalize key = key ↔ c.IsNormal key)
      ∧ (Occupied c calls key
        ↔ ∃ e, Holds c calls key e ∧ (run c calls).StandsFor (c.normalize key) key e) := by
  refine ⟨c.normalize_normalize key, c.normalize_eq_self_iff, ?_, ?_⟩
  · intro hoccupied
    obtain ⟨e, he⟩ : ∃ e, (run c calls).get? key = some e :=
      Option.ne_none_iff_exists'.mp fun hnone => get?_run_eq_none_iff.mp hnone hoccupied
    refine ⟨e, holds_of_get?_run he, standsFor_of_normalize_eq ?_ he⟩
    rw [comparer_run, c.normalize_normalize key]
  · rintro ⟨e, hholds, -⟩
    exact hholds.occupied

end Dictionary

end Coffer
