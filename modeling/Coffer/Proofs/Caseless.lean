import Coffer.Proofs.Listing
import Coffer.Proofs.Slots

/-!
# Keys without regard to case

A key that has no capital is its own normal form, a shortcut that is meant to change nothing: such a
key should be lowercase already. It need not be. A titlecase letter such as ǅ is no capital, and yet
it has another small letter. There are 31 of them (`isTitlecase_iff`), and a key that has one of
them and no capital is *skipped*: it is not lowercased, although it is not lowercase.

So comparing normal forms is comparing lowercased keys for all keys but the skipped ones, which are
equal to themselves only (`normalize_eq_iff`).
-/

namespace Coffer

/-! ## Titlecase letters -/

namespace Text

/-- The bands of the titlecase letters. -/
def titlecaseBands : List Band :=
  [
    ⟨0x1C5, 0x1CB, 3⟩, ⟨0x1F2, 0x1F2, 1⟩, ⟨0x1F88, 0x1F8F, 1⟩, ⟨0x1F98, 0x1F9F, 1⟩,
    ⟨0x1FA8, 0x1FAF, 1⟩, ⟨0x1FBC, 0x1FCC, 16⟩, ⟨0x1FFC, 0x1FFC, 1⟩
  ]

/-- Is the character a titlecase letter? -/
def isTitlecase (c : Char) : Bool := inBands titlecaseBands c

/-- There are 31 titlecase letters. -/
example : bandCount titlecaseBands = 31 := by decide

theorem Band.mem_members {b : Band} {n : Nat} (h : b.has n = true) : n ∈ b.members := by
  simp only [Band.has, Bool.and_eq_true, decide_eq_true_eq, beq_iff_eq] at h
  obtain ⟨⟨hfirst, hlast⟩, hstep⟩ := h
  refine List.mem_map.mpr ⟨(n - b.first) / b.step, ?_, ?_⟩
  · have hle : (n - b.first) / b.step ≤ (b.last - b.first) / b.step :=
      Nat.div_le_div_right (Nat.sub_le_sub_right hlast _)
    rw [List.mem_range, Band.size]
    omega
  · have hdiv := Nat.div_add_mod' (n - b.first) b.step
    omega

/-- Do the ranges of two bands overlap? -/
def Band.meets (b other : Band) : Bool := Nat.ble b.first other.last && Nat.ble other.first b.last

set_option maxRecDepth 8000 in
/-- A titlecase letter is no capital, and has another small letter. -/
theorem of_isTitlecase {c : Char} (h : isTitlecase c = true) :
    isUppercase c = false ∧ lowercaseOne c ≠ c := by
  have hall : ∀ b ∈ titlecaseBands, ∀ n ∈ b.members,
      isUppercase (Char.ofNat n) = false ∧ lowercaseOne (Char.ofNat n) ≠ Char.ofNat n := by
    decide
  obtain ⟨b, hb, hhas⟩ := List.any_eq_true.mp h
  have hletter := hall b hb c.toNat (Band.mem_members hhas)
  rwa [Char.ofNat_toNat] at hletter

set_option maxRecDepth 8000 in
/-- A letter of the table is a capital or a titlecase letter. -/
theorem isUppercase_or_isTitlecase {r : LowercaseRow} {c : Char} (hascii : ¬IsAscii c)
    (hr : r ∈ lowercaseRows) (h : r.band.has c.toNat = true) :
    isUppercase c = true ∨ isTitlecase c = true := by
  -- only the bands that overlap a row are searched for its letters
  have hall : ∀ r ∈ lowercaseRows, ∀ n ∈ r.band.members,
      ((uppercaseBands ++ titlecaseBands).filter r.band.meets).any (fun b => b.has n) = true := by
    decide
  obtain ⟨b, hb, hhas⟩ := List.any_eq_true.mp (hall r hr c.toNat (Band.mem_members h))
  rcases List.mem_append.mp (List.mem_filter.mp hb).1 with hb | hb
  · refine .inl ?_
    have hcode : ¬c.toNat < 0x80 := hascii
    rw [isUppercase, if_neg hcode]
    exact List.any_eq_true.mpr ⟨b, hb, hhas⟩
  · exact .inr (List.any_eq_true.mpr ⟨b, hb, hhas⟩)

/-- **The titlecase letters are those that have another small letter and are no capitals.** -/
theorem isTitlecase_iff (c : Char) :
    isTitlecase c = true ↔ isUppercase c = false ∧ lowercaseOne c ≠ c := by
  constructor
  · exact of_isTitlecase
  · rintro ⟨hupper, hsmall⟩
    have hascii : ¬IsAscii c := by
      intro hascii
      rw [hascii.isUppercase_iff.mpr hsmall] at hupper
      cases hupper
    rcases lowercaseOne_cases hascii with hsame | ⟨r, hr, hhas, -⟩
    · exact absurd hsame hsmall
    · refine (isUppercase_or_isTitlecase hascii hr hhas).resolve_left ?_
      rw [hupper]
      exact Bool.false_ne_true

end Text

/-! ## Normal forms -/

namespace Comparer

open Text

variable {a b key : String}

/-- The key is not lowercased, although lowercasing would change it: it has a titlecase letter and
no capital. -/
def Skipped (key : String) : Prop :=
  key.toList.any isUppercase = false ∧ key.toList.any isTitlecase = true

instance : DecidablePred Skipped := fun _ => inferInstanceAs (Decidable (_ ∧ _))

theorem skipped_iff_not_settled : Skipped key ↔ ¬Settled key.toList := by
  rw [Skipped, Settled, not_or, Bool.not_eq_true]
  refine and_congr_right fun hupper => ?_
  rw [List.any_eq_false] at hupper
  rw [List.any_eq_true, map_lowercaseOne_eq_self_iff]
  constructor
  · rintro ⟨ch, hch, htitle⟩ hsame
    exact (of_isTitlecase htitle).2 (hsame ch hch)
  · intro hsmall
    by_contra hnone
    push Not at hnone
    refine hsmall fun ch hch => ?_
    by_contra hne
    exact hnone ch hch ((isTitlecase_iff ch).mpr ⟨Bool.eq_false_iff.mpr (hupper ch hch), hne⟩)

theorem Skipped.normalize_eq (h : Skipped key) : normalize .ignoreCase key = key := by
  rw [normalize, h.1]
  exact if_neg Bool.false_ne_true

/-- **The shortcut changes nothing, but for the keys that are skipped.** -/
theorem normalize_eq_lowercase_iff_not_skipped :
    normalize .ignoreCase key = lowercase key ↔ ¬Skipped key := by
  rw [normalize_eq_lowercase_iff, skipped_iff_not_settled, not_not]

/-- No key is lowercased to one that is skipped. -/
theorem not_skipped_lowercase (key : String) : ¬Skipped (lowercase key) := by
  rintro ⟨-, htitle⟩
  obtain ⟨ch, hch, htitle⟩ := List.any_eq_true.mp htitle
  exact (of_isTitlecase htitle).2 (isFixed_of_mem_lowercase hch).lowercaseOne_eq

/-- A key that is skipped is equal to itself only. -/
theorem Skipped.normalize_eq_iff (h : Skipped a) :
    normalize .ignoreCase a = normalize .ignoreCase b ↔ a = b := by
  constructor
  · intro heq
    rw [h.normalize_eq] at heq
    by_cases hb : Skipped b
    · rw [heq, hb.normalize_eq]
    · rw [normalize_eq_lowercase_iff_not_skipped.mpr hb] at heq
      exact absurd (heq ▸ h) (not_skipped_lowercase b)
  · rintro rfl
    rfl

/-- **Comparing without regard to case is comparing lowercased keys, but for the keys that are
skipped.** -/
theorem normalize_eq_iff (a b : String) :
    normalize .ignoreCase a = normalize .ignoreCase b
      ↔ lowercase a = lowercase b ∧ (a = b ∨ ¬Skipped a ∧ ¬Skipped b) := by
  by_cases ha : Skipped a
  · rw [ha.normalize_eq_iff]
    constructor
    · rintro rfl
      exact ⟨rfl, .inl rfl⟩
    · rintro ⟨-, heq | ⟨hnot, -⟩⟩
      · exact heq
      · exact absurd ha hnot
  by_cases hb : Skipped b
  · rw [eq_comm, hb.normalize_eq_iff]
    constructor
    · rintro rfl
      exact ⟨rfl, .inl rfl⟩
    · rintro ⟨-, heq | ⟨-, hnot⟩⟩
      · exact heq.symm
      · exact absurd hb hnot
  · rw [normalize_eq_lowercase_iff_not_skipped.mpr ha,
      normalize_eq_lowercase_iff_not_skipped.mpr hb]
    exact (and_iff_left (.inr ⟨ha, hb⟩)).symm

end Comparer

/-! ## Look-ups -/

namespace Dictionary

open Comparer Text

/-- An entry is found under the keys whose normal form is that of the key it was inserted under. -/
theorem Orderly.get?_insert_eq_iff {d : Dictionary} (h : d.Orderly) (a b : String)
    (value : Option Bytes) :
    (d.insert a value).get? b = (d.insert a value).get? a
      ↔ d.comparer.normalize a = d.comparer.normalize b := by
  have hcomparer := comparer_insert d a value
  constructor
  · intro heq
    obtain ⟨e, he⟩ : ∃ e, (d.insert a value).get? a = some e :=
      ⟨_, by rw [get?_insert, if_pos rfl]⟩
    have ha := ((h.insert a value).get?_eq_some_iff.mp he).2
    have hb := ((h.insert a value).get?_eq_some_iff.mp (heq.trans he)).2
    rw [hcomparer] at ha hb
    exact ha.symm.trans hb
  · intro hkey
    exact get?_congr (by rw [hcomparer, hkey])

/-- **An entry is found under the keys that lowercase to the same text as its own**, but for the
keys that are skipped: what is inserted under such a key is found under that spelling only, and it
finds nothing that was inserted under another. So it is after all calls. -/
theorem found_iff (calls : List Call) (value : Option Bytes) (a b : String) :
    (normalize .ignoreCase a = normalize .ignoreCase b
        ↔ lowercase a = lowercase b ∧ (a = b ∨ ¬Skipped a ∧ ¬Skipped b))
      ∧ (((run .ignoreCase calls).insert a value).get? b
          = ((run .ignoreCase calls).insert a value).get? a
        ↔ lowercase a = lowercase b ∧ (a = b ∨ ¬Skipped a ∧ ¬Skipped b)) := by
  refine ⟨normalize_eq_iff a b, ?_⟩
  rw [(Orderly.run .ignoreCase calls).get?_insert_eq_iff, comparer_run, normalize_eq_iff]

set_option maxRecDepth 8000 in
/-- What is inserted under the titlecase letter ǅ is not found under the small letter that it
lowercases to. -/
theorem not_found_titlecase :
    lowercase "ǅ" = lowercase "ǆ"
      ∧ ((run .ignoreCase []).insert "ǅ" (some [7])).contains "ǅ" = true
      ∧ ((run .ignoreCase []).insert "ǅ" (some [7])).contains "ǆ" = false
      ∧ ¬∀ a b, normalize .ignoreCase a = normalize .ignoreCase b ↔ lowercase a = lowercase b := by
  have hlower : lowercase "ǅ" = lowercase "ǆ" := by decide
  refine ⟨hlower, by decide, by decide, fun hall => ?_⟩
  have hnormal := (hall "ǅ" "ǆ").mpr hlower
  revert hnormal
  decide

end Dictionary

end Coffer
