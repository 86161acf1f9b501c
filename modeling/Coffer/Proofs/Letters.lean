import Coffer.Proofs.Utf16
import Coffer.Text.Lowercase
import Coffer.Text.Uppercase

/-!
# Small letters

Lowercasing goes letter by letter, but for two: İ becomes two characters, and what Σ becomes depends
on its neighbours. A text without them is lowercased in its place, whatever follows it
(`lowercaseFrom_append`). No small letter has another small letter (`lowercaseOne_lowercaseOne`),
and what becomes of İ and Σ has none either, so that lowercasing leaves alone what it has made
(`isFixed_of_mem_lowercaseFrom`).

The letters of ASCII stay within ASCII. Only one other character has its small letter there, the
Kelvin sign (`isAscii_of_lowercaseOne`). So lowercasing a text neither adds nor takes away a start
in ASCII (`prefix_map_lowercaseFrom_iff`).
-/

namespace Coffer.Text

/-- The character is one of ASCII. -/
def IsAscii (c : Char) : Prop := c.toNat < 0x80

instance : DecidablePred IsAscii := fun c => inferInstanceAs (Decidable (c.toNat < 0x80))

/-- The character is lowercased to one character, whatever stands around it. -/
def IsSimple (c : Char) : Prop := c ≠ 'Σ' ∧ c ≠ 'İ'

instance : DecidablePred IsSimple := fun c => inferInstanceAs (Decidable (c ≠ 'Σ' ∧ c ≠ 'İ'))

variable {c : Char}

/-! ## ASCII -/

/-- What holds of the 128 characters holds of each. -/
theorem of_isAscii {P : Char → Prop} (h : ∀ n < 0x80, P (Char.ofNat n)) (hc : IsAscii c) : P c := by
  rw [← Char.ofNat_toNat c]
  exact h c.toNat hc

theorem IsAscii.isSimple (h : IsAscii c) : IsSimple c :=
  of_isAscii (by decide) h

theorem IsAscii.lowercaseOne (h : IsAscii c) : IsAscii (lowercaseOne c) :=
  of_isAscii (P := fun c => IsAscii (Text.lowercaseOne c)) (by decide) h

theorem IsAscii.lowercaseOne_lowercaseOne (h : IsAscii c) :
    Text.lowercaseOne (Text.lowercaseOne c) = Text.lowercaseOne c :=
  of_isAscii (P := fun c => Text.lowercaseOne (Text.lowercaseOne c) = Text.lowercaseOne c)
    (by decide) h

/-- A character of ASCII is uppercase if it is not its own small letter. -/
theorem IsAscii.isUppercase_iff (h : IsAscii c) :
    isUppercase c = true ↔ Text.lowercaseOne c ≠ c :=
  of_isAscii (P := fun c => isUppercase c = true ↔ Text.lowercaseOne c ≠ c) (by decide) h

theorem IsAscii.lowercaseOne_eq_colon_iff (h : IsAscii c) : Text.lowercaseOne c = ':' ↔ c = ':' :=
  of_isAscii (P := fun c => Text.lowercaseOne c = ':' ↔ c = ':') (by decide) h

theorem utf8Size_eq_one_iff : c.utf8Size = 1 ↔ IsAscii c :=
  Char.utf8Size_eq_one_iff.trans Nat.lt_succ_iff.symm

theorem length_le_utf8ByteSize (xs : List Char) : xs.length ≤ (String.ofList xs).utf8ByteSize := by
  induction xs with
  | nil => exact Nat.zero_le _
  | cons c rest ih =>
    have hpos := c.utf8Size_pos
    rw [Utf16.utf8ByteSize_ofList_cons, List.length_cons]
    omega

/-- A text has as many bytes as characters if it is one in ASCII. -/
theorem utf8ByteSize_eq_length_iff {xs : List Char} :
    (String.ofList xs).utf8ByteSize = xs.length ↔ ∀ c ∈ xs, IsAscii c := by
  induction xs with
  | nil => simp
  | cons c rest ih =>
    have hpos := c.utf8Size_pos
    have hle := length_le_utf8ByteSize rest
    rw [List.forall_mem_cons, ← ih, ← utf8Size_eq_one_iff, Utf16.utf8ByteSize_ofList_cons,
      List.length_cons]
    omega

/-- Bands that start above a character say nothing about it. -/
theorem inBands_append_of_lt {table above : List Band} (h : ∀ b ∈ above, c.toNat < b.first) :
    inBands (table ++ above) c = inBands table c := by
  have hnone : above.any (fun b => b.has c.toNat) = false := by
    rw [List.any_eq_false]
    intro b hb
    have hlt := h b hb
    simp only [Band.has, Bool.and_eq_true, decide_eq_true_eq, not_and]
    omega
  rw [inBands, List.any_append, hnone, Bool.or_false, inBands]

set_option maxRecDepth 8000 in
/-- The case-ignorable characters of ASCII are in the first four bands. -/
theorem IsAscii.isCaseIgnorable_eq (h : IsAscii c) :
    isCaseIgnorable c = inBands (caseIgnorableBands.take 4) c := by
  have habove : ∀ b ∈ caseIgnorableBands.drop 4, 0x80 ≤ b.first := by decide
  rw [isCaseIgnorable, ← List.take_append_drop 4 caseIgnorableBands,
    inBands_append_of_lt fun b hb => Nat.lt_of_lt_of_le h (habove b hb), List.take_append_drop]

/-- A letter of ASCII and its small letter are alike to what follows. -/
theorem IsAscii.nextAfterCased_lowercaseOne (h : IsAscii c) (afterCased : Bool) :
    nextAfterCased afterCased (Text.lowercaseOne c) = nextAfterCased afterCased c := by
  have hcased : isCased (Text.lowercaseOne c) = isCased c :=
    of_isAscii (P := fun c => isCased (Text.lowercaseOne c) = isCased c) (by decide) h
  have hignorable : inBands (caseIgnorableBands.take 4) (Text.lowercaseOne c)
      = inBands (caseIgnorableBands.take 4) c :=
    of_isAscii (P := fun c => inBands (caseIgnorableBands.take 4) (Text.lowercaseOne c)
      = inBands (caseIgnorableBands.take 4) c) (by decide) h
  rw [nextAfterCased, nextAfterCased, hcased, h.lowercaseOne.isCaseIgnorable_eq,
    h.isCaseIgnorable_eq, hignorable]

/-! ## The table

A row is a band of capitals and the band of their small letters. What is said of all letters is
checked on the ends of the bands.
-/

namespace LowercaseRow

/-- The small letter of the last capital. -/
def lastImage (r : LowercaseRow) : Nat := r.image + (r.band.last - r.band.first)

/-- None of the row's small letters is a capital of the other: they lie below its band or above it,
or between its steps. -/
def isClearOf (r other : LowercaseRow) : Bool :=
  Nat.blt r.lastImage other.band.first || Nat.blt other.band.last r.image
    || (other.band.step == 2 && (r.image + other.band.first) % 2 == 1
      && (r.band.step == 2 || r.band.first == r.band.last))

theorem has_eq_false_of_isClearOf {r other : LowercaseRow} {n : Nat}
    (h : r.isClearOf other = true) (hn : r.band.has n = true) :
    other.band.has (r.image + (n - r.band.first)) = false := by
  simp only [Band.has, Bool.and_eq_true, decide_eq_true_eq, beq_iff_eq] at hn
  simp only [isClearOf, lastImage, Bool.or_eq_true, Bool.and_eq_true, Nat.blt_eq, beq_iff_eq] at h
  rw [← Bool.not_eq_true]
  simp only [Band.has, Bool.and_eq_true, decide_eq_true_eq, beq_iff_eq]
  rintro ⟨⟨hfirst, hlast⟩, hstep⟩
  rcases h with (h | h) | ⟨⟨hother, hodd⟩, hstep' | hsingle⟩
  · omega
  · omega
  · rw [hother] at hstep
    rw [hstep'] at hn
    omega
  · rw [hother] at hstep
    omega

end LowercaseRow

/-- No small letter is a capital. -/
theorem isClearOf_of_mem {r other : LowercaseRow} (hr : r ∈ lowercaseRows)
    (hother : other ∈ lowercaseRows) : r.isClearOf other = true := by
  have hall : lowercaseRows.all (fun r => lowercaseRows.all r.isClearOf) = true := by
    decide +kernel
  exact List.all_eq_true.mp (List.all_eq_true.mp hall r hr) other hother

set_option maxRecDepth 8000 in
/-- The small letters of a row are characters, and none is İ. A row whose small letters begin in
ASCII has its capitals there too, or is that of the Kelvin sign. -/
theorem image_of_mem {r : LowercaseRow} (hr : r ∈ lowercaseRows) :
    (r.lastImage < 0xD800 ∨ 0xDFFF < r.image ∧ r.lastImage < 0x110000)
      ∧ (r.lastImage < 0x130 ∨ 0x130 < r.image)
      ∧ (r.band.last < 0x80 ∨ 0x80 ≤ r.image ∨ r = ⟨⟨0x212A, 0x212A, 1⟩, 0x6B⟩) := by
  have hall : ∀ r ∈ lowercaseRows,
      (r.lastImage < 0xD800 ∨ 0xDFFF < r.image ∧ r.lastImage < 0x110000)
        ∧ (r.lastImage < 0x130 ∨ 0x130 < r.image)
        ∧ (r.band.last < 0x80 ∨ 0x80 ≤ r.image ∨ r = ⟨⟨0x212A, 0x212A, 1⟩, 0x6B⟩) := by
    decide
  exact hall r hr

/-- Above ASCII a character is its own small letter, or the table has a row for it. -/
theorem lowercaseOne_cases (h : ¬IsAscii c) :
    lowercaseOne c = c ∨ ∃ r ∈ lowercaseRows, r.band.has c.toNat = true
      ∧ (lowercaseOne c).toNat = r.image + (c.toNat - r.band.first) := by
  have hcode : ¬c.toNat < 0x80 := h
  unfold lowercaseOne
  rw [if_neg hcode]
  split
  · next r hr =>
    have hmem := List.mem_of_find?_eq_some hr
    have hhas : r.band.has c.toNat = true := by simpa using List.find?_some hr
    refine .inr ⟨r, hmem, hhas, Utf16.toNat_charOfNat ?_⟩
    simp only [Band.has, Bool.and_eq_true, decide_eq_true_eq] at hhas
    have hvalid := (image_of_mem hmem).1
    rw [LowercaseRow.lastImage] at hvalid
    omega
  · exact .inl rfl

/-- What is no capital is its own small letter. -/
theorem lowercaseOne_eq_self (h : ∀ r ∈ lowercaseRows, r.band.has c.toNat = false) :
    lowercaseOne c = c := by
  by_cases hascii : IsAscii c
  · -- the first row of the table is that of the capitals of ASCII
    have hcapital := h ⟨⟨0x41, 0x5A, 1⟩, 0x61⟩ (by decide)
    exact of_isAscii (P := fun c => Band.has ⟨0x41, 0x5A, 1⟩ c.toNat = false → lowercaseOne c = c)
      (by decide) hascii hcapital
  · rcases lowercaseOne_cases hascii with heq | ⟨r, hr, hhas, -⟩
    · exact heq
    · rw [h r hr] at hhas
      cases hhas

/-- **A small letter is its own small letter.** -/
theorem lowercaseOne_lowercaseOne (c : Char) : lowercaseOne (lowercaseOne c) = lowercaseOne c := by
  by_cases hascii : IsAscii c
  · exact hascii.lowercaseOne_lowercaseOne
  · rcases lowercaseOne_cases hascii with heq | ⟨r, hr, hhas, himage⟩
    · rw [heq, heq]
    · apply lowercaseOne_eq_self
      intro other hother
      rw [himage]
      exact LowercaseRow.has_eq_false_of_isClearOf (isClearOf_of_mem hr hother) hhas

/-- The sign of the unit Kelvin, which looks like a capital K. -/
def kelvin : Char := '\u212A'

/-- **Only characters of ASCII and the Kelvin sign have small letters in ASCII.** -/
theorem isAscii_of_lowercaseOne (h : IsAscii (lowercaseOne c)) : IsAscii c ∨ c = kelvin := by
  by_cases hascii : IsAscii c
  · exact .inl hascii
  · refine .inr ?_
    rcases lowercaseOne_cases hascii with heq | ⟨r, hr, hhas, himage⟩
    · exact absurd (heq ▸ h) hascii
    · rw [IsAscii, himage] at h
      rw [IsAscii] at hascii
      simp only [Band.has, Bool.and_eq_true, decide_eq_true_eq] at hhas
      rcases (image_of_mem hr).2.2 with hlast | himage | rfl
      · omega
      · omega
      · have hcode : c.toNat = 0x212A := Nat.le_antisymm hhas.1.2 hhas.1.1
        rw [← Char.ofNat_toNat c, hcode]
        rfl

/-- What is lowercased to one character is so again. -/
theorem IsSimple.lowercaseOne (h : IsSimple c) : IsSimple (lowercaseOne c) := by
  refine ⟨?_, ?_⟩
  · -- Σ has a small letter, and a small letter has no other
    intro hsigma
    have hsame := lowercaseOne_lowercaseOne c
    rw [hsigma] at hsame
    revert hsame
    decide
  · intro hdotted
    by_cases hascii : IsAscii c
    · have hsmall := hascii.lowercaseOne
      rw [hdotted] at hsmall
      revert hsmall
      decide
    · rcases lowercaseOne_cases hascii with heq | ⟨r, hr, hhas, himage⟩
      · exact h.2 (heq ▸ hdotted)
      · have hcode : (Text.lowercaseOne c).toNat = 0x130 := by rw [hdotted]; rfl
        simp only [Band.has, Bool.and_eq_true, decide_eq_true_eq] at hhas
        have hclear := (image_of_mem hr).2.1
        rw [LowercaseRow.lastImage] at hclear
        omega

/-! ## The Kelvin sign -/

theorem isSimple_kelvin : IsSimple kelvin := by decide

theorem lowercaseOne_kelvin : lowercaseOne kelvin = 'k' := by decide

theorem isUppercase_kelvin : isUppercase kelvin = true := by decide

set_option maxRecDepth 8000 in
theorem nextAfterCased_kelvin (afterCased : Bool) :
    nextAfterCased afterCased kelvin = nextAfterCased afterCased 'k' := by
  revert afterCased
  decide

/-- A letter whose small letter is in ASCII is like it to what follows. -/
theorem nextAfterCased_lowercaseOne (h : IsAscii (lowercaseOne c)) (afterCased : Bool) :
    nextAfterCased afterCased (lowercaseOne c) = nextAfterCased afterCased c := by
  rcases isAscii_of_lowercaseOne h with hascii | rfl
  · exact hascii.nextAfterCased_lowercaseOne afterCased
  · rw [lowercaseOne_kelvin, nextAfterCased_kelvin]

/-! ## Texts -/

/-- The two characters that are not lowercased letter by letter are capitals. -/
theorem isSimple_of_not_isUppercase (h : isUppercase c = false) : IsSimple c := by
  refine ⟨?_, ?_⟩
  · rintro rfl
    revert h
    decide
  · rintro rfl
    revert h
    decide

theorem isSimple_of_no_uppercase {xs : List Char} (h : xs.any isUppercase = false) :
    ∀ ch ∈ xs, IsSimple ch := by
  rw [List.any_eq_false] at h
  exact fun ch hch => isSimple_of_not_isUppercase (Bool.eq_false_iff.mpr (h ch hch))

theorem map_lowercaseOne_eq_self_iff {xs : List Char} :
    xs.map lowercaseOne = xs ↔ ∀ ch ∈ xs, lowercaseOne ch = ch := by
  have hmap : xs.map lowercaseOne = xs.map id ↔ ∀ ch ∈ xs, lowercaseOne ch = id ch :=
    List.map_inj_left
  rwa [List.map_id] at hmap

/-- In ASCII every letter that has another small letter is a capital. -/
theorem map_lowercaseOne_of_isAscii {xs : List Char} (h : ∀ ch ∈ xs, IsAscii ch)
    (hupper : xs.any isUppercase = false) : xs.map lowercaseOne = xs := by
  rw [List.any_eq_false] at hupper
  apply map_lowercaseOne_eq_self_iff.mpr
  intro ch hch
  exact Decidable.byContradiction fun hne => hupper ch hch ((h ch hch).isUppercase_iff.mpr hne)

theorem isSimple_of_isAscii_lowercaseOne (h : IsAscii (lowercaseOne c)) : IsSimple c := by
  rcases isAscii_of_lowercaseOne h with hascii | rfl
  · exact hascii.isSimple
  · exact isSimple_kelvin

theorem lowercaseFrom_cons (h : IsSimple c) (afterCased : Bool) (rest : List Char) :
    lowercaseFrom afterCased (c :: rest)
      = lowercaseOne c :: lowercaseFrom (nextAfterCased afterCased c) rest := by
  rw [lowercaseFrom, if_neg h.1, lowercaseChar, if_neg h.2, List.singleton_append]

/-- **A text is lowercased letter by letter, up to its first Σ or İ.** -/
theorem lowercaseFrom_append {xs : List Char} (h : ∀ c ∈ xs, IsSimple c) (afterCased : Bool)
    (ys : List Char) :
    lowercaseFrom afterCased (xs ++ ys)
      = xs.map lowercaseOne ++ lowercaseFrom (xs.foldl nextAfterCased afterCased) ys := by
  induction xs generalizing afterCased with
  | nil => rfl
  | cons c rest ih =>
    have hrest := ih (fun c hc => h c (List.mem_cons_of_mem _ hc)) (nextAfterCased afterCased c)
    rw [List.cons_append, lowercaseFrom_cons (h c List.mem_cons_self), hrest, List.map_cons,
      List.cons_append, List.foldl_cons]

theorem lowercaseFrom_eq_map {xs : List Char} (h : ∀ c ∈ xs, IsSimple c) (afterCased : Bool) :
    lowercaseFrom afterCased xs = xs.map lowercaseOne := by
  have happend := lowercaseFrom_append h afterCased []
  rwa [List.append_nil, lowercaseFrom, List.append_nil] at happend

/-! ## What lowercasing leaves alone -/

/-- Lowercasing leaves the character alone, whatever stands around it. -/
def IsFixed (c : Char) : Prop := lowercaseChar c = [c]

instance : DecidablePred IsFixed := fun c => inferInstanceAs (Decidable (lowercaseChar c = [c]))

theorem isFixed_iff : IsFixed c ↔ c ≠ 'İ' ∧ lowercaseOne c = c := by
  rw [IsFixed, lowercaseChar]
  by_cases hdotted : c = 'İ' <;> simp [hdotted]

theorem IsFixed.lowercaseOne_eq (h : IsFixed c) : lowercaseOne c = c := (isFixed_iff.mp h).2

theorem IsFixed.isSimple (h : IsFixed c) : IsSimple c := by
  refine ⟨?_, (isFixed_iff.mp h).1⟩
  rintro rfl
  revert h
  decide

theorem IsSimple.isFixed_lowercaseOne (h : IsSimple c) : IsFixed (Text.lowercaseOne c) :=
  isFixed_iff.mpr ⟨h.lowercaseOne.2, lowercaseOne_lowercaseOne c⟩

/-- **Lowercasing leaves alone what it has made**, of Σ and İ too. -/
theorem isFixed_of_mem_lowercaseFrom {xs : List Char} {afterCased : Bool}
    (h : c ∈ lowercaseFrom afterCased xs) : IsFixed c := by
  induction xs generalizing afterCased with
  | nil => cases h
  | cons d rest ih =>
    rw [lowercaseFrom, List.mem_append] at h
    rcases h with h | h
    · by_cases hsigma : d = 'Σ'
      · have hfixed : IsFixed 'ς' ∧ IsFixed 'σ' := by decide
        rw [if_pos hsigma, List.mem_singleton] at h
        rw [h]
        split
        · exact hfixed.1
        · exact hfixed.2
      rw [if_neg hsigma, lowercaseChar] at h
      by_cases hdotted : d = 'İ'
      · have hfixed : IsFixed 'i' ∧ IsFixed '\u0307' := by decide
        rw [if_pos hdotted, List.mem_cons, List.mem_singleton] at h
        rcases h with rfl | rfl
        · exact hfixed.1
        · exact hfixed.2
      · rw [if_neg hdotted, List.mem_singleton] at h
        rw [h]
        exact IsSimple.isFixed_lowercaseOne ⟨hsigma, hdotted⟩
    · exact ih h

theorem lowercaseFrom_eq_self_iff {xs : List Char} (afterCased : Bool) :
    lowercaseFrom afterCased xs = xs ↔ ∀ ch ∈ xs, IsFixed ch := by
  constructor
  · intro hsame ch hch
    rw [← hsame] at hch
    exact isFixed_of_mem_lowercaseFrom hch
  · intro hfixed
    rw [lowercaseFrom_eq_map fun ch hch => (hfixed ch hch).isSimple]
    exact map_lowercaseOne_eq_self_iff.mpr fun ch hch => (hfixed ch hch).lowercaseOne_eq

/-- **Lowercasing leaves a text alone if it leaves each of its characters alone**, and only then. -/
theorem lowercase_eq_self_iff {s : String} : lowercase s = s ↔ ∀ ch ∈ s.toList, IsFixed ch := by
  rw [← String.toList_inj, lowercase, String.toList_ofList, lowercaseFrom_eq_self_iff]

theorem isFixed_of_mem_lowercase {s : String} (h : c ∈ (lowercase s).toList) : IsFixed c := by
  rw [lowercase, String.toList_ofList] at h
  exact isFixed_of_mem_lowercaseFrom h

/-! ## Starts in ASCII -/

/-- Letters whose small letters are in ASCII are like them to what follows. -/
theorem foldl_nextAfterCased_map {xs : List Char} (h : ∀ c ∈ xs.map lowercaseOne, IsAscii c)
    (afterCased : Bool) :
    (xs.map lowercaseOne).foldl nextAfterCased afterCased
      = xs.foldl nextAfterCased afterCased := by
  induction xs generalizing afterCased with
  | nil => rfl
  | cons c rest ih =>
    have hc := nextAfterCased_lowercaseOne (h (lowercaseOne c) List.mem_cons_self) afterCased
    rw [List.map_cons, List.foldl_cons, List.foldl_cons, hc]
    exact ih (fun c hc => h c (List.mem_cons_of_mem _ hc)) _

/-- What Σ and İ become is not in ASCII, but for the `i` that İ begins with. -/
theorem not_prefix_lowercaseFrom {a : Char} {q : List Char} (hq : ∀ c ∈ a :: q, IsAscii c)
    (hlast : (a :: q).getLast? ≠ some 'i') (hc : ¬IsSimple c) (afterCased : Bool)
    (rest : List Char) :
    ¬a :: q <+: (lowercaseFrom afterCased (c :: rest)).map lowercaseOne := by
  have ha : IsAscii a := hq a List.mem_cons_self
  by_cases hsigma : c = 'Σ'
  · have hsmall : ¬IsAscii (lowercaseOne 'ς') ∧ ¬IsAscii (lowercaseOne 'σ') := by decide
    rw [lowercaseFrom, if_pos hsigma, List.map_append, List.map_singleton, List.singleton_append,
      List.cons_prefix_cons]
    rintro ⟨rfl, -⟩
    split at ha
    · exact hsmall.1 ha
    · exact hsmall.2 ha
  · have hdotted : c = 'İ' := Decidable.byContradiction fun hne => hc ⟨hsigma, hne⟩
    have hsmall : lowercaseOne 'i' = 'i' ∧ ¬IsAscii (lowercaseOne '\u0307') := by decide
    rw [lowercaseFrom, if_neg hsigma, lowercaseChar, if_pos hdotted, List.cons_append,
      List.singleton_append, List.map_cons, List.map_cons, List.cons_prefix_cons, hsmall.1]
    rintro ⟨rfl, hdot⟩
    cases q with
    | nil => exact hlast rfl
    | cons b q =>
      rw [List.cons_prefix_cons] at hdot
      exact hsmall.2 (hdot.1 ▸ hq b (by simp))

/-- **Lowercasing a text does not change what it starts with letter by letter**, as long as that is
ASCII and does not end in the `i` that İ begins with. -/
theorem prefix_map_lowercaseFrom_iff {q : List Char} (hq : ∀ c ∈ q, IsAscii c)
    (hlast : q.getLast? ≠ some 'i') (afterCased : Bool) (xs : List Char) :
    q <+: (lowercaseFrom afterCased xs).map lowercaseOne ↔ q <+: xs.map lowercaseOne := by
  induction xs generalizing q afterCased with
  | nil => rfl
  | cons c rest ih =>
    cases q with
    | nil => simp
    | cons a q =>
      by_cases hc : IsSimple c
      · have hq' : ∀ c ∈ q, IsAscii c := fun c hc => hq c (List.mem_cons_of_mem _ hc)
        have hlast' : q.getLast? ≠ some 'i' := by
          cases q with
          | nil => simp
          | cons b q => rwa [List.getLast?_cons_cons] at hlast
        rw [lowercaseFrom_cons hc, List.map_cons, List.map_cons, List.cons_prefix_cons,
          List.cons_prefix_cons, lowercaseOne_lowercaseOne, ih hq' hlast']
      · refine iff_of_false (not_prefix_lowercaseFrom hq hlast hc afterCased rest) ?_
        rw [List.map_cons, List.cons_prefix_cons]
        rintro ⟨rfl, -⟩
        exact hc (isSimple_of_isAscii_lowercaseOne (hq _ List.mem_cons_self))

end Coffer.Text
