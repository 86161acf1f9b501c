import Mathlib.Data.List.Basic
import Coffer.Proofs.Letters
import Coffer.Comparer

/-!
# Starts of keys

There are two ways to tell whether a key starts with a text. A look-up puts the text in front of
what it looks for and compares the normal forms of whole keys; a listing cuts the head off a stored
key and compares its normal form (`Comparer.after?`). They differ in what they look at, so both are
compared with a third, which looks at single letters only (`Comparer.Starts`).

Keys with the same normal form start alike (`Starts.of_normalize_eq`). A listing cuts the start off,
unless it is hidden: a Kelvin sign in it takes more bytes than the letter it stands for
(`after?_eq_some_iff`).

Without regard to case this is about *plain* starts only, those that are ASCII and end in a colon.
-/

namespace Coffer.Comparer

open Text

/-- The text with each letter on its own as the comparer sees it. -/
def folded : Comparer → List Char → List Char
  | .ordinal, xs => xs
  | .ignoreCase, xs => xs.map lowercaseOne

/-- The key starts with a text, letter by letter. -/
def Starts (c : Comparer) (start key : String) : Prop :=
  c.folded start.toList <+: c.folded key.toList

/-- Without regard to case a start is plain if it is ASCII and ends in a colon. -/
def Plain : Comparer → String → Prop
  | .ordinal, _ => True
  | .ignoreCase, start => (∀ ch ∈ start.toList, IsAscii ch) ∧ start.toList.getLast? = some ':'

/-- A key starts with a text, but spells it with a Kelvin sign. -/
def Hides (c : Comparer) (start key : String) : Prop :=
  c = .ignoreCase ∧ c.Starts start key ∧ kelvin ∈ key.toList.take start.length

instance (c : Comparer) (start key : String) : Decidable (c.Starts start key) :=
  inferInstanceAs (Decidable (_ <+: _))

instance (c : Comparer) (start key : String) : Decidable (c.Hides start key) :=
  inferInstanceAs (Decidable (_ ∧ _ ∧ _))

variable {c : Comparer} {start key key' : String}

/-! ## Letter by letter -/

@[simp] theorem length_folded (c : Comparer) (xs : List Char) :
    (c.folded xs).length = xs.length := by
  cases c with
  | ordinal => rfl
  | ignoreCase => exact List.length_map _

theorem folded_append (c : Comparer) (xs ys : List Char) :
    c.folded (xs ++ ys) = c.folded xs ++ c.folded ys := by
  cases c with
  | ordinal => rfl
  | ignoreCase => exact List.map_append

theorem starts_append (c : Comparer) (start rest : String) : c.Starts start (start ++ rest) := by
  rw [Starts, String.toList_append, folded_append]
  exact List.prefix_append _ _

theorem starts_iff_take :
    c.Starts start key ↔ c.folded (key.toList.take start.length) = c.folded start.toList := by
  have htake : (c.folded key.toList).take start.length
      = c.folded (key.toList.take start.length) := by
    cases c with
    | ordinal => rfl
    | ignoreCase => exact List.map_take.symm
  rw [Starts, List.prefix_iff_eq_take, length_folded, String.length_toList, htake, eq_comm]

/-! ## Normal forms -/

theorem toList_normalize_ignoreCase (key : String) :
    (normalize .ignoreCase key).toList
      = if key.toList.any isUppercase then lowercaseFrom false key.toList else key.toList := by
  rw [normalize]
  split
  · rw [lowercase, String.toList_ofList]
  · rfl

/-- The small letters of a plain start are those that lowercasing leaves alone. -/
theorem Plain.folded (h : Plain .ignoreCase start) :
    (∀ ch ∈ folded .ignoreCase start.toList, IsAscii ch)
      ∧ (folded .ignoreCase start.toList).getLast? ≠ some 'i' := by
  refine ⟨?_, ?_⟩
  · intro ch hch
    obtain ⟨d, hd, rfl⟩ := List.mem_map.mp hch
    exact (h.1 d hd).lowercaseOne
  · rw [Comparer.folded, List.getLast?_map, h.2]
    decide

/-- **A key and its normal form start alike.** -/
theorem starts_normalize_iff (hplain : c.Plain start) (key : String) :
    c.Starts start (c.normalize key) ↔ c.Starts start key := by
  cases c with
  | ordinal => rfl
  | ignoreCase =>
    rw [Starts, Starts, toList_normalize_ignoreCase]
    split
    · obtain ⟨hascii, hlast⟩ := hplain.folded
      exact prefix_map_lowercaseFrom_iff hascii hlast false key.toList
    · rfl

theorem Starts.of_normalize_eq (h : c.Starts start key) (hplain : c.Plain start)
    (hkey : c.normalize key = c.normalize key') : c.Starts start key' := by
  rwa [← starts_normalize_iff hplain, hkey, starts_normalize_iff hplain] at h

/-- A text in ASCII is normalized letter by letter. -/
theorem toList_normalize_of_isAscii (h : ∀ ch ∈ key.toList, IsAscii ch) :
    (normalize .ignoreCase key).toList = folded .ignoreCase key.toList := by
  rw [toList_normalize_ignoreCase]
  split
  · exact lowercaseFrom_eq_map (fun ch hch => (h ch hch).isSimple) false
  · next hupper => exact (map_lowercaseOne_of_isAscii h (Bool.not_eq_true _ ▸ hupper)).symm

/-! ## Cutting a start off -/

theorem eq_append_of_cutAt {n : Nat} {xs head tail : List Char}
    (h : cutAt n xs = some (head, tail)) :
    xs = head ++ tail ∧ (String.ofList head).utf8ByteSize = n := by
  fun_induction cutAt n xs generalizing head with
  | case1 | case3 =>
    cases h
    exact ⟨rfl, rfl⟩
  | case2 | case5 => cases h
  | case4 n ch rest hn hfits ih =>
    obtain ⟨⟨head, tail⟩, hcut, hsplit⟩ := Option.map_eq_some_iff.mp h
    cases hsplit
    obtain ⟨rfl, hsize⟩ := ih hcut
    refine ⟨rfl, ?_⟩
    rw [Utf16.utf8ByteSize_ofList_cons, hsize]
    omega

theorem cutAt_append (head tail : List Char) :
    cutAt (String.ofList head).utf8ByteSize (head ++ tail) = some (head, tail) := by
  induction head with
  | nil => cases tail <;> simp [cutAt]
  | cons ch head ih =>
    have hpos := ch.utf8Size_pos
    rw [Utf16.utf8ByteSize_ofList_cons, List.cons_append, cutAt, if_neg (by omega),
      if_pos (Nat.le_add_right _ _), Nat.add_sub_cancel_left, ih]
    rfl

/-- What has the normal form of a plain start is as long, and all ASCII. -/
theorem Plain.of_normalize_eq (hplain : Plain .ignoreCase start)
    (hsize : key.utf8ByteSize = start.utf8ByteSize)
    (hkey : normalize .ignoreCase key = normalize .ignoreCase start) :
    key.length = start.length ∧ ∀ ch ∈ key.toList, IsAscii ch := by
  have hstart : start.utf8ByteSize = start.length := by
    have hascii := utf8ByteSize_eq_length_iff.mpr hplain.1
    rwa [String.ofList_toList, String.length_toList] at hascii
  have hle := length_le_utf8ByteSize key.toList
  rw [String.ofList_toList, String.length_toList] at hle
  -- the key starts with the start, so it has as many characters, and no bytes for more
  have hstarts : Starts .ignoreCase start key := by
    have hself := starts_append .ignoreCase start ""
    rw [String.append_empty] at hself
    exact hself.of_normalize_eq hplain hkey.symm
  have hge := hstarts.length_le
  rw [length_folded, length_folded, String.length_toList, String.length_toList] at hge
  refine ⟨by omega, utf8ByteSize_eq_length_iff.mp ?_⟩
  rw [String.ofList_toList, String.length_toList]
  omega

/-- A start that is not hidden is all ASCII. -/
theorem Starts.isAscii_take (h : Starts .ignoreCase start key) (hplain : Plain .ignoreCase start)
    (hhides : ¬Hides .ignoreCase start key) :
    ∀ ch ∈ key.toList.take start.length, IsAscii ch := by
  intro ch hch
  have hsmall : lowercaseOne ch ∈ folded .ignoreCase start.toList := by
    rw [← starts_iff_take.mp h]
    exact List.mem_map_of_mem hch
  rcases isAscii_of_lowercaseOne (hplain.folded.1 _ hsmall) with hascii | rfl
  · exact hascii
  · exact absurd ⟨rfl, h, hch⟩ hhides

/-- A head of the key that has the length and the normal form of a plain start is that start. -/
theorem starts_of_cutAt (hplain : Plain .ignoreCase start) {head tail : List Char}
    (hcut : cutAt start.utf8ByteSize key.toList = some (head, tail))
    (hhead : normalize .ignoreCase (String.ofList head) = normalize .ignoreCase start) :
    Starts .ignoreCase start key ∧ ¬Hides .ignoreCase start key
      ∧ key.toList.drop start.length = tail := by
  obtain ⟨hkey, hsize⟩ := eq_append_of_cutAt hcut
  obtain ⟨hlength, hascii⟩ := hplain.of_normalize_eq hsize hhead
  rw [String.length_ofList] at hlength
  have htake : key.toList.take start.length = head := by rw [hkey, ← hlength, List.take_left]
  refine ⟨?_, ?_, ?_⟩
  · have hfolded := congrArg String.toList hhead
    rw [toList_normalize_of_isAscii hascii, toList_normalize_of_isAscii hplain.1,
      String.toList_ofList] at hfolded
    rw [starts_iff_take, htake, hfolded]
  · rintro ⟨-, -, hkelvin⟩
    rw [htake] at hkelvin
    rw [String.toList_ofList] at hascii
    exact absurd (hascii kelvin hkelvin) (by decide)
  · rw [hkey, ← hlength, List.drop_left]

/-- A plain start that is not hidden is the head of the key that has its length. -/
theorem Starts.cutAt (h : Starts .ignoreCase start key) (hplain : Plain .ignoreCase start)
    (hhides : ¬Hides .ignoreCase start key) :
    cutAt start.utf8ByteSize key.toList
        = some (key.toList.take start.length, key.toList.drop start.length)
      ∧ normalize .ignoreCase (String.ofList (key.toList.take start.length))
        = normalize .ignoreCase start := by
  have hascii := h.isAscii_take hplain hhides
  have htake := starts_iff_take.mp h
  refine ⟨?_, ?_⟩
  · have hstart := utf8ByteSize_eq_length_iff.mpr hplain.1
    rw [String.ofList_toList] at hstart
    have hsize : (String.ofList (key.toList.take start.length)).utf8ByteSize
        = start.utf8ByteSize := by
      rw [utf8ByteSize_eq_length_iff.mpr hascii, hstart, ← length_folded .ignoreCase, htake,
        length_folded]
    have hcut := cutAt_append (key.toList.take start.length) (key.toList.drop start.length)
    rwa [hsize, List.take_append_drop] at hcut
  · rw [← String.toList_inj, toList_normalize_of_isAscii hplain.1,
      toList_normalize_of_isAscii (by rwa [String.toList_ofList]), String.toList_ofList, htake]

/-- **A listing cuts off a start that is not hidden**, and finds no other. -/
theorem after?_eq_some_iff (hplain : c.Plain start) {rest : String} :
    c.after? start key = some rest
      ↔ c.Starts start key ∧ ¬c.Hides start key ∧ key.toList.drop start.length = rest.toList := by
  cases c with
  | ordinal =>
    simp only [after?, Option.map_eq_some_iff, List.isPrefixOf?_eq_some_iff_append_eq]
    constructor
    · rintro ⟨tail, hkey, rfl⟩
      refine ⟨⟨tail, hkey⟩, ?_, ?_⟩
      · rintro ⟨hc, -⟩
        cases hc
      · rw [← hkey, ← String.length_toList, List.drop_left, String.toList_ofList]
    · rintro ⟨⟨tail, hkey⟩, -, hrest⟩
      have hkey : start.toList ++ tail = key.toList := hkey
      refine ⟨tail, hkey, ?_⟩
      rw [← String.toList_inj, String.toList_ofList, ← hrest, ← hkey, ← String.length_toList,
        List.drop_left]
  | ignoreCase =>
    simp only [after?, Option.bind_eq_bind, Option.bind_eq_some_iff, Prod.exists]
    constructor
    · rintro ⟨head, tail, hcut, hrest⟩
      obtain ⟨hhead, rfl⟩ : normalize .ignoreCase (String.ofList head)
          = normalize .ignoreCase start ∧ String.ofList tail = rest := by
        simpa using hrest
      rw [String.toList_ofList]
      exact starts_of_cutAt hplain hcut hhead
    · rintro ⟨hstarts, hhides, hrest⟩
      obtain ⟨hcut, hhead⟩ := hstarts.cutAt hplain hhides
      exact ⟨_, _, hcut, by rw [if_pos hhead, hrest, String.ofList_toList]⟩

theorem after?_eq_none (hplain : c.Plain start) (h : ¬c.Starts start key) :
    c.after? start key = none := by
  rw [Option.eq_none_iff_forall_ne_some]
  intro rest hrest
  exact h ((after?_eq_some_iff hplain).mp hrest).1

/-! ## Tags -/

/-- The text is ASCII and has no colon. -/
def IsTag (tag : String) : Prop := ∀ ch ∈ tag.toList, IsAscii ch ∧ ch ≠ ':'

instance : DecidablePred IsTag := fun tag =>
  List.decidableBAll (fun ch => IsAscii ch ∧ ch ≠ ':') tag.toList

variable {tag tag' : String}

theorem plain_append_colon (h : c = .ignoreCase → ∀ ch ∈ tag.toList, IsAscii ch) :
    c.Plain (tag ++ ":") := by
  cases c with
  | ordinal => trivial
  | ignoreCase =>
    rw [Plain, String.toList_append]
    refine ⟨?_, List.getLast?_concat⟩
    intro ch hch
    rcases List.mem_append.mp hch with htag | hcolon
    · exact h rfl ch htag
    · obtain rfl : ch = ':' := List.mem_singleton.mp hcolon
      decide

theorem IsTag.plain (h : IsTag tag) (c : Comparer) : c.Plain (tag ++ ":") :=
  plain_append_colon fun _ ch hch => (h ch hch).1

theorem IsTag.colon_notMem_folded (h : IsTag tag) (c : Comparer) :
    ':' ∉ c.folded tag.toList := by
  cases c with
  | ordinal => exact fun hmem => (h ':' hmem).2 rfl
  | ignoreCase =>
    intro hmem
    obtain ⟨ch, hch, hcolon⟩ := List.mem_map.mp hmem
    obtain ⟨hascii, hne⟩ := h ch hch
    exact hne (hascii.lowercaseOne_eq_colon_iff.mp hcolon)

theorem folded_append_colon (c : Comparer) (tag : String) :
    c.folded (tag ++ ":").toList = c.folded tag.toList ++ [':'] := by
  rw [String.toList_append, folded_append]
  cases c <;> rfl

/-- Up to the first colon there is but one way to read a text. -/
theorem eq_of_prefix_colon {xs ys : List Char} (h : xs ++ [':'] <+: ys ++ [':'])
    (hys : ':' ∉ ys) : xs = ys := by
  obtain ⟨rest, hrest⟩ := h
  rw [List.append_assoc, List.singleton_append] at hrest
  exact ((List.append_cons_inj_of_notMem hys (by simp)).mp hrest.symm).1.symm

/-- **No key starts with two different tags.** -/
theorem folded_eq_of_starts (htag : IsTag tag) (htag' : IsTag tag')
    (h : c.Starts (tag ++ ":") key) (h' : c.Starts (tag' ++ ":") key) :
    c.folded tag.toList = c.folded tag'.toList := by
  rw [Starts, folded_append_colon] at h h'
  rcases List.prefix_or_prefix_of_prefix h h' with hprefix | hprefix
  · exact eq_of_prefix_colon hprefix (htag'.colon_notMem_folded c)
  · exact (eq_of_prefix_colon hprefix (htag.colon_notMem_folded c)).symm

/-- The small letters of a tag are its lowercase. -/
theorem IsTag.lowercase_eq (h : IsTag tag) :
    lowercase tag = String.ofList (folded .ignoreCase tag.toList) := by
  rw [lowercase, lowercaseFrom_eq_map fun ch hch => (h ch hch).1.isSimple]
  rfl

/-- Tags that differ, and without regard to case differ also when lowercased, are different to the
comparer. -/
theorem folded_ne_of_lowercase_ne (htag : IsTag tag) (htag' : IsTag tag') (hne : tag ≠ tag')
    (hlower : c = .ignoreCase → lowercase tag ≠ lowercase tag') :
    c.folded tag.toList ≠ c.folded tag'.toList := by
  intro hfolded
  cases c with
  | ordinal => exact hne (String.toList_inj.mp hfolded)
  | ignoreCase => exact hlower rfl (by rw [htag.lowercase_eq, htag'.lowercase_eq, hfolded])

end Coffer.Comparer
