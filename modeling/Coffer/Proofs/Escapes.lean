import Coffer.Json.Token
import Coffer.Proofs.Base64
import Coffer.Proofs.Utf16

/-!
# Strings in JSON, by the grammar

What RFC 8259 lets stand between the quotes of a string, without any of the functions that read it:
`IsBody` is the form alone, and `Denotes` says which text a body spells. A character may stand for
itself, some have an escape of two letters, and every character may be spelled by its UTF-16 units
in hexadecimal digits of either case.

A body is cut at its closing quote and nowhere else (`scanString_append`), the text that a body
denotes is read off it (`Denotes.unquote?`), and what is written for a text denotes it
(`denotes_written`). All three are proved for one character first, with what follows it left open.
-/

namespace Coffer.Json

/-! ## The grammar -/

/-- Is the byte the hexadecimal digit of a number, a small or a capital letter above nine? -/
def IsHexDigit (n : Nat) (b : UInt8) : Prop :=
  (Text.Utf8.encode "0123456789abcdef")[n]? = some b
    ∨ (Text.Utf8.encode "0123456789ABCDEF")[n]? = some b

/-- The letters that stand behind a backslash for one character. -/
def shortEscapes : List (Char × UInt8) :=
  [('"', 0x22), ('\\', 0x5C), ('/', 0x2F), (Char.ofNat 0x08, 0x62), (Char.ofNat 0x0C, 0x66),
    ('\n', 0x6E), ('\r', 0x72), ('\t', 0x74)]

/-- Four hexadecimal digits behind a backslash and a `u` that spell a number. -/
inductive IsUnicodeEscape : Nat → Bytes → Prop
  | intro {i j k l : Nat} {w x y z : UInt8} (hw : IsHexDigit i w) (hx : IsHexDigit j x)
      (hy : IsHexDigit k y) (hz : IsHexDigit l z) :
      IsUnicodeEscape (((i * 16 + j) * 16 + k) * 16 + l) [0x5C, 0x75, w, x, y, z]

/-- What may stand between the quotes. Bytes that stand for themselves need not be UTF-8 here, and
escaped surrogates need not be paired. -/
inductive IsBody : Bytes → Prop
  | nil : IsBody []
  | plain {b : UInt8} {raw : Bytes} (hcontrol : 0x20 ≤ b) (hquote : b ≠ 0x22)
      (hbackslash : b ≠ 0x5C) (h : IsBody raw) : IsBody (b :: raw)
  | short {c : Char} {e : UInt8} {raw : Bytes} (he : (c, e) ∈ shortEscapes) (h : IsBody raw) :
      IsBody (0x5C :: e :: raw)
  | unicode {n : Nat} {escape raw : Bytes} (he : IsUnicodeEscape n escape) (h : IsBody raw) :
      IsBody (escape ++ raw)

/-- The ways to spell one character. -/
inductive SpellsChar (c : Char) : Bytes → Prop
  | plain (hcontrol : 0x20 ≤ c.toNat) (hquote : c ≠ '"') (hbackslash : c ≠ '\\') :
      SpellsChar c (charBytes c)
  | short {e : UInt8} (he : (c, e) ∈ shortEscapes) : SpellsChar c [0x5C, e]
  | unit {u : UInt16} {escape : Bytes} (hunits : Text.Utf16.unitsOf c = [u])
      (he : IsUnicodeEscape u.toNat escape) : SpellsChar c escape
  | pair {u v : UInt16} {high low : Bytes} (hunits : Text.Utf16.unitsOf c = [u, v])
      (hu : IsUnicodeEscape u.toNat high) (hv : IsUnicodeEscape v.toNat low) :
      SpellsChar c (high ++ low)

/-- The ways to spell characters, one after the other. -/
inductive Spells : List Char → Bytes → Prop
  | nil : Spells [] []
  | cons {c : Char} {cs : List Char} {b raw : Bytes} (hc : SpellsChar c b) (h : Spells cs raw) :
      Spells (c :: cs) (b ++ raw)

/-- Does a body spell a text? -/
def Denotes (raw : Bytes) (s : String) : Prop := Spells s.toList raw

/-! ## Digits and letters -/

theorem IsHexDigit.value? {n : Nat} {b : UInt8} (h : IsHexDigit n b) :
    Bytes.Hex.value? b = some n := by
  have hsmall : ∀ p ∈ (Text.Utf8.encode "0123456789abcdef").zipIdx,
      Bytes.Hex.value? p.1 = some p.2 := by decide
  have hcapital : ∀ p ∈ (Text.Utf8.encode "0123456789ABCDEF").zipIdx,
      Bytes.Hex.value? p.1 = some p.2 := by decide
  rcases h with h | h
  · exact hsmall _ (List.mk_mem_zipIdx_iff_getElem?.mpr h)
  · exact hcapital _ (List.mk_mem_zipIdx_iff_getElem?.mpr h)

theorem isHexDigit_digit : ∀ n < 16, IsHexDigit n (UInt8.ofNat (Bytes.Hex.digit n).toNat) := by
  have h : ∀ n < 16, (Text.Utf8.encode "0123456789abcdef")[n]?
      = some (UInt8.ofNat (Bytes.Hex.digit n).toNat) := by decide
  exact fun n hn => .inl (h n hn)

/-- Four digits are read as the number that they spell. -/
theorem IsUnicodeEscape.exists_hex4? {n : Nat} {escape : Bytes} (h : IsUnicodeEscape n escape) :
    ∃ w x y z, escape = [0x5C, 0x75, w, x, y, z] ∧ hex4? w x y z = some n := by
  obtain @⟨i, j, k, l, w, x, y, z, hw, hx, hy, hz⟩ := h
  refine ⟨w, x, y, z, rfl, ?_⟩
  simp only [hex4?, hw.value?, hx.value?, hy.value?, hz.value?, Option.bind_eq_bind,
    Option.bind_some, Option.pure_def]

/-- A letter stands for one character, which is one byte. -/
theorem shortEscape?_of_mem {c : Char} {e : UInt8} (h : (c, e) ∈ shortEscapes) :
    ∃ b, shortEscape? e = some b ∧ charBytes c = [b] ∧ e ≠ 0x75 := by
  have hall : ∀ p ∈ shortEscapes, shortEscape? p.2 = some (UInt8.ofNat p.1.toNat)
      ∧ charBytes p.1 = [UInt8.ofNat p.1.toNat] ∧ p.2 ≠ 0x75 := by decide
  exact ⟨_, hall _ h⟩

/-! ## Where a body ends -/

theorem scanString_plain {b : UInt8} (hcontrol : 0x20 ≤ b) (hquote : b ≠ 0x22)
    (hbackslash : b ≠ 0x5C) (rest : Bytes) :
    scanString (b :: rest) = (scanString rest).map fun (raw, after) => (b :: raw, after) := by
  rw [scanString.eq_def]
  simp only [if_neg hquote, if_neg hbackslash, if_neg (UInt8.not_lt.mpr hcontrol)]

theorem scanString_short {c : Char} {e : UInt8} (he : (c, e) ∈ shortEscapes) (rest : Bytes) :
    scanString (0x5C :: e :: rest)
      = (scanString rest).map fun (raw, after) => (0x5C :: e :: raw, after) := by
  obtain ⟨b, hb, -, hne⟩ := shortEscape?_of_mem he
  rw [scanString.eq_def]
  simp [hb, hne]

theorem scanString_unicode {n : Nat} {escape : Bytes} (h : IsUnicodeEscape n escape)
    (rest : Bytes) :
    scanString (escape ++ rest)
      = (scanString rest).map fun (raw, after) => (escape ++ raw, after) := by
  obtain ⟨w, x, y, z, rfl, hread⟩ := h.exists_hex4?
  rw [List.cons_append, scanString.eq_def]
  simp [hread]

/-- **A body ends at the quote that follows it.** -/
theorem scanString_append {raw : Bytes} (h : IsBody raw) (rest : Bytes) :
    scanString (raw ++ 0x22 :: rest) = some (raw, rest) := by
  induction h with
  | nil =>
    rw [List.nil_append, scanString.eq_def]
    rfl
  | plain hcontrol hquote hbackslash _ ih =>
    rw [List.cons_append, scanString_plain hcontrol hquote hbackslash, ih, Option.map_some]
  | short he _ ih =>
    rw [List.cons_append, List.cons_append, scanString_short he, ih, Option.map_some]
  | unicode he _ ih => rw [List.append_assoc, scanString_unicode he, ih, Option.map_some]

/-! ## What a body denotes -/

theorem unescape?_plain {b : UInt8} (h : b ≠ 0x5C) (rest : Bytes) :
    unescape? (b :: rest) = (unescape? rest).map (b :: ·) := by
  rw [unescape?.eq_def]
  simp only [ne_eq, h, not_false_eq_true, if_true]

/-- Bytes without a backslash stand for themselves. -/
theorem unescape?_append {b : Bytes} (h : 0x5C ∉ b) (rest : Bytes) :
    unescape? (b ++ rest) = (unescape? rest).map (b ++ ·) := by
  induction b with
  | nil => simp
  | cons x b ih =>
    rw [List.mem_cons, not_or] at h
    rw [List.cons_append, unescape?_plain (Ne.symm h.1), ih h.2, Option.map_map]
    rfl

theorem unescape?_short {c : Char} {e : UInt8} (he : (c, e) ∈ shortEscapes) (rest : Bytes) :
    unescape? (0x5C :: e :: rest) = (unescape? rest).map (charBytes c ++ ·) := by
  obtain ⟨b, hb, hc, hne⟩ := shortEscape?_of_mem he
  rw [unescape?.eq_def, hc]
  simp [hb, hne]

/-- A unit that is a character of its own is read as that character. -/
theorem unescape?_unit {c : Char} {u : UInt16} {escape : Bytes}
    (hunits : Text.Utf16.unitsOf c = [u]) (h : IsUnicodeEscape u.toNat escape) (rest : Bytes) :
    unescape? (escape ++ rest) = (unescape? rest).map (charBytes c ++ ·) := by
  obtain ⟨w, x, y, z, rfl, hread⟩ := h.exists_hex4?
  have hchars := Text.Utf16.characters?_unitsOf c
  rw [hunits, Text.Utf16.characters?] at hchars
  split at hchars
  · cases hchars
  · next hhigh =>
    obtain ⟨hlow, hchars⟩ := Option.ite_none_left_eq_some.mp hchars
    obtain rfl : Char.ofNat u.toNat = c := by
      simpa [Text.Utf16.characters?] using hchars
    rw [List.cons_append, unescape?.eq_def]
    simp [hread, UInt16.ofNat_toNat, hhigh, hlow]

/-- Two units that are one character are read as that character. -/
theorem unescape?_pair {c : Char} {u v : UInt16} {high low : Bytes}
    (hunits : Text.Utf16.unitsOf c = [u, v]) (hu : IsUnicodeEscape u.toNat high)
    (hv : IsUnicodeEscape v.toNat low) (rest : Bytes) :
    unescape? (high ++ low ++ rest) = (unescape? rest).map (charBytes c ++ ·) := by
  obtain ⟨w, x, y, z, rfl, hread⟩ := hu.exists_hex4?
  obtain ⟨w', x', y', z', rfl, hread'⟩ := hv.exists_hex4?
  have hchars := Text.Utf16.characters?_unitsOf c
  rw [hunits, Text.Utf16.characters?] at hchars
  split at hchars
  · next hhigh =>
    obtain ⟨hlow, hchars⟩ := Option.ite_none_right_eq_some.mp hchars
    obtain rfl : Text.Utf16.ofPair u v = c := by
      simpa [Text.Utf16.characters?] using hchars
    rw [List.append_assoc, List.cons_append, unescape?.eq_def]
    simp [hread, hread', UInt16.ofNat_toNat, hhigh, hlow]
  · -- without a first surrogate the two units would be two characters
    obtain ⟨-, hchars⟩ := Option.ite_none_left_eq_some.mp hchars
    obtain ⟨cs, hcs, heq⟩ := Option.map_eq_some_iff.mp hchars
    obtain rfl : cs = [] := (List.cons.inj heq).2
    rw [Text.Utf16.characters?] at hcs
    split at hcs <;> simp at hcs

/-- A byte of a character is the character itself or lies above ASCII. -/
theorem toNat_of_mem_charBytes {c : Char} {x : UInt8} (hx : x ∈ charBytes c) :
    x.toNat = c.toNat ∨ 0x80 ≤ x.toNat := by
  by_cases hc : Text.IsAscii c
  · rw [charBytes, Text.Utf8.encodeChar_of_isAscii hc, List.mem_singleton] at hx
    rw [hx, UInt8.toNat_ofNat']
    exact .inl (Nat.mod_eq_of_lt (Nat.lt_trans hc (by decide)))
  · exact .inr (Text.Utf8.le_toNat_of_mem_encodeChar hc hx)

/-- So a character that may stand for itself has only bytes that may. -/
theorem plain_of_mem_charBytes {c : Char} {x : UInt8} (hx : x ∈ charBytes c)
    (hcontrol : 0x20 ≤ c.toNat) (hquote : c ≠ '"') (hbackslash : c ≠ '\\') :
    0x20 ≤ x ∧ x ≠ 0x22 ∧ x ≠ 0x5C := by
  have hcases := toNat_of_mem_charBytes hx
  rw [← Char.toNat_inj.ne] at hquote hbackslash
  rw [UInt8.le_iff_toNat_le, ← UInt8.toNat_inj.ne, ← UInt8.toNat_inj.ne]
  have hq : '"'.toNat = 0x22 := rfl
  have hb : '\\'.toNat = 0x5C := rfl
  have h20 : (0x20 : UInt8).toNat = 0x20 := rfl
  have h22 : (0x22 : UInt8).toNat = 0x22 := rfl
  have h5C : (0x5C : UInt8).toNat = 0x5C := rfl
  omega

theorem unescape?_spells {c : Char} {b : Bytes} (h : SpellsChar c b) (rest : Bytes) :
    unescape? (b ++ rest) = (unescape? rest).map (charBytes c ++ ·) := by
  cases h with
  | plain hcontrol hquote hbackslash =>
    exact unescape?_append
      (fun hx => (plain_of_mem_charBytes hx hcontrol hquote hbackslash).2.2 rfl) rest
  | short he => exact unescape?_short he rest
  | unit hunits he => exact unescape?_unit hunits he rest
  | pair hunits hu hv => exact unescape?_pair hunits hu hv rest

/-- **A body is read as the text that it denotes.** -/
theorem Denotes.unquote? {raw : Bytes} {s : String} (h : Denotes raw s) :
    unquote? raw = some s := by
  have hread : ∀ {cs : List Char} {raw : Bytes}, Spells cs raw →
      unescape? raw = some (cs.flatMap charBytes) := by
    intro cs raw h
    induction h with
    | nil => rfl
    | cons hc _ ih => rw [unescape?_spells hc, ih, Option.map_some, List.flatMap_cons]
  rw [Json.unquote?, hread h, Option.bind_some]
  exact Text.Utf8.decode?_eq_some_iff.mpr (Text.Utf8.encode_eq_flatMap s).symm

/-! ## What spells a text is a body -/

theorem IsBody.plain_append {b raw : Bytes} (hb : ∀ x ∈ b, 0x20 ≤ x ∧ x ≠ 0x22 ∧ x ≠ 0x5C)
    (h : IsBody raw) : IsBody (b ++ raw) := by
  induction b with
  | nil => exact h
  | cons x b ih =>
    obtain ⟨⟨hcontrol, hquote, hbackslash⟩, hb⟩ := List.forall_mem_cons.mp hb
    exact .plain hcontrol hquote hbackslash (ih hb)

theorem Spells.isBody {cs : List Char} {raw : Bytes} (h : Spells cs raw) : IsBody raw := by
  induction h with
  | nil => exact .nil
  | cons hc _ ih =>
    cases hc with
    | plain hcontrol hquote hbackslash =>
      exact .plain_append (fun x hx => plain_of_mem_charBytes hx hcontrol hquote hbackslash) ih
    | short he => exact .short he ih
    | unit _ he => exact .unicode he ih
    | pair _ hu hv =>
      rw [List.append_assoc]
      exact .unicode hu (.unicode hv ih)

/-! ## Writing -/

theorem charBytes_digit : ∀ n < 16,
    charBytes (Bytes.Hex.digit n) = [UInt8.ofNat (Bytes.Hex.digit n).toNat] := by decide

/-- Four digits spell a control. -/
theorem spellsChar_control {c : Char} (h : c.toNat < 0x20) :
    SpellsChar c (['\\', 'u', '0', '0', Bytes.Hex.digit (c.toNat / 16),
      Bytes.Hex.digit (c.toNat % 16)].flatMap charBytes) := by
  have hunits : Text.Utf16.unitsOf c = [UInt16.ofNat c.toNat] := by
    rw [Text.Utf16.unitsOf, if_pos (by omega)]
  have hnum : (UInt16.ofNat c.toNat).toNat
      = ((0 * 16 + 0) * 16 + c.toNat / 16) * 16 + c.toNat % 16 := by
    rw [Text.Utf16.toNat_unitOfNat (by omega)]
    omega
  have hhigh : c.toNat / 16 < 16 := by omega
  have hlow : c.toNat % 16 < 16 := by omega
  refine .unit hunits ?_
  rw [hnum, List.flatMap_cons, List.flatMap_cons, List.flatMap_cons, List.flatMap_cons,
    List.flatMap_cons, List.flatMap_singleton, charBytes_digit _ hhigh, charBytes_digit _ hlow]
  exact .intro (isHexDigit_digit 0 (by decide)) (isHexDigit_digit 0 (by decide))
    (isHexDigit_digit _ hhigh) (isHexDigit_digit _ hlow)

/-- What is written for a character spells it. -/
theorem spellsChar_escapeChar (c : Char) : SpellsChar c ((escapeChar c).flatMap charBytes) := by
  have hofNat {n : Nat} (h : c.toNat = n) : c = Char.ofNat n := by rw [← h, Char.ofNat_toNat]
  unfold escapeChar
  split_ifs with hquote hbackslash hb hf hn hr ht hcontrol
  · exact .short (by rw [hquote]; decide)
  · exact .short (by rw [hbackslash]; decide)
  · exact .short (by rw [hofNat hb]; decide)
  · exact .short (by rw [hofNat hf]; decide)
  · exact .short (by rw [hn]; decide)
  · exact .short (by rw [hr]; decide)
  · exact .short (by rw [ht]; decide)
  · exact spellsChar_control hcontrol
  · rw [List.flatMap_singleton]
    exact .plain (Nat.le_of_not_lt hcontrol) hquote hbackslash

theorem spells_flatMap : ∀ cs : List Char, Spells cs ((cs.flatMap escapeChar).flatMap charBytes)
  | [] => .nil
  | c :: cs => by
    rw [List.flatMap_cons, List.flatMap_append]
    exact .cons (spellsChar_escapeChar c) (spells_flatMap cs)

/-- What is written between the quotes for a text. -/
def written (s : String) : Bytes := (s.toList.flatMap escapeChar).flatMap charBytes

/-- **What is written for a text denotes it.** -/
theorem denotes_written (s : String) : Denotes (written s) s := spells_flatMap s.toList

theorem encode_quote (s : String) :
    Text.Utf8.encode (quote s) = 0x22 :: (written s ++ [0x22]) := by
  have hbody : Text.Utf8.encode (String.ofList (s.toList.flatMap escapeChar)) = written s := by
    rw [Text.Utf8.encode_eq_flatMap, String.toList_ofList]
    rfl
  rw [quote, Text.Utf8.encode_append, Text.Utf8.encode_append, hbody]
  rfl

end Coffer.Json
