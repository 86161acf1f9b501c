import Mathlib.Data.List.DropRight
import Coffer.Bytes.Base64
import Coffer.Proofs.Letters
import Coffer.Proofs.Steps

/-!
# Base64 has one spelling for each byte string

A text is decoded to a byte string if and only if it is the form that the byte string is written in,
unpadded (`Alphabet.Sound.decode_eq_ok_iff`) or padded (`Alphabet.Sound.decodePadded?_eq_some_iff`).

Between bytes and symbols stand the numbers of six bits that a byte string is cut into (`sextets`).
Writing maps them to symbols. Reading takes four of them at a time off the text, and the last group
with two or three only if the bits left over are zero: each group of numbers is that of exactly one
group of bytes (`sextets_eq_pair_iff` and those after it).
-/

namespace Coffer

/-! ## Bytes of ASCII -/

namespace Text.Utf8

theorem encode_eq_flatMap (s : String) : encode s = s.toList.flatMap String.utf8EncodeChar := by
  have h : s.toByteArray = s.toList.utf8Encode := String.utf8Encode_toList.symm
  show s.toByteArray.data.toList = _
  rw [h, List.utf8Encode, List.toList_data_toByteArray]

theorem encode_append (s t : String) : encode (s ++ t) = encode s ++ encode t := by
  simp only [encode_eq_flatMap, String.toList_append, List.flatMap_append]

/-- A character of ASCII is one byte, -/
theorem encodeChar_of_isAscii {c : Char} (h : IsAscii c) :
    String.utf8EncodeChar c = [UInt8.ofNat c.toNat] := by
  have hle : c.val.toNat ≤ 127 := Nat.le_of_lt_succ h
  rw [String.utf8EncodeChar.eq_1, if_pos hle]
  rfl

/-- and in any other character all bytes lie above ASCII. -/
theorem le_toNat_of_mem_encodeChar {c : Char} (h : ¬IsAscii c) {b : UInt8}
    (hb : b ∈ String.utf8EncodeChar c) : 0x80 ≤ b.toNat := by
  have hgt : ¬c.val.toNat ≤ 127 := fun hle => h (Nat.lt_succ_of_le hle)
  have hbyte (n : Nat) (hn : 0x80 ≤ n % 256) : 0x80 ≤ (UInt8.ofNat n).toNat := by
    rwa [UInt8.toNat_ofNat']
  rw [String.utf8EncodeChar.eq_1, if_neg hgt] at hb
  split at hb
  · simp only [List.mem_cons, List.not_mem_nil, or_false] at hb
    rcases hb with rfl | rfl <;> exact hbyte _ (by omega)
  · split at hb
    · simp only [List.mem_cons, List.not_mem_nil, or_false] at hb
      rcases hb with rfl | rfl | rfl <;> exact hbyte _ (by omega)
    · simp only [List.mem_cons, List.not_mem_nil, or_false] at hb
      rcases hb with rfl | rfl | rfl | rfl <;> exact hbyte _ (by omega)

theorem encode_ofList {cs : List Char} (h : ∀ c ∈ cs, IsAscii c) :
    encode (String.ofList cs) = cs.map fun c => UInt8.ofNat c.toNat := by
  rw [encode_eq_flatMap, String.toList_ofList, ← List.flatMap_singleton' (cs.map _),
    List.flatMap_map]
  exact List.flatMap_congr fun c hc => encodeChar_of_isAscii (h c hc)

/-- A last byte of ASCII is that of the last character. -/
theorem getLast?_of_getLast?_encode {s : String} {b : UInt8} (hb : b.toNat < 0x80)
    (h : (encode s).getLast? = some b) : s.toList.getLast? = some (Char.ofNat b.toNat) := by
  rw [encode_eq_flatMap] at h
  rcases List.eq_nil_or_concat s.toList with hnil | ⟨cs, c, hcs⟩
  · rw [hnil] at h
    cases h
  · rw [hcs, List.concat_eq_append] at h ⊢
    rw [List.flatMap_append, List.flatMap_singleton, List.getLast?_append,
      List.getLast?_eq_some_getLast String.utf8EncodeChar_ne_nil, Option.some_or] at h
    have hmem : b ∈ String.utf8EncodeChar c := Option.some.inj h ▸ List.getLast_mem _
    by_cases hc : IsAscii c
    · rw [encodeChar_of_isAscii hc, List.mem_singleton] at hmem
      have hbyte : b.toNat = c.toNat := by
        rw [hmem, UInt8.toNat_ofNat']
        exact Nat.mod_eq_of_lt (Nat.lt_trans hc (by decide))
      rw [List.getLast?_concat, hbyte, Char.ofNat_toNat]
    · exact absurd (le_toNat_of_mem_encodeChar hc hmem) (Nat.not_le_of_lt hb)

end Text.Utf8

namespace Bytes.Base64

/-! ## Alphabets -/

/-- The byte of a symbol. -/
def Alphabet.byte (a : Alphabet) (n : Nat) : UInt8 := UInt8.ofNat (a.symbol n).toNat

/-- The symbols are characters of ASCII. Each is read as its number, and nothing else is read. The
padding sign is no symbol. -/
structure Alphabet.Sound (a : Alphabet) : Prop where
  isAscii : ∀ n < 64, Text.IsAscii (a.symbol n)
  value?_byte : ∀ n < 64, a.value? (a.byte n) = some n
  byte_value? : ∀ k < 256, ∀ n ∈ a.value? (UInt8.ofNat k), n < 64 ∧ a.byte n = UInt8.ofNat k
  value?_padding : a.value? paddingByte = none

set_option maxRecDepth 8000 in
theorem sound_standard : Alphabet.standard.Sound :=
  ⟨by decide, by decide, by decide, by decide⟩

set_option maxRecDepth 8000 in
theorem sound_urlSafe : Alphabet.urlSafe.Sound :=
  ⟨by decide, by decide, by decide, by decide⟩

variable {a : Alphabet}

theorem Alphabet.Sound.value?_eq_some_iff (h : a.Sound) {b : UInt8} {n : Nat} :
    a.value? b = some n ↔ n < 64 ∧ b = a.byte n := by
  constructor
  · intro hvalue
    have hb := h.byte_value? b.toNat b.toNat_lt n
    rw [UInt8.ofNat_toNat] at hb
    obtain ⟨hn, hbyte⟩ := hb hvalue
    exact ⟨hn, hbyte.symm⟩
  · rintro ⟨hn, rfl⟩
    exact h.value?_byte n hn

theorem Alphabet.Sound.byte_ne_padding (h : a.Sound) {n : Nat} (hn : n < 64) :
    a.byte n ≠ paddingByte := by
  intro heq
  have hvalue := h.value?_byte n hn
  rw [heq, h.value?_padding] at hvalue
  cases hvalue

theorem Alphabet.Sound.symbol_ne_padding (h : a.Sound) {n : Nat} (hn : n < 64) :
    a.symbol n ≠ '=' :=
  fun heq => h.byte_ne_padding hn (by rw [byte, heq]; rfl)

theorem Alphabet.Sound.read_eq_ok_iff (h : a.Sound) {b : UInt8} {offset n : Nat} :
    a.read b offset = .ok n ↔ n < 64 ∧ b = a.byte n := by
  rw [← h.value?_eq_some_iff, Alphabet.read]
  cases a.value? b <;> simp

/-! ## Six bits at a time -/

/-- The numbers of six bits that a byte string is cut into. A short last one is filled up with
zeros. -/
def sextets : Bytes → List Nat
  | [] => []
  | [x] => [x.toNat / 4, x.toNat % 4 * 16]
  | [x, y] => [x.toNat / 4, x.toNat % 4 * 16 + y.toNat / 16, y.toNat % 16 * 4]
  | x :: y :: z :: rest =>
    [x.toNat / 4, x.toNat % 4 * 16 + y.toNat / 16, y.toNat % 16 * 4 + z.toNat / 64, z.toNat % 64]
      ++ sextets rest

theorem symbols_eq (a : Alphabet) (b : Bytes) : a.symbols b = (sextets b).map a.symbol := by
  induction b using sextets.induct with
  | case1 | case2 | case3 => rfl
  | case4 x y z rest ih => rw [Alphabet.symbols, ih, sextets]; rfl

theorem lt_of_mem_sextets (b : Bytes) : ∀ n ∈ sextets b, n < 64 := by
  induction b using sextets.induct with
  | case1 => exact nofun
  | case2 x =>
    have hx := x.toNat_lt
    simp only [sextets, List.forall_mem_cons]
    refine ⟨?_, ?_, nofun⟩ <;> omega
  | case3 x y =>
    have hx := x.toNat_lt
    have hy := y.toNat_lt
    simp only [sextets, List.forall_mem_cons]
    refine ⟨?_, ?_, ?_, nofun⟩ <;> omega
  | case4 x y z rest ih =>
    have hx := x.toNat_lt
    have hy := y.toNat_lt
    have hz := z.toNat_lt
    simp only [sextets, List.cons_append, List.nil_append, List.forall_mem_cons]
    refine ⟨?_, ?_, ?_, ?_, ih⟩ <;> omega

/-- One byte more makes a number more, and a third byte two. -/
theorem length_sextets (b : Bytes) : (sextets b).length = (4 * b.length + 2) / 3 := by
  induction b using sextets.induct with
  | case1 | case2 | case3 => simp [sextets]
  | case4 x y z rest ih =>
    rw [sextets, List.length_append, ih]
    simp only [List.length_cons, List.length_nil]
    omega

/-- A byte is known by its number. -/
theorem eq_ofNat_iff {x : UInt8} {n : Nat} (hn : n < 256) : x = UInt8.ofNat n ↔ x.toNat = n := by
  rw [← UInt8.toNat_inj, UInt8.toNat_ofNat', Nat.mod_eq_of_lt hn]

section Groups

variable {p q r s : Nat} {b : Bytes}

/-- Two numbers are one byte, when the four bits left over are zero; -/
theorem sextets_eq_pair_iff (hp : p < 64) (hq : q < 64) :
    sextets b = [p, q] ↔ q % 16 = 0 ∧ b = [UInt8.ofNat (p * 4 + q / 16)] := by
  match b with
  | [x] =>
    have hx := x.toNat_lt
    simp only [sextets, List.cons.injEq, and_true]
    rw [eq_ofNat_iff (by omega)]
    omega
  | [] | [x, y] | x :: y :: z :: rest => simp [sextets]

/-- three are two bytes, when the two bits left over are zero; -/
theorem sextets_eq_triple_iff (hp : p < 64) (hq : q < 64) (hr : r < 64) :
    sextets b = [p, q, r] ↔ r % 4 = 0
      ∧ b = [UInt8.ofNat (p * 4 + q / 16), UInt8.ofNat (q % 16 * 16 + r / 4)] := by
  match b with
  | [x, y] =>
    have hx := x.toNat_lt
    have hy := y.toNat_lt
    simp only [sextets, List.cons.injEq, and_true]
    rw [eq_ofNat_iff (by omega), eq_ofNat_iff (by omega)]
    omega
  | [] | [x] | x :: y :: z :: rest => simp [sextets]

/-- and four are three bytes, whatever follows. -/
theorem sextets_eq_quadruple_iff {ns : List Nat} (hp : p < 64) (hq : q < 64) (hr : r < 64)
    (hs : s < 64) :
    sextets b = p :: q :: r :: s :: ns ↔ ∃ rest, sextets rest = ns
      ∧ b = UInt8.ofNat (p * 4 + q / 16) :: UInt8.ofNat (q % 16 * 16 + r / 4)
        :: UInt8.ofNat (r % 4 * 64 + s) :: rest := by
  match b with
  | x :: y :: z :: rest =>
    have hx := x.toNat_lt
    have hy := y.toNat_lt
    have hz := z.toNat_lt
    simp only [sextets, List.cons_append, List.nil_append, List.cons.injEq]
    rw [eq_ofNat_iff (by omega), eq_ofNat_iff (by omega), eq_ofNat_iff (by omega)]
    constructor
    · rintro ⟨h₁, h₂, h₃, h₄, hrest⟩
      exact ⟨rest, hrest, by omega, by omega, by omega, rfl⟩
    · rintro ⟨_, hrest, h₁, h₂, h₃, rfl⟩
      exact ⟨by omega, by omega, by omega, by omega, hrest⟩
  | [] | [x] | [x, y] => simp [sextets]

end Groups

/-! ## The last group -/

/-- After a padding sign there may be no symbol. -/
theorem Alphabet.readLast_ne_ok (a : Alphabet) {start place first : Nat} {group : Bytes}
    {ns : List Nat} (hne : group ≠ []) (hlast : group.getLast? ≠ some paddingByte) :
    a.readLast start place (some first) group ≠ .ok ns := by
  induction group generalizing place ns with
  | nil => exact absurd rfl hne
  | cons b rest ih =>
    by_cases hb : b = paddingByte
    · have hrest : rest ≠ [] := by
        rintro rfl
        exact hlast (congrArg some hb)
      have hrestlast : rest.getLast? ≠ some paddingByte := by
        rwa [List.getLast?_cons_of_ne_nil hrest] at hlast
      by_cases hplace : place < 2
      · simp [readLast, hb, hplace]
      · simp only [readLast, hb, hplace, if_true, if_false]
        exact ih hrest hrestlast
    · simp [readLast, hb]

/-- Bytes that do not end in a padding sign are read as the numbers that they are the symbols of. -/
theorem Alphabet.Sound.readLast_eq_ok_iff (h : a.Sound) {start place : Nat} {group : Bytes}
    {ns : List Nat} (hlast : group.getLast? ≠ some paddingByte) :
    a.readLast start place none group = .ok ns ↔ (∀ n ∈ ns, n < 64) ∧ group = ns.map a.byte := by
  induction group generalizing place ns with
  | nil =>
    rw [readLast, Except.ok.injEq]
    constructor
    · rintro rfl
      exact ⟨nofun, rfl⟩
    · rintro ⟨-, hnil⟩
      exact (List.map_eq_nil_iff.mp hnil.symm).symm
  | cons b rest ih =>
    have hrest : rest.getLast? ≠ some paddingByte := by
      intro heq
      rw [List.getLast?_cons, heq] at hlast
      exact hlast rfl
    by_cases hb : b = paddingByte
    · -- a padding sign is no symbol, and only others could follow it up to the end
      have hne : rest ≠ [] := by
        rintro rfl
        exact hlast (congrArg some hb)
      refine iff_of_false ?_ ?_
      · by_cases hplace : place < 2
        · simp [readLast, hb, hplace]
        · simp only [readLast, hb, hplace, if_true, if_false]
          exact a.readLast_ne_ok hne hrest
      · rintro ⟨hlt, hgroup⟩
        obtain ⟨n, hn, hbyte⟩ := List.mem_map.mp (hgroup ▸ List.mem_cons_self : b ∈ ns.map a.byte)
        exact h.byte_ne_padding (hlt n hn) (hbyte.trans hb)
    · have hstep : a.readLast start place none (b :: rest) = .ok ns
          ↔ ∃ n ms, a.read b (start + place) = .ok n
            ∧ a.readLast start (place + 1) none rest = .ok ms ∧ n :: ms = ns := by
        simp only [readLast, hb, if_false]
        cases a.read b (start + place) <;> simp [map_eq_ok_iff]
      rw [hstep]
      constructor
      · rintro ⟨n, ms, hread, htail, rfl⟩
        obtain ⟨hn, rfl⟩ := h.read_eq_ok_iff.mp hread
        obtain ⟨hlt, rfl⟩ := (ih hrest).mp htail
        exact ⟨List.forall_mem_cons.mpr ⟨hn, hlt⟩, rfl⟩
      · rintro ⟨hlt, hgroup⟩
        obtain ⟨n, ms, rfl, hbyte, htail⟩ := List.map_eq_cons_iff.mp hgroup.symm
        rw [List.forall_mem_cons] at hlt
        exact ⟨n, ms, h.read_eq_ok_iff.mpr ⟨hlt.1, hbyte.symm⟩,
          (ih hrest).mpr ⟨hlt.2, htail.symm⟩, rfl⟩

/-- A last group is decoded exactly when it is what its bytes are written as. -/
theorem Alphabet.Sound.decodeLast_eq_ok_iff (h : a.Sound) {start : Nat} {group b : Bytes}
    (hlast : group.getLast? ≠ some paddingByte) (hne : group ≠ []) (hlen : group.length ≤ 4) :
    a.decodeLast start group = .ok b ↔ group = (sextets b).map a.byte := by
  have hread : a.readLast start 0 none group = .ok (sextets b)
      ↔ group = (sextets b).map a.byte := by
    rw [h.readLast_eq_ok_iff hlast]
    exact and_iff_right (lt_of_mem_sextets b)
  rw [← hread, Alphabet.decodeLast]
  cases hns : a.readLast start 0 none group with
  | error e => simp
  | ok ns =>
    obtain ⟨hlt, rfl⟩ := (h.readLast_eq_ok_iff hlast).mp hns
    rw [List.length_map] at hlen
    rw [Except.ok.injEq, eq_comm (a := ns)]
    match ns with
    | [] => exact absurd rfl hne
    | [p] =>
      have hsize := length_sextets b
      refine iff_of_false nofun fun hp => ?_
      rw [hp, List.length_singleton] at hsize
      omega
    | [p, q] =>
      obtain ⟨hp, hq, -⟩ := by simpa only [List.forall_mem_cons] using hlt
      rw [sextets_eq_pair_iff hp hq]
      by_cases hrest : q % 16 = 0 <;> simp [hrest, eq_comm (a := b)]
    | [p, q, r] =>
      obtain ⟨hp, hq, hr, -⟩ := by simpa only [List.forall_mem_cons] using hlt
      rw [sextets_eq_triple_iff hp hq hr]
      by_cases hrest : r % 4 = 0 <;> simp [hrest, eq_comm (a := b)]
    | [p, q, r, s] =>
      obtain ⟨hp, hq, hr, hs, -⟩ := by simpa only [List.forall_mem_cons] using hlt
      rw [sextets_eq_quadruple_iff hp hq hr hs]
      constructor
      · intro hb
        exact ⟨[], rfl, (Except.ok.inj hb).symm⟩
      · rintro ⟨rest, hrest, rfl⟩
        have hnil : rest = [] := by
          have hsize := length_sextets rest
          rw [hrest, List.length_nil] at hsize
          exact List.length_eq_zero_iff.mp (by omega)
        rw [hnil]
    | p :: q :: r :: s :: n :: ns =>
      simp only [List.length_cons] at hlen
      omega

/-- Bytes that do not end in a padding sign are decoded exactly when they are what the result is
written as. -/
theorem Alphabet.Sound.decodeGroups_eq_ok_iff (h : a.Sound) {start : Nat} {raw b : Bytes}
    (hlast : raw.getLast? ≠ some paddingByte) :
    a.decodeGroups start raw = .ok b ↔ raw = (sextets b).map a.byte := by
  induction start, raw using Alphabet.decodeGroups.induct generalizing b with
  | case1 start =>
    rw [Alphabet.decodeGroups, Except.ok.injEq, eq_comm, eq_comm (a := ([] : Bytes)),
      List.map_eq_nil_iff, ← List.length_eq_zero_iff, ← List.length_eq_zero_iff, length_sextets]
    omega
  | case2 start w x y z next rest ih =>
    have hrest : (next :: rest).getLast? ≠ some paddingByte := by
      simpa only [List.getLast?_cons_cons] using hlast
    simp only [Alphabet.decodeGroups, bind_eq_ok_iff, pure_eq_ok, Except.ok.injEq,
      h.read_eq_ok_iff, ih hrest]
    constructor
    · rintro ⟨p, ⟨hp, rfl⟩, q, ⟨hq, rfl⟩, r, ⟨hr, rfl⟩, s, ⟨hs, rfl⟩, tail, htail, rfl⟩
      rw [(sextets_eq_quadruple_iff hp hq hr hs).mpr ⟨tail, rfl, rfl⟩, htail]
      rfl
    · intro hraw
      have hlt := lt_of_mem_sextets b
      match hns : sextets b with
      | p :: q :: r :: s :: ns =>
        rw [hns] at hraw hlt
        simp only [List.map_cons, List.cons.injEq] at hraw
        obtain ⟨rfl, rfl, rfl, rfl, htail⟩ := hraw
        obtain ⟨hp, hq, hr, hs, -⟩ := by simpa only [List.forall_mem_cons] using hlt
        obtain ⟨tail, rfl, hb⟩ := (sextets_eq_quadruple_iff hp hq hr hs).mp hns
        exact ⟨p, ⟨hp, rfl⟩, q, ⟨hq, rfl⟩, r, ⟨hr, rfl⟩, s, ⟨hs, rfl⟩, tail, htail, hb.symm⟩
      | [] | [_] | [_, _] | [_, _, _] => simp [hns] at hraw
  | case3 start group hne hshort =>
    rw [Alphabet.decodeGroups.eq_3 _ _ _ hne hshort]
    refine h.decodeLast_eq_ok_iff hlast hne ?_
    match group with
    | [] | [_] | [_, _] | [_, _, _] | [_, _, _, _] => simp
    | w :: x :: y :: z :: next :: rest => exact absurd rfl (hshort w x y z next rest)

/-! ## Padding signs -/

theorem getLast?_withoutPadding (cs : List Char) :
    (cs.rdropWhile (· = '=')).getLast? ≠ some '=' := by
  intro hlast
  obtain ⟨hne, hsign⟩ := List.mem_getLast?_eq_getLast hlast
  exact List.rdropWhile_last_not _ _ hne (decide_eq_true hsign.symm)

theorem withoutPadding_append (cs : List Char) :
    cs.rdropWhile (· = '=')
      ++ List.replicate (cs.length - (cs.rdropWhile (· = '=')).length) '=' = cs := by
  have hsigns : cs.rtakeWhile (· = '=')
      = List.replicate (cs.length - (cs.rdropWhile (· = '=')).length) '=' := by
    refine List.eq_replicate_iff.mpr ⟨?_, fun c hc => ?_⟩
    · have hlength := congrArg List.length (List.rdropWhile_append_rtakeWhile (p := (· = '='))
        (l := cs))
      rw [List.length_append] at hlength
      omega
    · simpa using List.mem_rtakeWhile_imp hc
  rw [← hsigns, List.rdropWhile_append_rtakeWhile]

theorem Alphabet.Sound.ne_padding_of_mem_symbols (h : a.Sound) {b : Bytes} {c : Char}
    (hc : c ∈ a.symbols b) : c ≠ '=' := by
  rw [symbols_eq] at hc
  obtain ⟨n, hn, rfl⟩ := List.mem_map.mp hc
  exact h.symbol_ne_padding (lt_of_mem_sextets b n hn)

/-- All symbols are kept, whatever padding signs follow. -/
theorem Alphabet.Sound.withoutPadding_symbols (h : a.Sound) (b : Bytes) (n : Nat) :
    (a.symbols b ++ List.replicate n '=').rdropWhile (· = '=') = a.symbols b := by
  induction n with
  | zero =>
    rw [List.replicate_zero, List.append_nil, List.rdropWhile_eq_self_iff]
    intro hne hsign
    exact h.ne_padding_of_mem_symbols (List.getLast_mem hne) (of_decide_eq_true hsign)
  | succ n ih =>
    rw [List.replicate_succ', ← List.append_assoc, List.rdropWhile_concat_pos _ _ _ (by simp), ih]

/-! ## Texts -/

theorem Alphabet.Sound.utf8_encode (h : a.Sound) (b : Bytes) :
    Text.Utf8.encode (encode a b) = (sextets b).map a.byte := by
  have hascii : ∀ c ∈ (sextets b).map a.symbol, Text.IsAscii c := by
    intro c hc
    obtain ⟨n, hn, rfl⟩ := List.mem_map.mp hc
    exact h.isAscii n (lt_of_mem_sextets b n hn)
  rw [encode, symbols_eq, Text.Utf8.encode_ofList hascii, List.map_map]
  rfl

/-- **A text that does not end in a padding sign is decoded to the bytes that it is written for,
and to nothing else.** -/
theorem Alphabet.Sound.decode_eq_ok_iff (h : a.Sound) {text : String} {b : Bytes}
    (hend : text.toList.getLast? ≠ some '=') : decode a text = .ok b ↔ text = encode a b := by
  have hlast : (Text.Utf8.encode text).getLast? ≠ some paddingByte :=
    fun heq => hend (Text.Utf8.getLast?_of_getLast?_encode (by decide) heq)
  have htext : text = encode a b ↔ Text.Utf8.encode text = (sextets b).map a.byte := by
    rw [← h.utf8_encode]
    exact ⟨congrArg _, Text.Utf8.encode_injective⟩
  have hgroups : a.decodeGroups 0 (Text.Utf8.encode text) = .ok b ↔ _ :=
    h.decodeGroups_eq_ok_iff hlast
  rw [htext, ← hgroups]
  unfold decode
  dsimp only
  split
  · next hnone => rw [List.getLast?_eq_none_iff.mp hnone, Alphabet.decodeGroups]
  · split
    · next hlength =>
      -- no byte string is written with one symbol more than whole groups
      refine iff_of_false (by simp) fun hok => ?_
      have hsize := congrArg List.length ((h.decodeGroups_eq_ok_iff hlast).mp hok)
      rw [List.length_map, length_sextets] at hsize
      omega
    · rfl

/-- The bits that a group leaves over count: only one of two spellings of a byte is accepted. -/
example : decode .standard "QQ" = .ok [0x41]
    ∧ decode .standard "QR" = .error (.badLastSymbol 0x52 1) := by decide

/-- **A text is accepted as the padded form of a byte string if and only if it is that form.** -/
theorem Alphabet.Sound.decodePadded?_eq_some_iff (h : a.Sound) {text : String} {b : Bytes} :
    decodePadded? a text = some b ↔ text = encodePadded a b := by
  -- one byte and two bytes after whole groups leave two places and one place to fill
  have hsize : (a.symbols b).length = (4 * b.length + 2) / 3 := by
    rw [symbols_eq, List.length_map, length_sextets]
  show (if text.toList.length % 4 = 0
      ∧ text.toList.length - (text.toList.rdropWhile (· = '=')).length ≤ 2
    then (decode a (String.ofList (text.toList.rdropWhile (· = '=')))).toOption else none) = some b
      ↔ _
  have hend : (String.ofList (text.toList.rdropWhile (· = '='))).toList.getLast? ≠ some '=' := by
    rw [String.toList_ofList]
    exact getLast?_withoutPadding _
  rw [Option.ite_none_right_eq_some, toOption_eq_some_iff, h.decode_eq_ok_iff hend, encode,
    encodePadded, String.ofList_inj]
  constructor
  · rintro ⟨⟨hwhole, hpadding⟩, hbody⟩
    have htext := withoutPadding_append text.toList
    have hlength := congrArg List.length htext
    rw [hbody] at htext hlength hpadding
    rw [List.length_append, List.length_replicate] at hlength
    have hsigns : text.toList.length - (a.symbols b).length
        = (4 - (a.symbols b).length % 4) % 4 := by omega
    rw [← String.ofList_toList (s := text), ← htext, hsigns]
  · rintro rfl
    rw [String.toList_ofList, h.withoutPadding_symbols, List.length_append, List.length_replicate]
    exact ⟨⟨by omega, by omega⟩, rfl⟩

end Bytes.Base64
end Coffer
