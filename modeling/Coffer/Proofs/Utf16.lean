import Coffer.KeyEncoding

/-!
# Every text has one form as bytes

Reading UTF-16 accepts exactly what writing produces (`decode?_eq_some_iff`), as it is with UTF-8.
So a key encoding is canonical: bytes that are a key are the form of that key and of no other.

Characters below U+10000 are a unit that is no surrogate, the others a pair of surrogates. Both
directions are proved for one character first, with the units that follow it left open.
-/

namespace Coffer.Text.Utf16

/-! ## One character -/

theorem isHigh_iff (u : UInt16) : isHigh u = true ↔ 0xD800 ≤ u.toNat ∧ u.toNat < 0xDC00 := by
  simp [isHigh, UInt16.le_iff_toNat_le, UInt16.lt_iff_toNat_lt]

theorem isLow_iff (u : UInt16) : isLow u = true ↔ 0xDC00 ≤ u.toNat ∧ u.toNat < 0xE000 := by
  simp [isLow, UInt16.le_iff_toNat_le, UInt16.lt_iff_toNat_lt]

theorem toNat_char_bounds (c : Char) :
    c.toNat < 0xD800 ∨ 0xDFFF < c.toNat ∧ c.toNat < 0x110000 := c.valid

theorem toNat_charOfNat {n : Nat} (h : n < 0xD800 ∨ 0xDFFF < n ∧ n < 0x110000) :
    (Char.ofNat n).toNat = n := by
  rw [Char.ofNat, dif_pos h]
  rfl

theorem toNat_unitOfNat {n : Nat} (h : n < 0x10000) : (UInt16.ofNat n).toNat = n := by
  rw [UInt16.toNat_ofNat']
  omega

/-- The units of a character are read back, whatever follows. -/
theorem characters?_unitsOf_append (c : Char) (rest : List UInt16) :
    characters? (unitsOf c ++ rest) = (characters? rest).map (c :: ·) := by
  have hc := toNat_char_bounds c
  unfold unitsOf
  split
  · next hsmall =>
    have hu := toNat_unitOfNat hsmall
    have hhigh : ¬isHigh (UInt16.ofNat c.toNat) := by rw [isHigh_iff, hu]; omega
    have hlow : ¬isLow (UInt16.ofNat c.toNat) := by rw [isLow_iff, hu]; omega
    rw [List.cons_append, List.nil_append, characters?.eq_def]
    simp only [hhigh, hlow, if_false, Bool.false_eq_true, hu, Char.ofNat_toNat]
  · next hlarge =>
    have hu : (UInt16.ofNat (0xD800 + (c.toNat - 0x10000) / 1024)).toNat
        = 0xD800 + (c.toNat - 0x10000) / 1024 := toNat_unitOfNat (by omega)
    have hv : (UInt16.ofNat (0xDC00 + (c.toNat - 0x10000) % 1024)).toNat
        = 0xDC00 + (c.toNat - 0x10000) % 1024 := toNat_unitOfNat (by omega)
    have hhigh : isHigh (UInt16.ofNat (0xD800 + (c.toNat - 0x10000) / 1024)) := by
      rw [isHigh_iff, hu]; omega
    have hlow : isLow (UInt16.ofNat (0xDC00 + (c.toNat - 0x10000) % 1024)) := by
      rw [isLow_iff, hv]; omega
    -- quotient and remainder by 1024 make up the number again
    have hpair : 0x10000 + (0xD800 + (c.toNat - 0x10000) / 1024 - 0xD800) * 1024
        + (0xDC00 + (c.toNat - 0x10000) % 1024 - 0xDC00) = c.toNat := by omega
    simp only [List.cons_append, List.nil_append]
    rw [characters?, if_pos hhigh]
    simp only [hlow, if_true]
    rw [ofPair, hu, hv, hpair, Char.ofNat_toNat]

theorem characters?_unitsOf (c : Char) : characters? (unitsOf c) = some [c] := by
  rw [← List.append_nil (unitsOf c), characters?_unitsOf_append]
  rfl

/-- A pair of surrogates is the form of the character that it stands for. -/
theorem unitsOf_ofPair {u v : UInt16} (hu : isHigh u) (hv : isLow v) :
    unitsOf (ofPair u v) = [u, v] := by
  rw [isHigh_iff] at hu
  rw [isLow_iff] at hv
  have hn : (ofPair u v).toNat
      = 0x10000 + (u.toNat - 0xD800) * 1024 + (v.toNat - 0xDC00) := by
    rw [ofPair]
    exact toNat_charOfNat (by omega)
  have hhigh : UInt16.ofNat (0xD800 + ((ofPair u v).toNat - 0x10000) / 1024) = u := by
    apply UInt16.toNat_inj.mp
    rw [hn, toNat_unitOfNat (by omega)]
    omega
  have hlow : UInt16.ofNat (0xDC00 + ((ofPair u v).toNat - 0x10000) % 1024) = v := by
    apply UInt16.toNat_inj.mp
    rw [hn, toNat_unitOfNat (by omega)]
    omega
  rw [unitsOf, if_neg (by omega)]
  simp only [hhigh, hlow]

/-- A unit that is no surrogate is the form of a character. -/
theorem unitsOf_ofNat {u : UInt16} (hhigh : ¬isHigh u) (hlow : ¬isLow u) :
    unitsOf (Char.ofNat u.toNat) = [u] := by
  have hlt : u.toNat < 0x10000 := u.toNat_lt
  rw [isHigh_iff] at hhigh
  rw [isLow_iff] at hlow
  have hn : (Char.ofNat u.toNat).toNat = u.toNat := toNat_charOfNat (by omega)
  rw [unitsOf, hn, if_pos hlt, UInt16.ofNat_toNat]

/-- No character has more units than UTF-8 bytes. -/
theorem length_unitsOf_le (c : Char) : (unitsOf c).length ≤ c.utf8Size := by
  have hpos := c.utf8Size_pos
  unfold unitsOf
  split
  · exact hpos
  · next hlarge =>
    have hfour : c.utf8Size = 4 := by
      rw [Char.utf8Size_eq_four_iff, UInt32.lt_iff_toNat_lt, Char.toNat_val]
      exact Nat.lt_of_lt_of_le (by decide) (Nat.le_of_not_lt hlarge)
    simp [hfour]

/-! ## Texts as units -/

theorem characters?_flatMap : ∀ cs : List Char, characters? (cs.flatMap unitsOf) = some cs
  | [] => rfl
  | c :: cs => by
    rw [List.flatMap_cons, characters?_unitsOf_append, characters?_flatMap cs, Option.map_some]

/-- Units that spell characters are the form of these. -/
theorem eq_flatMap_of_characters? {us : List UInt16} {cs : List Char}
    (h : characters? us = some cs) : us = cs.flatMap unitsOf := by
  fun_induction characters? us generalizing cs with
  | case1 => simp_all
  | case2 u hhigh v tail hlow ih =>
    obtain ⟨ds, hds, rfl⟩ := Option.map_eq_some_iff.mp h
    rw [List.flatMap_cons, unitsOf_ofPair hhigh hlow, ← ih hds]
    rfl
  | case3 => cases h
  | case4 => cases h
  | case5 => cases h
  | case6 u rest hhigh hlow ih =>
    obtain ⟨ds, hds, rfl⟩ := Option.map_eq_some_iff.mp h
    rw [List.flatMap_cons, unitsOf_ofNat hhigh hlow, ← ih hds]
    rfl

theorem utf8ByteSize_ofList_cons (c : Char) (cs : List Char) :
    (String.ofList (c :: cs)).utf8ByteSize = c.utf8Size + (String.ofList cs).utf8ByteSize := by
  rw [← String.size_toByteArray, ← String.size_toByteArray, String.toByteArray_ofList,
    String.toByteArray_ofList, List.utf8Encode_cons, ByteArray.size_append,
    List.utf8Encode_singleton, List.size_toByteArray, String.length_utf8EncodeChar]

theorem length_flatMap_unitsOf_le : ∀ cs : List Char,
    (cs.flatMap unitsOf).length ≤ (String.ofList cs).utf8ByteSize
  | [] => Nat.zero_le _
  | c :: cs => by
    have hc := length_unitsOf_le c
    have ih := length_flatMap_unitsOf_le cs
    rw [List.flatMap_cons, List.length_append, utf8ByteSize_ofList_cons]
    omega

/-- No text has more units than UTF-8 bytes. -/
theorem length_units_le (s : String) : (units s).length ≤ s.utf8ByteSize := by
  have h := length_flatMap_unitsOf_le s.toList
  rwa [String.ofList_toList] at h

/-! ## Units as bytes -/

theorem length_toBytes (us : List UInt16) : (toBytes us).length = 2 * us.length := by
  induction us with
  | nil => rfl
  | cons u us ih =>
    rw [toBytes, List.flatMap_cons, List.length_append, ← toBytes, ih, Bytes.length_ofNat,
      List.length_cons]
    omega

theorem ofBytes?_toBytes : ∀ us : List UInt16, ofBytes? (toBytes us) = some us
  | [] => rfl
  | u :: us => by
    have hu : u.toNat < 0x10000 := u.toNat_lt
    have hform : toBytes (u :: us) = Bytes.ofNat 2 u.toNat ++ toBytes us := rfl
    have hread : Bytes.toNat (Bytes.ofNat 2 u.toNat) = u.toNat := Bytes.toNat_ofNat 2 _ hu
    rw [hform]
    simp only [Bytes.ofNat, List.cons_append, List.nil_append] at hread ⊢
    rw [ofBytes?, hread, ofBytes?_toBytes us, UInt16.ofNat_toNat, Option.map_some]

theorem eq_toBytes_of_ofBytes? {b : Bytes} {us : List UInt16} (h : ofBytes? b = some us) :
    b = toBytes us := by
  fun_induction ofBytes? b generalizing us with
  | case1 => simp_all [toBytes]
  | case2 => cases h
  | case3 low high rest ih =>
    obtain ⟨vs, hvs, rfl⟩ := Option.map_eq_some_iff.mp h
    have hlt : Bytes.toNat [low, high] < 0x10000 := Bytes.toNat_lt [low, high]
    have hunit : Bytes.ofNat 2 (UInt16.ofNat (Bytes.toNat [low, high])).toNat = [low, high] := by
      rw [toNat_unitOfNat hlt]
      exact Bytes.ofNat_toNat [low, high]
    show low :: high :: rest
      = Bytes.ofNat 2 (UInt16.ofNat (Bytes.toNat [low, high])).toNat ++ toBytes vs
    rw [hunit, ← ih hvs]
    rfl

/-! ## Texts as bytes -/

/-- **Reading accepts exactly what writing produces.** -/
theorem decode?_eq_some_iff {b : Bytes} {s : String} : decode? b = some s ↔ b = encode s := by
  unfold decode? encode units
  constructor
  · intro h
    obtain ⟨cs, hcs, rfl⟩ := Option.map_eq_some_iff.mp h
    obtain ⟨us, hus, hcs⟩ := Option.bind_eq_some_iff.mp hcs
    rw [eq_toBytes_of_ofBytes? hus, eq_flatMap_of_characters? hcs, String.toList_ofList]
  · rintro rfl
    rw [ofBytes?_toBytes, Option.bind_some, characters?_flatMap, Option.map_some,
      String.ofList_toList]

end Coffer.Text.Utf16

namespace Coffer.KeyEncoding

/-- **Bytes are a key exactly if they are its form.** -/
theorem decode?_eq_some_iff (e : KeyEncoding) {raw : Bytes} {key : String} :
    e.decode? raw = some key ↔ raw = e.encode key := by
  cases e with
  | utf8 => exact Text.Utf8.decode?_eq_some_iff
  | utf16 => exact Text.Utf16.decode?_eq_some_iff

end Coffer.KeyEncoding
