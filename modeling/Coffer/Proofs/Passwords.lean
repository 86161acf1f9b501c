import Coffer.Password
import Coffer.Proofs.Base64
import Coffer.Proofs.Folders

/-!
# Which texts a password verifies against

A password verifies against a text if and only if the text is `salt|count|digest`, where salt and
digest are padded Base64, the count is a number of 32 bits other than zero, and the digest is what
the password is stretched to under that salt and count (`verify_iff`). Salt and digest have one
spelling each. The count has more: zeros may stand before its digits, and a plus sign before
everything (`Spells`).
-/

namespace Coffer

/-! ## Texts in three parts -/

namespace Text

variable {separator : Char}

theorem split_eq_triple_iff {cs p q r : List Char} :
    split separator cs = [p, q, r] ↔ cs = p ++ separator :: (q ++ separator :: r)
      ∧ separator ∉ p ∧ separator ∉ q ∧ separator ∉ r := by
  constructor
  · intro h
    have hparts : ∀ part ∈ [p, q, r], separator ∉ part :=
      fun part hpart => not_mem_of_mem_split (h ▸ hpart)
    have hjoin := join_split separator cs
    rw [h] at hjoin
    simp only [List.forall_mem_cons] at hparts
    exact ⟨hjoin.symm, hparts.1, hparts.2.1, hparts.2.2.1⟩
  · rintro ⟨rfl, hp, hq, hr⟩
    rw [split_append_cons hp, split_append_cons hq, split_of_not_mem hr]

/-- A text has three parts when two separators stand between them and none within. -/
theorem splitOn_bar_eq_triple_iff {text p q r : String} :
    splitOn '|' text = [p, q, r] ↔ text = p ++ "|" ++ q ++ "|" ++ r
      ∧ '|' ∉ p.toList ∧ '|' ∉ q.toList ∧ '|' ∉ r.toList := by
  have hlists : [p, q, r] = [p.toList, q.toList, r.toList].map String.ofList := by
    simp only [List.map_cons, List.map_nil, String.ofList_toList]
  rw [splitOn, hlists, List.map_inj_right fun _ _ => String.ofList_inj.mp, split_eq_triple_iff,
    ← String.toList_inj]
  simp only [String.toList_append, List.append_assoc]
  rfl

end Text

namespace Password

/-! ## Spellings of a number -/

/-- A text spells a number if it ends in the number's digits, before which there may be zeros and,
first of all, a plus sign. -/
def Spells (text : String) (n : Nat) : Prop :=
  ∃ sign zeros, (sign = "" ∨ sign = "+")
    ∧ text = sign ++ String.ofList (List.replicate zeros '0') ++ toString n

theorem isDigit_of_mem_spelling {zeros n : Nat} {c : Char}
    (h : c ∈ List.replicate zeros '0' ++ Nat.toDigits 10 n) : c.isDigit = true := by
  rcases List.mem_append.mp h with h | h
  · rw [List.eq_of_mem_replicate h]
    rfl
  · exact Nat.isDigit_of_mem_toDigits (by decide) (by decide) h

/-- Digits are zeros and then the digits of their number. -/
theorem exists_zeros_of_digits {cs : List Char} (hne : cs ≠ [])
    (h : ∀ c ∈ cs, c.isDigit = true) :
    ∃ zeros, cs = List.replicate zeros '0' ++ Nat.toDigits 10 (Nat.ofDigitChars 10 cs 0) := by
  induction cs using List.reverseRecOn with
  | nil => exact absurd rfl hne
  | append_singleton cs c ih =>
    rw [List.forall_mem_append, List.forall_mem_singleton, Char.isDigit_iff_toNat] at h
    obtain ⟨hcs, hlow, hhigh⟩ := h
    have hlow : 48 ≤ c.toNat := hlow
    have hhigh : c.toNat ≤ 57 := hhigh
    have hdigit : c.toNat - 48 < 10 := by omega
    have hlast : Nat.toDigits 10 (c.toNat - 48) = [c] := by
      rw [Nat.toDigits_of_lt_base hdigit, List.singleton_inj, ← Char.toNat_inj,
        Nat.toNat_digitChar_of_lt_ten hdigit]
      omega
    have hvalue : Nat.ofDigitChars 10 (cs ++ [c]) 0
        = 10 * Nat.ofDigitChars 10 cs 0 + (c.toNat - 48) := by
      rw [Nat.ofDigitChars_append]
      rfl
    rw [hvalue]
    by_cases hnil : cs = []
    · subst hnil
      exact ⟨0, by rw [Nat.ofDigitChars_nil, Nat.mul_zero, Nat.zero_add, hlast]; rfl⟩
    · obtain ⟨zeros, hzeros⟩ := ih hnil hcs
      rcases Nat.eq_zero_or_pos (Nat.ofDigitChars 10 cs 0) with hzero | hpos
      · -- so far there are zeros only
        rw [hzero, Nat.toDigits_zero, ← List.replicate_succ'] at hzeros
        exact ⟨zeros + 1, by rw [hzero, Nat.mul_zero, Nat.zero_add, hlast, ← hzeros]⟩
      · refine ⟨zeros, ?_⟩
        rw [← Nat.toDigits_append_toDigits (by decide) hpos hdigit, ← List.append_assoc, ← hzeros,
          hlast]

theorem digits?_eq_some_iff {cs : List Char} {n : Nat} :
    digits? cs = some n ↔ ∃ zeros, cs = List.replicate zeros '0' ++ Nat.toDigits 10 n := by
  have hdigits : digits? cs = some n
      ↔ (cs ≠ [] ∧ cs.all Char.isDigit = true) ∧ Nat.ofDigitChars 10 cs 0 = n := by
    unfold digits?
    rw [Option.ite_none_right_eq_some, Option.some.injEq]
    rfl
  rw [hdigits, List.all_eq_true]
  constructor
  · rintro ⟨⟨hne, hall⟩, rfl⟩
    exact exists_zeros_of_digits hne hall
  · rintro ⟨zeros, rfl⟩
    refine ⟨⟨?_, fun c => isDigit_of_mem_spelling⟩, ?_⟩
    · simp [Nat.toDigits_ne_nil]
    · rw [Nat.ofDigitChars_append, Nat.ofDigitChars_replicate_zero, Nat.mul_zero,
        Nat.ofDigitChars_ten_toDigits]

theorem spells_iff {text : String} {n : Nat} :
    Spells text n ↔ ∃ zeros, text.toList = List.replicate zeros '0' ++ Nat.toDigits 10 n
      ∨ text.toList = '+' :: (List.replicate zeros '0' ++ Nat.toDigits 10 n) := by
  have hspelling (sign : String) (zeros : Nat) :
      text = sign ++ String.ofList (List.replicate zeros '0') ++ toString n
        ↔ text.toList = sign.toList ++ (List.replicate zeros '0' ++ Nat.toDigits 10 n) := by
    rw [← String.toList_inj, String.toList_append, String.toList_append, String.toList_ofList,
      Nat.toString_eq_ofList_toDigits, String.toList_ofList, List.append_assoc]
  simp only [Spells, hspelling]
  constructor
  · rintro ⟨sign, zeros, rfl | rfl, htext⟩
    · exact ⟨zeros, .inl htext⟩
    · exact ⟨zeros, .inr htext⟩
  · rintro ⟨zeros, htext | htext⟩
    · exact ⟨"", zeros, .inl rfl, htext⟩
    · exact ⟨"+", zeros, .inr rfl, htext⟩

/-- What is read are the digits that are left without a plus sign. -/
theorem exists_digits_of_number (text : String) :
    ∃ cs, number? text = (digits? cs).filter (· < Bytes.bound 4)
      ∧ (text.toList = '+' :: cs ∨ text.toList = cs ∧ ∀ rest, cs ≠ '+' :: rest) := by
  unfold number?
  split
  · next rest htext =>
    refine ⟨rest, ?_, .inl htext⟩
    dsimp only
    generalize digits? rest = n
    cases n <;> simp [Option.filter]
  · next hsign =>
    refine ⟨text.toList, ?_, .inr ⟨rfl, hsign⟩⟩
    dsimp only
    generalize digits? text.toList = n
    cases n <;> simp [Option.filter]

/-- **The texts that are read as a number are its spellings**, as long as 32 bits hold it. -/
theorem number?_eq_some_iff {text : String} {n : Nat} :
    number? text = some n ↔ Spells text n ∧ n < Bytes.bound 4 := by
  obtain ⟨cs, hnumber, hcs⟩ := exists_digits_of_number text
  rw [hnumber, Option.filter_eq_some_iff, decide_eq_true_eq, digits?_eq_some_iff, spells_iff]
  refine and_congr_left fun _ => exists_congr fun zeros => ?_
  rcases hcs with htext | ⟨htext, hsign⟩
  · -- a plus sign is no digit
    have hplus : '+' :: cs ≠ List.replicate zeros '0' ++ Nat.toDigits 10 n :=
      fun h => nomatch isDigit_of_mem_spelling (h ▸ List.mem_cons_self : '+' ∈ _)
    rw [htext, or_iff_right hplus, List.cons.injEq, and_iff_right rfl]
  · rw [htext, or_iff_left (hsign _)]

example : number? "+007" = some 7 ∧ number? "-0" = none ∧ number? "4294967296" = none := by decide

/-! ## Equal byte strings -/

theorem foldl_or_eq_zero_iff {x : UInt8} {b : Bytes} :
    b.foldl (· ||| ·) x = 0 ↔ x = 0 ∧ ∀ y ∈ b, y = 0 := by
  induction b generalizing x with
  | nil => simp
  | cons y b ih => rw [List.foldl_cons, ih, UInt8.or_eq_zero_iff, List.forall_mem_cons, and_assoc]

theorem sameBytes_eq_true_iff {x y : Bytes} : sameBytes x y = true ↔ x = y := by
  rw [sameBytes, Bool.and_eq_true, beq_iff_eq, beq_iff_eq, foldl_or_eq_zero_iff]
  induction x generalizing y with
  | nil => cases y <;> simp
  | cons a x ih =>
    cases y with
    | nil => simp
    | cons b y =>
      rw [List.zipWith_cons_cons, List.forall_mem_cons, UInt8.xor_eq_zero_iff, List.cons.injEq, ← ih]
      simp only [List.length_cons, Nat.add_right_cancel_iff, true_and]
      tauto

/-! ## What a password is stretched to -/

theorem length_mac (k : Digest.Pbkdf2.Keyed) (message : Bytes) : (k.mac message).length = 64 := rfl

theorem length_further (k : Digest.Pbkdf2.Keyed) (count : Nat) {last sum : Bytes}
    (h : sum.length = 64) : (k.further count last sum).length = 64 := by
  induction count generalizing last sum with
  | zero => exact h
  | succ count ih =>
    refine ih ?_
    rw [List.length_zipWith, h, length_mac, Nat.min_self]

/-- **A password is always stretched to one digest.** -/
theorem length_derive (password salt : Bytes) (iterations : Nat) :
    (Digest.Pbkdf2.derive password salt iterations).length = digestSize :=
  length_further _ _ (length_mac _ _)

/-! ## Hashes -/

/-- The text of a password's hash, with the count spelled as given. -/
def written (password : String) (salt : Bytes) (count : String) (iterations : Nat) : String :=
  Bytes.Base64.encodePadded .standard salt ++ "|" ++ count ++ "|"
    ++ Bytes.Base64.encodePadded .standard
      (Digest.Pbkdf2.derive (Text.Utf8.encode password) salt iterations)

theorem bar_notMem_encodePadded (b : Bytes) :
    '|' ∉ (Bytes.Base64.encodePadded .standard b).toList := by
  have hsymbol : ∀ n < 64, Bytes.Base64.Alphabet.standard.symbol n ≠ '|' := by decide
  rw [Bytes.Base64.encodePadded, String.toList_ofList, Bytes.Base64.symbols_eq, List.mem_append]
  rintro (hmem | hmem)
  · obtain ⟨n, hn, hbar⟩ := List.mem_map.mp hmem
    exact hsymbol n (Bytes.Base64.lt_of_mem_sextets b n hn) hbar
  · cases List.eq_of_mem_replicate hmem

theorem Spells.bar_notMem {text : String} {n : Nat} (h : Spells text n) : '|' ∉ text.toList := by
  obtain ⟨zeros, htext | htext⟩ := spells_iff.mp h
  · intro hmem
    cases isDigit_of_mem_spelling (htext ▸ hmem)
  · rw [htext, List.mem_cons, not_or]
    exact ⟨by decide, fun hmem => nomatch isDigit_of_mem_spelling hmem⟩

theorem verify_iff {password text : String} :
    verify password text = true ↔ ∃ salt count iterations, Spells count iterations
      ∧ 1 ≤ iterations ∧ iterations < Bytes.bound 4
      ∧ text = written password salt count iterations := by
  unfold verify
  constructor
  · intro h
    split at h
    · next salt64 count digest64 hparts =>
      split at h
      · next salt iterations digest hsalt hcount hdigest =>
        simp only [Bool.and_eq_true, decide_eq_true_eq, sameBytes_eq_true_iff] at h
        obtain ⟨⟨hne, -⟩, rfl⟩ := h
        obtain ⟨hspells, hlt⟩ := number?_eq_some_iff.mp hcount
        obtain ⟨htext, -⟩ := Text.splitOn_bar_eq_triple_iff.mp hparts
        rw [Bytes.Base64.sound_standard.decodePadded?_eq_some_iff] at hsalt hdigest
        rw [hsalt, hdigest] at htext
        exact ⟨salt, count, iterations, hspells, Nat.one_le_iff_ne_zero.mpr hne, hlt, htext⟩
      · cases h
    · cases h
  · rintro ⟨salt, count, iterations, hspells, hpos, hlt, htext⟩
    rw [Text.splitOn_bar_eq_triple_iff.mpr ⟨htext, bar_notMem_encodePadded _, hspells.bar_notMem,
      bar_notMem_encodePadded _⟩]
    dsimp only
    rw [Bytes.Base64.sound_standard.decodePadded?_eq_some_iff.mpr rfl,
      Bytes.Base64.sound_standard.decodePadded?_eq_some_iff.mpr rfl,
      number?_eq_some_iff.mpr ⟨hspells, hlt⟩]
    simp only [Bool.and_eq_true, decide_eq_true_eq, sameBytes_eq_true_iff, length_derive, and_true]
    exact Nat.one_le_iff_ne_zero.mp hpos

theorem count_bar_written {count : String} {iterations : Nat} (h : Spells count iterations)
    (password : String) (salt : Bytes) :
    (written password salt count iterations).toList.count '|' = 2 := by
  simp only [written, String.toList_append, List.count_append,
    List.count_eq_zero_of_not_mem (bar_notMem_encodePadded _),
    List.count_eq_zero_of_not_mem h.bar_notMem]
  rfl

theorem spells_toString (n : Nat) : Spells (toString n) n :=
  spells_iff.mpr ⟨0, .inl (by
    rw [Nat.toString_eq_ofList_toDigits, String.toList_ofList, List.replicate_zero,
      List.nil_append])⟩

/-- The count of a hash is spelled with its digits alone. -/
theorem hash_eq {iterations : Nat} (h : iterations ≠ 0) (password : String) (salt : Bytes) :
    hash password salt iterations
      = .ok (written password salt (toString iterations) iterations) :=
  if_neg h

/-- **A password verifies against its hashes and nothing else.** A hash has exactly two bars; salt
and digest are padded Base64 in their only spelling, the digest has 64 bytes, and the count may be
spelled as any number is. What `hash` writes for a password is among its hashes. -/
theorem verify_exactly_hashes :
    (∀ password text, verify password text = true ↔ ∃ salt64 count digest64,
      text = salt64 ++ "|" ++ count ++ "|" ++ digest64 ∧ text.toList.count '|' = 2
        ∧ ∃ salt iterations, salt64 = Bytes.Base64.encodePadded .standard salt
          ∧ Spells count iterations ∧ 1 ≤ iterations ∧ iterations < UInt32.size
          ∧ digest64 = Bytes.Base64.encodePadded .standard
            (Digest.Pbkdf2.derive (Text.Utf8.encode password) salt iterations))
      ∧ (∀ password salt iterations,
        (Digest.Pbkdf2.derive (Text.Utf8.encode password) salt iterations).length = 64)
      ∧ ∀ password salt (iterations : UInt32), iterations ≠ 0 →
        ∃ text, hash password salt iterations.toNat = .ok text ∧ verify password text = true := by
  refine ⟨fun password text => ?_, fun password => length_derive _, ?_⟩
  · rw [verify_iff]
    constructor
    · rintro ⟨salt, count, iterations, hspells, hpos, hlt, rfl⟩
      exact ⟨_, count, _, rfl, count_bar_written hspells password salt, salt, iterations, rfl,
        hspells, hpos, hlt, rfl⟩
    · rintro ⟨_, count, _, htext, -, salt, iterations, rfl, hspells, hpos, hlt, rfl⟩
      exact ⟨salt, count, iterations, hspells, hpos, hlt, htext⟩
  · intro password salt iterations hne
    have hne : iterations.toNat ≠ 0 := fun hzero => hne (UInt32.toNat_inj.mp hzero)
    refine ⟨_, hash_eq hne password salt, verify_iff.mpr ⟨salt, _, _, spells_toString _, ?_, ?_, rfl⟩⟩
    · exact Nat.one_le_iff_ne_zero.mpr hne
    · exact iterations.toNat_lt

/-- A count that was written without a sign may also be given one. -/
theorem verify_exactly_hashes_signed :
    (∃ text, hash "correct horse" [1, 2, 3] (UInt32.toNat 2) = .ok text
        ∧ verify "correct horse" text = true)
      ∧ verify "correct horse" (written "correct horse" [1, 2, 3] "+02" 2) = true := by
  obtain ⟨hexact, -, hverifies⟩ := verify_exactly_hashes
  have hspells : Spells "+02" 2 := ⟨"+", 1, .inr rfl, rfl⟩
  refine ⟨hverifies "correct horse" [1, 2, 3] 2 (by decide), (hexact _ _).mpr ?_⟩
  exact ⟨_, "+02", _, rfl, count_bar_written hspells _ _, [1, 2, 3], 2, rfl, hspells, by decide,
    by decide, rfl⟩

end Password

end Coffer
