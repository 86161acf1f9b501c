import Coffer.Json.Text

/-!
# The words of JSON

A JSON text is cut into words: brackets, separators, literals, numbers and strings, with blanks
between them. A number is checked but not evaluated, and a string keeps its bytes as they stand,
with escapes of the right form but unresolved: whoever skips a value has no use for more.

## Termination

Each word takes at least its first byte, so the rest that is cut next is shorter. The scanners of
strings and numbers return the rest, and `length_scanString` and `length_scanNumber` say that it
does not grow.
-/

namespace Coffer.Json

/-- A word of a JSON text. -/
inductive Token where
  | openBrace
  | closeBrace
  | openBracket
  | closeBracket
  | colon
  | comma
  | null
  | bool (value : Bool)
  | number
  | string (raw : Bytes)
  deriving Repr, DecidableEq

/-- The bytes that may stand between words. -/
def isBlank (b : UInt8) : Bool := b = 0x20 || b = 0x09 || b = 0x0A || b = 0x0D

def isDigit (b : UInt8) : Bool := 0x30 ≤ b && b ≤ 0x39

/-! ## Strings -/

/-- What a string holds up to its closing quote, and what follows that. -/
def scanString : Bytes → Option (Bytes × Bytes)
  | [] => none
  | b :: rest =>
    if b = 0x22 then some ([], rest)
    else if b = 0x5C then
      match rest with
      | 0x75 :: w :: x :: y :: z :: tail =>
        if (hex4? w x y z).isSome then
          (scanString tail).map fun (raw, after) => (b :: 0x75 :: w :: x :: y :: z :: raw, after)
        else none
      | e :: tail =>
        if (shortEscape? e).isSome then
          (scanString tail).map fun (raw, after) => (b :: e :: raw, after)
        else none
      | [] => none
    else if b < 0x20 then none
    else (scanString rest).map fun (raw, after) => (b :: raw, after)

theorem length_scanString {b raw after : Bytes} (h : scanString b = some (raw, after)) :
    after.length ≤ b.length := by
  fun_induction scanString b generalizing raw after with
  | case1 => cases h
  | case2 =>
    cases h
    simp
  | case3 _ _ _ _ _ _ _ ih =>
    obtain ⟨⟨_, _⟩, hs, heq⟩ := Option.map_eq_some_iff.mp h
    cases heq
    have := ih hs
    simp only [List.length_cons]
    omega
  | case4 => cases h
  | case5 _ _ _ _ _ ih =>
    obtain ⟨⟨_, _⟩, hs, heq⟩ := Option.map_eq_some_iff.mp h
    cases heq
    have := ih hs
    simp only [List.length_cons]
    omega
  | case6 => cases h
  | case7 => cases h
  | case8 => cases h
  | case9 b rest _ _ _ ih =>
    obtain ⟨⟨_, _⟩, hs, heq⟩ := Option.map_eq_some_iff.mp h
    cases heq
    have := ih hs
    simp only [List.length_cons]
    omega

/-! ## Numbers -/

/-- What follows the digits at the front. -/
def skipDigits (b : Bytes) : Bytes := b.dropWhile isDigit

/-- What follows at least one digit. -/
def scanDigits : Bytes → Option Bytes
  | [] => none
  | b :: rest => if isDigit b then some (skipDigits rest) else none

/-- What follows the whole part of a number: a zero alone or digits that do not start with one. -/
def scanWhole : Bytes → Option Bytes
  | [] => none
  | b :: rest =>
    if b = 0x30 then some rest
    else if isDigit b then some (skipDigits rest)
    else none

/-- What follows the fraction, if there is one. -/
def scanFraction : Bytes → Option Bytes
  | 0x2E :: rest => scanDigits rest
  | b => some b

/-- What follows the exponent, if there is one. -/
def scanExponent : Bytes → Option Bytes
  | [] => some []
  | b :: rest =>
    if b = 0x65 || b = 0x45 then
      match rest with
      | sign :: tail => if sign = 0x2B || sign = 0x2D then scanDigits tail else scanDigits rest
      | [] => none
    else some (b :: rest)

/-- What follows a number without its sign. -/
def scanUnsigned (b : Bytes) : Option Bytes :=
  (scanWhole b).bind fun b => (scanFraction b).bind scanExponent

/-- What follows a number. -/
def scanNumber : Bytes → Option Bytes
  | 0x2D :: rest => scanUnsigned rest
  | b => scanUnsigned b

theorem length_skipDigits (b : Bytes) : (skipDigits b).length ≤ b.length :=
  (List.dropWhile_suffix _).length_le

theorem length_scanDigits {b after : Bytes} (h : scanDigits b = some after) :
    after.length < b.length := by
  cases b with
  | nil => cases h
  | cons x rest =>
    simp only [scanDigits, Option.ite_none_right_eq_some, Option.some.injEq] at h
    have := length_skipDigits rest
    rw [← h.2, List.length_cons]
    omega

theorem length_scanWhole {b after : Bytes} (h : scanWhole b = some after) :
    after.length < b.length := by
  cases b with
  | nil => cases h
  | cons x rest =>
    have hskip := length_skipDigits rest
    have hcons : (x :: rest).length = rest.length + 1 := rfl
    simp only [scanWhole] at h
    split at h
    · cases h
      omega
    · rw [Option.ite_none_right_eq_some] at h
      obtain ⟨_, h⟩ := h
      cases h
      omega

theorem length_scanFraction {b after : Bytes} (h : scanFraction b = some after) :
    after.length ≤ b.length := by
  unfold scanFraction at h
  split at h
  · have := length_scanDigits h
    rw [List.length_cons]
    omega
  · cases h
    omega

theorem length_scanExponent {b after : Bytes} (h : scanExponent b = some after) :
    after.length ≤ b.length := by
  unfold scanExponent at h
  split at h
  · cases h
    simp
  · split at h
    · split at h
      · split at h <;> have := length_scanDigits h <;> simp only [List.length_cons] at * <;> omega
      · cases h
    · cases h
      omega

theorem length_scanUnsigned {b after : Bytes} (h : scanUnsigned b = some after) :
    after.length < b.length := by
  obtain ⟨b₁, h₁, h⟩ := Option.bind_eq_some_iff.mp h
  obtain ⟨b₂, h₂, h₃⟩ := Option.bind_eq_some_iff.mp h
  have := length_scanWhole h₁
  have := length_scanFraction h₂
  have := length_scanExponent h₃
  omega

theorem length_scanNumber {b after : Bytes} (h : scanNumber b = some after) :
    after.length < b.length := by
  unfold scanNumber at h
  split at h
  · have := length_scanUnsigned h
    rw [List.length_cons]
    omega
  · exact length_scanUnsigned h

/-! ## Words -/

/-- The word that a bracket or separator is. -/
def mark? (b : UInt8) : Option Token :=
  if b = 0x7B then some .openBrace
  else if b = 0x7D then some .closeBrace
  else if b = 0x5B then some .openBracket
  else if b = 0x5D then some .closeBracket
  else if b = 0x3A then some .colon
  else if b = 0x2C then some .comma
  else none

/-- The literal at the front, and what follows it. -/
def literal? : Bytes → Option (Token × Bytes)
  | 0x6E :: 0x75 :: 0x6C :: 0x6C :: rest => some (.null, rest)
  | 0x74 :: 0x72 :: 0x75 :: 0x65 :: rest => some (.bool true, rest)
  | 0x66 :: 0x61 :: 0x6C :: 0x73 :: 0x65 :: rest => some (.bool false, rest)
  | _ => none

/-- The word at the front, which is no blank, and what follows it. -/
def token? : Bytes → Option (Token × Bytes)
  | [] => none
  | b :: rest =>
    match mark? b with
    | some t => some (t, rest)
    | none =>
      if b = 0x22 then (scanString rest).map fun (raw, after) => (.string raw, after)
      else
        match literal? (b :: rest) with
        | some found => some found
        | none => (scanNumber (b :: rest)).map fun after => (.number, after)

theorem length_literal? {b after : Bytes} {t : Token} (h : literal? b = some (t, after)) :
    after.length < b.length := by
  unfold literal? at h
  split at h <;> cases h <;> simp only [List.length_cons] <;> omega

theorem length_token? {b after : Bytes} {t : Token} (h : token? b = some (t, after)) :
    after.length < b.length := by
  unfold token? at h
  split at h
  · cases h
  · split at h
    · cases h
      simp
    · split at h
      · obtain ⟨⟨_, _⟩, hs, heq⟩ := Option.map_eq_some_iff.mp h
        cases heq
        have := length_scanString hs
        rw [List.length_cons]
        omega
      · split at h
        · rename_i found hl
          cases h
          exact length_literal? hl
        · obtain ⟨_, hn, heq⟩ := Option.map_eq_some_iff.mp h
          cases heq
          exact length_scanNumber hn

/-- **The words of a text**, if it consists of words and blanks. -/
def tokens? (b : Bytes) : Option (List Token) :=
  match b with
  | [] => some []
  | x :: rest =>
    if isBlank x then tokens? rest
    else
      match h : token? (x :: rest) with
      | none => none
      | some (t, after) =>
        have := length_token? h
        (tokens? after).map (t :: ·)
termination_by b.length
decreasing_by
  · exact Nat.lt_succ_self _
  · assumption

end Coffer.Json
