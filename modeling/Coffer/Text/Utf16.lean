import Coffer.Bytes

/-!
# UTF-16

Texts as 16-bit units and back. A character above U+FFFF is written as two surrogates, a high one
and a low one; a surrogate that stands alone is no text.

The arithmetic is done on natural numbers: a character above U+FFFF lies `n` beyond it, `n` is below
2^20, and its surrogates hold the quotient and the remainder of `n` by 1024.
-/

namespace Coffer.Text.Utf16

/-- Is the unit the first of a pair? -/
def isHigh (u : UInt16) : Bool := 0xD800 ≤ u && u < 0xDC00

/-- Is the unit the second of a pair? -/
def isLow (u : UInt16) : Bool := 0xDC00 ≤ u && u < 0xE000

/-- The units of a character. -/
def unitsOf (c : Char) : List UInt16 :=
  if c.toNat < 0x10000 then [UInt16.ofNat c.toNat]
  else
    let n := c.toNat - 0x10000
    [UInt16.ofNat (0xD800 + n / 1024), UInt16.ofNat (0xDC00 + n % 1024)]

/-- The character that a pair of surrogates stands for. -/
def ofPair (high low : UInt16) : Char :=
  Char.ofNat (0x10000 + (high.toNat - 0xD800) * 1024 + (low.toNat - 0xDC00))

/-- The units of a text. -/
def units (s : String) : List UInt16 := s.toList.flatMap unitsOf

/-- The characters that the units spell, if no surrogate stands alone. -/
def characters? : List UInt16 → Option (List Char)
  | [] => some []
  | u :: rest =>
    if isHigh u then
      match rest with
      | v :: tail => if isLow v then (characters? tail).map (ofPair u v :: ·) else none
      | [] => none
    else if isLow u then none
    else (characters? rest).map (Char.ofNat u.toNat :: ·)

/-! ## Units as bytes -/

/-- The units as bytes, the low byte of each first. -/
def toBytes (us : List UInt16) : Bytes := us.flatMap fun u => Bytes.ofNat 2 u.toNat

/-- The units that the bytes hold, if there is an even number of bytes. -/
def ofBytes? : Bytes → Option (List UInt16)
  | [] => some []
  | [_] => none
  | low :: high :: rest =>
    (ofBytes? rest).map (UInt16.ofNat (Bytes.toNat [low, high]) :: ·)

/-- The UTF-16 form of a text, low bytes first. -/
def encode (s : String) : Bytes := toBytes (units s)

/-- The text whose UTF-16 form the bytes are, if there is one. -/
def decode? (b : Bytes) : Option String :=
  ((ofBytes? b).bind characters?).map String.ofList

end Coffer.Text.Utf16
