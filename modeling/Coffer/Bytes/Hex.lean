import Coffer.Text.Utf8
import Coffer.Text.Quoted

/-!
# Hexadecimal text

Two digits for each byte, the high half first. Small letters are written; both cases are read.
-/

namespace Coffer.Bytes.Hex

/-- The digit of a number below 16. -/
def digit (n : Nat) : Char := if n < 10 then Char.ofNat (0x30 + n) else Char.ofNat (0x57 + n)

/-- The number a digit stands for. -/
def value? (b : UInt8) : Option Nat :=
  if 0x30 ≤ b && b ≤ 0x39 then some (b.toNat - 0x30)
  else if 0x61 ≤ b && b ≤ 0x66 then some (b.toNat - 0x57)
  else if 0x41 ≤ b && b ≤ 0x46 then some (b.toNat - 0x37)
  else none

/-- The bytes as digits. -/
def encode (b : Bytes) : String :=
  String.ofList (b.flatMap fun x => [digit (x.toNat / 16), digit (x.toNat % 16)])

/-- Why a text is no hexadecimal text. -/
inductive Fault where
  | oddLength
  | badDigit (byte : UInt8) (index : Nat)
  deriving Repr, DecidableEq

/-- What is wrong, in words. A byte that is no digit is shown as the character of its number. -/
def Fault.message : Fault → String
  | .oddLength => "Odd number of digits"
  | .badDigit byte index =>
    s!"Invalid character {Text.quotedChar (Char.ofNat byte.toNat)} at position {index}"

/-- The bytes that pairs of digits spell, the first digit standing at `index`. -/
def decodePairs (index : Nat) : Bytes → Except Fault Bytes
  | [] => .ok []
  | [_] => .error .oddLength
  | high :: low :: rest =>
    match value? high, value? low with
    | none, _ => .error (.badDigit high index)
    | _, none => .error (.badDigit low (index + 1))
    | some h, some l =>
      match decodePairs (index + 2) rest with
      | .ok b => .ok (UInt8.ofNat (16 * h + l) :: b)
      | .error e => .error e

/-- The bytes that a text spells. The length is judged before the digits are. -/
def decode (s : String) : Except Fault Bytes :=
  let raw := Text.Utf8.encode s
  if raw.length % 2 = 1 then .error .oddLength else decodePairs 0 raw

end Coffer.Bytes.Hex
