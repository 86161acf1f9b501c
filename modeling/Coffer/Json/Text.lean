import Coffer.Bytes.Hex
import Coffer.Text.Utf16

/-!
# Strings in JSON

What stands between the quotes of a JSON string. Writing escapes the quote, the backslash and the
controls below U+0020, and nothing else. Reading takes all escapes of RFC 8259 and works on bytes,
because a file may hold bytes that are no text: a pair of escaped surrogates is one character, a
lone one is none, and what is not escaped has to be UTF-8.
-/

namespace Coffer.Json

/-- A character as it stands between the quotes. -/
def escapeChar (c : Char) : List Char :=
  if c = '"' then ['\\', '"']
  else if c = '\\' then ['\\', '\\']
  else if c.toNat = 0x08 then ['\\', 'b']
  else if c.toNat = 0x0C then ['\\', 'f']
  else if c = '\n' then ['\\', 'n']
  else if c = '\r' then ['\\', 'r']
  else if c = '\t' then ['\\', 't']
  else if c.toNat < 0x20 then
    ['\\', 'u', '0', '0', Bytes.Hex.digit (c.toNat / 16), Bytes.Hex.digit (c.toNat % 16)]
  else [c]

/-- A text as a JSON string. -/
def quote (s : String) : String := "\"" ++ String.ofList (s.toList.flatMap escapeChar) ++ "\""

/-! ## Reading -/

/-- The number of four hexadecimal digits. -/
def hex4? (w x y z : UInt8) : Option Nat := do
  let w ← Bytes.Hex.value? w
  let x ← Bytes.Hex.value? x
  let y ← Bytes.Hex.value? y
  let z ← Bytes.Hex.value? z
  return ((w * 16 + x) * 16 + y) * 16 + z

/-- The byte that a backslash and this letter stand for. -/
def shortEscape? (b : UInt8) : Option UInt8 :=
  if b = 0x22 || b = 0x5C || b = 0x2F then some b
  else if b = 0x62 then some 0x08
  else if b = 0x66 then some 0x0C
  else if b = 0x6E then some 0x0A
  else if b = 0x72 then some 0x0D
  else if b = 0x74 then some 0x09
  else none

/-- The UTF-8 form of one character. -/
def charBytes (c : Char) : Bytes := String.utf8EncodeChar c

/-- The bytes that stand between the quotes with their escapes resolved. -/
def unescape? : Bytes → Option Bytes
  | [] => some []
  | b :: rest =>
    if b ≠ 0x5C then (unescape? rest).map (b :: ·)
    else
      match rest with
      | 0x75 :: w :: x :: y :: z :: tail =>
        match hex4? w x y z with
        | none => none
        | some n =>
          let u := UInt16.ofNat n
          if Text.Utf16.isHigh u then
            match tail with
            | 0x5C :: 0x75 :: w' :: x' :: y' :: z' :: tail =>
              match hex4? w' x' y' z' with
              | none => none
              | some m =>
                let v := UInt16.ofNat m
                if Text.Utf16.isLow v then
                  (unescape? tail).map (charBytes (Text.Utf16.ofPair u v) ++ ·)
                else none
            | _ => none
          else if Text.Utf16.isLow u then none
          else (unescape? tail).map (charBytes (Char.ofNat n) ++ ·)
      | e :: tail =>
        match shortEscape? e with
        | some c => (unescape? tail).map (c :: ·)
        | none => none
      | [] => none

/-- The text that the bytes between the quotes stand for. -/
def unquote? (raw : Bytes) : Option String := (unescape? raw).bind Text.Utf8.decode?

end Coffer.Json
