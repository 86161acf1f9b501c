import Coffer.Text.Utf8

/-!
# Base64

Three bytes as four symbols of six bits. An alphabet fixes the last two symbols; the padded form
fills the last four places with `=`.

Reading is strict: the bits that a short last group leaves over must be zero, and where padding is
asked for it must be complete. So a byte string has one written form, and reading accepts that form
only.

## Faults

The place of a fault is an offset into the text. The last one to four symbols form the last group
and are judged after all others, with one exception: when the text is one symbol too long for whole
groups, its last byte is looked at first of all.
-/

namespace Coffer.Bytes.Base64

/-- The symbols for 62 and 63; the first 62 are the capitals, the small letters and the digits. -/
structure Alphabet where
  symbol62 : Char
  symbol63 : Char
  deriving Repr, DecidableEq

/-- The alphabet of the padded form. -/
def Alphabet.standard : Alphabet := ⟨'+', '/'⟩

/-- The alphabet that is safe within addresses. -/
def Alphabet.urlSafe : Alphabet := ⟨'-', '_'⟩

/-- The symbol of a number below 64. -/
def Alphabet.symbol (a : Alphabet) (n : Nat) : Char :=
  if n < 26 then Char.ofNat (0x41 + n)
  else if n < 52 then Char.ofNat (0x61 + (n - 26))
  else if n < 62 then Char.ofNat (0x30 + (n - 52))
  else if n = 62 then a.symbol62
  else a.symbol63

/-- The number that a byte is the symbol of. -/
def Alphabet.value? (a : Alphabet) (b : UInt8) : Option Nat :=
  let n := b.toNat
  if 0x41 ≤ n ∧ n ≤ 0x5A then some (n - 0x41)
  else if 0x61 ≤ n ∧ n ≤ 0x7A then some (n - 0x61 + 26)
  else if 0x30 ≤ n ∧ n ≤ 0x39 then some (n - 0x30 + 52)
  else if n = a.symbol62.toNat then some 62
  else if n = a.symbol63.toNat then some 63
  else none

/-! ## Writing -/

/-- The symbols of a byte string, without padding. -/
def Alphabet.symbols (a : Alphabet) : Bytes → List Char
  | [] => []
  | [x] => [a.symbol (x.toNat / 4), a.symbol (x.toNat % 4 * 16)]
  | [x, y] =>
    [a.symbol (x.toNat / 4), a.symbol (x.toNat % 4 * 16 + y.toNat / 16),
      a.symbol (y.toNat % 16 * 4)]
  | x :: y :: z :: rest =>
    a.symbol (x.toNat / 4) :: a.symbol (x.toNat % 4 * 16 + y.toNat / 16)
      :: a.symbol (y.toNat % 16 * 4 + z.toNat / 64) :: a.symbol (z.toNat % 64) :: a.symbols rest

/-- The unpadded form of a byte string. -/
def encode (a : Alphabet) (b : Bytes) : String := String.ofList (a.symbols b)

/-- The padded form of a byte string. -/
def encodePadded (a : Alphabet) (b : Bytes) : String :=
  let symbols := a.symbols b
  String.ofList (symbols ++ List.replicate ((4 - symbols.length % 4) % 4) '=')

/-! ## Reading -/

/-- Why a text is no unpadded form. -/
inductive Fault where
  | badSymbol (byte : UInt8) (offset : Nat)
  | badLength (length : Nat)
  | badLastSymbol (byte : UInt8) (offset : Nat)
  deriving Repr, DecidableEq

/-- What is wrong, in words. -/
def Fault.message : Fault → String
  | .badSymbol byte offset => s!"Invalid symbol {byte.toNat}, offset {offset}."
  | .badLength length => s!"Invalid input length: {length}"
  | .badLastSymbol byte offset => s!"Invalid last symbol {byte.toNat}, offset {offset}."

/-- The byte of the padding sign. -/
def paddingByte : UInt8 := 0x3D

/-- The number of a symbol that stands at `offset`. -/
def Alphabet.read (a : Alphabet) (b : UInt8) (offset : Nat) : Except Fault Nat :=
  match a.value? b with
  | some n => .ok n
  | none => .error (.badSymbol b offset)

/-- The numbers of the last group, from its symbol `place` on. A padding sign is refused in the
first two places, and after them as soon as something follows it. -/
def Alphabet.readLast (a : Alphabet) (start place : Nat) (padding : Option Nat) :
    Bytes → Except Fault (List Nat)
  | [] => .ok []
  | b :: rest =>
    if b = paddingByte then
      if place < 2 then .error (.badSymbol b (start + place))
      else a.readLast start (place + 1) (padding.or (some place)) rest
    else
      match padding with
      | some first => .error (.badSymbol paddingByte (start + first))
      | none =>
        match a.read b (start + place) with
        | .error e => .error e
        | .ok n => (a.readLast start (place + 1) none rest).map (n :: ·)

/-- The bytes of the last group, which starts at `start`. -/
def Alphabet.decodeLast (a : Alphabet) (start : Nat) (group : Bytes) : Except Fault Bytes :=
  match a.readLast start 0 none group with
  | .error e => .error e
  | .ok [p, q] =>
    if q % 16 = 0 then .ok [UInt8.ofNat (p * 4 + q / 16)]
    else .error (.badLastSymbol (group.getD 1 0) (start + 1))
  | .ok [p, q, r] =>
    if r % 4 = 0 then .ok [UInt8.ofNat (p * 4 + q / 16), UInt8.ofNat (q % 16 * 16 + r / 4)]
    else .error (.badLastSymbol (group.getD 2 0) (start + 2))
  | .ok [p, q, r, s] =>
    .ok [UInt8.ofNat (p * 4 + q / 16), UInt8.ofNat (q % 16 * 16 + r / 4),
      UInt8.ofNat (r % 4 * 64 + s)]
  | .ok numbers => .error (.badLength (start + numbers.length))

/-- The bytes of the groups from offset `start` on. -/
def Alphabet.decodeGroups (a : Alphabet) (start : Nat) : Bytes → Except Fault Bytes
  | [] => .ok []
  | w :: x :: y :: z :: next :: rest => do
    let p ← a.read w start
    let q ← a.read x (start + 1)
    let r ← a.read y (start + 2)
    let s ← a.read z (start + 3)
    let tail ← a.decodeGroups (start + 4) (next :: rest)
    return UInt8.ofNat (p * 4 + q / 16) :: UInt8.ofNat (q % 16 * 16 + r / 4)
      :: UInt8.ofNat (r % 4 * 64 + s) :: tail
  | group => a.decodeLast start group

/-- **The bytes whose unpadded form a text is, or why there are none.** -/
def decode (a : Alphabet) (text : String) : Except Fault Bytes :=
  let raw := Text.Utf8.encode text
  match raw.getLast? with
  | none => .ok []
  | some last =>
    if raw.length % 4 = 1 ∧ a.value? last = none ∧ last ≠ paddingByte then
      .error (.badSymbol last (raw.length - 1))
    else a.decodeGroups 0 raw

/-- The bytes whose padded form a text is, if there are some. -/
def decodePadded? (a : Alphabet) (text : String) : Option Bytes :=
  let symbols := text.toList
  let body := (symbols.reverse.dropWhile (· = '=')).reverse
  let padding := symbols.length - body.length
  if symbols.length % 4 = 0 ∧ padding ≤ 2 then (decode a (String.ofList body)).toOption else none

end Coffer.Bytes.Base64
