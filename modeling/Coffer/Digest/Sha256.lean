import Coffer.Bytes

/-!
# SHA-256

The digest of FIPS 180-4 with words of 32 bits. A message is filled up to whole blocks of 64 bytes
with the byte 80, zeros and its length in bits, and the blocks are absorbed one after the other into
a state of eight words.
-/

namespace Coffer.Digest.Sha256

/-- The eight words that a digest is accumulated in. -/
structure State where
  a : UInt32
  b : UInt32
  c : UInt32
  d : UInt32
  e : UInt32
  f : UInt32
  g : UInt32
  h : UInt32
  deriving Repr, DecidableEq

/-- The state before the first block: the square roots of the first eight primes. -/
def initial : State :=
  ⟨0x6a09e667, 0xbb67ae85, 0x3c6ef372, 0xa54ff53a, 0x510e527f, 0x9b05688c, 0x1f83d9ab, 0x5be0cd19⟩

/-- The constants of the rounds: the cube roots of the first 64 primes. -/
def constants : Array UInt32 :=
  #[
    0x428a2f98, 0x71374491, 0xb5c0fbcf, 0xe9b5dba5, 0x3956c25b, 0x59f111f1, 0x923f82a4,
    0xab1c5ed5, 0xd807aa98, 0x12835b01, 0x243185be, 0x550c7dc3, 0x72be5d74, 0x80deb1fe,
    0x9bdc06a7, 0xc19bf174, 0xe49b69c1, 0xefbe4786, 0x0fc19dc6, 0x240ca1cc, 0x2de92c6f,
    0x4a7484aa, 0x5cb0a9dc, 0x76f988da, 0x983e5152, 0xa831c66d, 0xb00327c8, 0xbf597fc7,
    0xc6e00bf3, 0xd5a79147, 0x06ca6351, 0x14292967, 0x27b70a85, 0x2e1b2138, 0x4d2c6dfc,
    0x53380d13, 0x650a7354, 0x766a0abb, 0x81c2c92e, 0x92722c85, 0xa2bfe8a1, 0xa81a664b,
    0xc24b8b70, 0xc76c51a3, 0xd192e819, 0xd6990624, 0xf40e3585, 0x106aa070, 0x19a4c116,
    0x1e376c08, 0x2748774c, 0x34b0bcb5, 0x391c0cb3, 0x4ed8aa4a, 0x5b9cca4f, 0x682e6ff3,
    0x748f82ee, 0x78a5636f, 0x84c87814, 0x8cc70208, 0x90befffa, 0xa4506ceb, 0xbef9a3f7, 0xc67178f2
  ]

/-- The word turned right by `n` places. -/
def rotate (x n : UInt32) : UInt32 := (x >>> n) ||| (x <<< (32 - n))

/-- The word that four bytes spell, the high byte first. -/
def word (w x y z : UInt8) : UInt32 :=
  (w.toUInt32 <<< 24) ||| (x.toUInt32 <<< 16) ||| (y.toUInt32 <<< 8) ||| z.toUInt32

/-- The words of a byte string. -/
def words : Bytes → List UInt32
  | w :: x :: y :: z :: rest => word w x y z :: words rest
  | _ => []

/-- The bytes of a word, the high byte first. -/
def bytesOf (x : UInt32) : Bytes :=
  [(x >>> 24).toUInt8, (x >>> 16).toUInt8, (x >>> 8).toUInt8, x.toUInt8]

/-- The 64 words that a block is spread to: each new word mixes four of the sixteen before it. -/
def schedule (block : Bytes) : Array UInt32 :=
  (List.range 48).foldl
    (fun ws t =>
      let x := ws.getD (t + 1) 0
      let y := ws.getD (t + 14) 0
      let mixed := rotate x 7 ^^^ rotate x 18 ^^^ (x >>> 3)
      let mixed' := rotate y 17 ^^^ rotate y 19 ^^^ (y >>> 10)
      ws.push (ws.getD t 0 + mixed + ws.getD (t + 9) 0 + mixed'))
    (words block).toArray

/-- One round with its constant and its word. -/
def round (s : State) (k w : UInt32) : State :=
  let turned := rotate s.e 6 ^^^ rotate s.e 11 ^^^ rotate s.e 25
  let choice := (s.e &&& s.f) ^^^ (~~~s.e &&& s.g)
  let first := s.h + turned + choice + k + w
  let turned' := rotate s.a 2 ^^^ rotate s.a 13 ^^^ rotate s.a 22
  let majority := (s.a &&& s.b) ^^^ (s.a &&& s.c) ^^^ (s.b &&& s.c)
  { a := first + (turned' + majority), b := s.a, c := s.b, d := s.c
    e := s.d + first, f := s.e, g := s.f, h := s.g }

/-- The state after a block of 64 bytes. -/
def compress (s : State) (block : Bytes) : State :=
  let ws := schedule block
  let t := (List.range 64).foldl (fun t i => round t (constants.getD i 0) (ws.getD i 0)) s
  ⟨s.a + t.a, s.b + t.b, s.c + t.c, s.d + t.d, s.e + t.e, s.f + t.f, s.g + t.g, s.h + t.h⟩

/-- The state after the first `count` blocks of a byte string. -/
def absorb : (count : Nat) → State → Bytes → State
  | 0, s, _ => s
  | count + 1, s, b => absorb count (compress s (b.take 64)) (b.drop 64)

/-- A message filled up to whole blocks. -/
def filled (message : Bytes) : Bytes :=
  let length := message.length
  message ++ 0x80 :: List.replicate ((119 - length % 64) % 64) 0
    ++ (Bytes.ofNat 8 (8 * length)).reverse

/-- **The digest of a message.** -/
def digest (message : Bytes) : Bytes :=
  let b := filled message
  let s := absorb (b.length / 64) initial b
  [s.a, s.b, s.c, s.d, s.e, s.f, s.g, s.h].flatMap bytesOf

end Coffer.Digest.Sha256
