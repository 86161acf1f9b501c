import Coffer.Digest.Sha512

/-!
# Stretching a password

PBKDF2 (RFC 8018) over HMAC-SHA-512 for a result of one digest, 64 bytes. The keyed digest starts
from two states, one for the inner and one for the outer digest, that depend on the password alone;
they are computed once for all rounds.
-/

namespace Coffer.Digest.Pbkdf2

/-- The states that the two digests of a keyed digest start from, after a block of the key each. -/
structure Keyed where
  inner : Sha512.State
  outer : Sha512.State

/-- The states for a key. A key longer than a block is digested first. -/
def Keyed.ofKey (key : Bytes) : Keyed :=
  let key := if 128 < key.length then Sha512.digest key else key
  let block := key ++ List.replicate (128 - key.length) 0
  { inner := Sha512.compress Sha512.initial (block.map (· ^^^ 0x36))
    outer := Sha512.compress Sha512.initial (block.map (· ^^^ 0x5c)) }

/-- The keyed digest of a message. -/
def Keyed.mac (k : Keyed) (message : Bytes) : Bytes :=
  Sha512.finish k.outer 128 (Sha512.finish k.inner 128 message)

/-- `count` further rounds after the round that gave `last`, all rounds so far summing to `sum`. -/
def Keyed.further (k : Keyed) : (count : Nat) → (last sum : Bytes) → Bytes
  | 0, _, sum => sum
  | count + 1, last, sum =>
    let next := k.mac last
    k.further count next (List.zipWith (· ^^^ ·) sum next)

/-- **The 64 bytes that a password is stretched to.** -/
def derive (password salt : Bytes) (iterations : Nat) : Bytes :=
  let k := Keyed.ofKey password
  let first := k.mac (salt ++ [0, 0, 0, 1])
  k.further (iterations - 1) first first

end Coffer.Digest.Pbkdf2
