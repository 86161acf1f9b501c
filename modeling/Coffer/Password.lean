import Coffer.Digest.Pbkdf2
import Coffer.Error
import Coffer.Text.Split

/-!
# Password hashes

A hash is written as `salt|iterations|digest`, salt and digest in padded Base64. A password verifies
against a text of that form when stretching it with the text's salt and count gives the text's
digest; against any other text nothing verifies.
-/

namespace Coffer.Password

/-- The count of iterations when none is asked for. -/
def defaultIterations : Nat := 991

/-- The bytes of a digest. -/
def digestSize : Nat := 64

/-- The hash of a password under a salt. -/
def hash (password : String) (salt : Bytes) (iterations : Nat) : Except Error String :=
  if iterations = 0 then .error (.invalidArgument .zeroIterations)
  else
    let digest := Digest.Pbkdf2.derive (Text.Utf8.encode password) salt iterations
    .ok (Bytes.Base64.encodePadded .standard salt ++ "|" ++ toString iterations ++ "|"
      ++ Bytes.Base64.encodePadded .standard digest)

/-- The number that decimal digits spell, at least one of them. -/
def digits? (cs : List Char) : Option Nat :=
  if cs ≠ [] ∧ cs.all Char.isDigit then
    some (cs.foldl (fun n c => 10 * n + (c.toNat - 0x30)) 0)
  else none

/-- The number below 2^32 that a text spells: digits, perhaps after a plus sign. -/
def number? (text : String) : Option Nat :=
  let digits := match text.toList with
    | '+' :: rest => rest
    | cs => cs
  match digits? digits with
  | some n => if n < Bytes.bound 4 then some n else none
  | none => none

/-- Are two byte strings equal? Every byte is looked at, whatever the earlier ones are. -/
def sameBytes (x y : Bytes) : Bool :=
  x.length == y.length && (List.zipWith (· ^^^ ·) x y).foldl (· ||| ·) 0 == 0

/-- **Does the password verify against the hash?** -/
def verify (password hash : String) : Bool :=
  match Text.splitOn '|' hash with
  | [salt, iterations, digest] =>
    match Bytes.Base64.decodePadded? .standard salt, number? iterations,
      Bytes.Base64.decodePadded? .standard digest with
    | some salt, some iterations, some digest =>
      iterations ≠ 0 && digest.length = digestSize
        && sameBytes (Digest.Pbkdf2.derive (Text.Utf8.encode password) salt iterations) digest
    | _, _, _ => false
  | _ => false

end Coffer.Password
