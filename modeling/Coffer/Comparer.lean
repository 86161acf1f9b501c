import Coffer.Text.Lowercase
import Coffer.Text.Uppercase

/-!
# Comparing keys

Within one store keys are compared as they are or without regard to case. Comparing without regard
to case means comparing normal forms: a key that has an uppercase character is lowercased, and any
other is its own normal form.

A start is cut off a key by its length in UTF-8 bytes, not by its length in characters: the head of
the key that is as long as the start is compared with it. So a start whose normal form is shorter or
longer than itself is matched by its own spellings only.
-/

namespace Coffer

/-- How the keys of a store are compared. -/
inductive Comparer where
  | ordinal
  | ignoreCase
  deriving Repr, DecidableEq, Inhabited

namespace Comparer

/-- The comparer that ignores case or not. -/
def ofIgnoreCase (ignoreCase : Bool) : Comparer := if ignoreCase then .ignoreCase else .ordinal

/-- The name of the comparer. -/
def name : Comparer → String
  | .ordinal => "Ordinal"
  | .ignoreCase => "IgnoreCase"

/-- The form under which a key is kept and compared. -/
def normalize : Comparer → String → String
  | .ordinal, key => key
  | .ignoreCase, key => if key.toList.any Text.isUppercase then Text.lowercase key else key

/-- The text cut in two after `n` UTF-8 bytes, if a character ends there. -/
def cutAt : (n : Nat) → List Char → Option (List Char × List Char)
  | n, [] => if n = 0 then some ([], []) else none
  | n, c :: rest =>
    if n = 0 then some ([], c :: rest)
    else if c.utf8Size ≤ n then
      (cutAt (n - c.utf8Size) rest).map fun (head, tail) => (c :: head, tail)
    else none

/-- What follows `start` in a key, if the key starts with it under the comparer. -/
def after? (c : Comparer) (start key : String) : Option String :=
  match c with
  | .ordinal => (start.toList.isPrefixOf? key.toList).map String.ofList
  | .ignoreCase => do
    let (head, tail) ← cutAt start.utf8ByteSize key.toList
    if c.normalize (String.ofList head) = c.normalize start then some (String.ofList tail) else none

end Comparer

end Coffer
