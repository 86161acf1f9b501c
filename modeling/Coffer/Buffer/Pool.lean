import Coffer.Buffer.Storage

/-!
# The pool of idle storage

Storage that is no longer used waits in a pool for its next user. Requests are rounded up to size
classes: class `c` holds storages of `256 · 2^c` cells, and a request takes the smallest class that
is large enough. The pool keeps at most eight storages of a class and none above 64 Mi cells; more
is dropped.

Within a class the storage that came back last goes out first.
-/

namespace Coffer

variable {α : Type} [Inhabited α]

/-- The idle storages, the one that came back last in front. -/
structure Pool (α : Type) where
  idle : List (Storage α) := []

namespace Pool

/-- The cells of the smallest class. -/
def smallest : Nat := 256

/-- Storage above this size is not kept. -/
def largestKept : Nat := 64 * 1024 * 1024

/-- How many storages of one class are kept. -/
def keptPerClass : Nat := 8

/-- The cells of a storage of class `c`. -/
def classSize (c : Nat) : Nat := smallest <<< c

/-- The class that a request for `n` cells is served from: the first that is large enough. -/
def classFor (n : Nat) : Nat :=
  if n ≤ smallest then 0 else Nat.log2 ((n - 1) / smallest) + 1

/-- The class that a storage of `n` cells returns to: the last that it can serve. -/
def classOf (n : Nat) : Nat := Nat.log2 (n / smallest)

/-- Can a storage of `n` cells serve the requests of class `c`? -/
def serves (c n : Nat) : Bool := classSize c ≤ n && n < classSize (c + 1)

/-- Storage for at least `n` cells, idle if there is some of that class and otherwise new. -/
def take (p : Pool α) (n : Nat) : Storage α × Pool α :=
  let c := classFor n
  match p.idle.find? (fun s => serves c s.size) with
  | some s => (s, { idle := p.idle.eraseP fun s => serves c s.size })
  | none => (Storage.blank (max (classSize c) n), p)

/-- The pool with a storage given back to it, or dropped if the pool does not keep it. -/
def giveBack (p : Pool α) (s : Storage α) : Pool α :=
  if s.size < smallest || largestKept < s.size then p
  else if (p.idle.filter fun t => classOf t.size = classOf s.size).length < keptPerClass then
    { idle := s :: p.idle }
  else p

end Pool

end Coffer
