import Coffer.Buffer.Pool
import Coffer.Error

/-!
# Buffers

A buffer is rented storage with a cursor: the cells before the cursor are what was written, the
cells after it are room. Whoever fills the room advances the cursor over what counts.

A buffer that runs out of room moves into a larger storage and gives its old one back, taking only
what was written along. Releasing a buffer gives its storage back and leaves it empty; writing to it
again rents anew.
-/

namespace Coffer

variable {α : Type} [Inhabited α]

/-- Rented storage, if there is any, and how many of its cells are written. -/
structure Buffer (α : Type) where
  storage : Option (Storage α)
  length : Nat

namespace Buffer

/-- A buffer with room for at least `n` elements. -/
def rent (p : Pool α) (n : Nat) : Buffer α × Pool α :=
  let (s, p) := p.take n
  ({ storage := some s, length := 0 }, p)

/-- How many elements the storage holds. -/
def capacity (b : Buffer α) : Nat := (b.storage.map (·.size)).getD 0

/-- How many elements fit after the cursor. -/
def room (b : Buffer α) : Nat := b.capacity - b.length

/-- What was written. -/
def written (b : Buffer α) : List α :=
  match b.storage with
  | some s => s.read 0 b.length
  | none => []

/-- The first cells after the cursor, at most `count` of them. -/
def ahead (b : Buffer α) (count : Nat) : List α :=
  match b.storage with
  | some s => s.read b.length count
  | none => []

/-- Larger storage with the written part copied over; the old storage goes back. -/
def grow (b : Buffer α) (p : Pool α) (least : Nat) : Buffer α × Pool α :=
  let (next, p) := p.take (max least (2 * b.capacity))
  match b.storage with
  | some old => ({ b with storage := some (next.write 0 (old.read 0 b.length)) }, p.giveBack old)
  | none => ({ b with storage := some next }, p)

/-- The buffer with room for at least `n` more elements. -/
def reserve (b : Buffer α) (p : Pool α) (n : Nat) : Buffer α × Pool α :=
  if b.room < n then b.grow p (b.length + n) else (b, p)

/-- The buffer after a request for room for `n` more elements, where `n` and the capacity that it
takes are numbers of 64 bits. What is asked for beyond them comes round to a small capacity and is
not met. -/
def request (b : Buffer α) (p : Pool α) (n : UInt64) : Buffer α × Pool α :=
  if b.room < n.toNat then b.grow p (UInt64.ofNat b.length + n).toNat else (b, p)

/-- Fills the cells after the cursor, as far as they go, and leaves the cursor where it is. -/
def fillAhead (b : Buffer α) (data : List α) : Buffer α :=
  { b with storage := b.storage.map fun s => s.write b.length data }

/-- Moves the cursor over `n` filled cells. -/
def advance (b : Buffer α) (n : Nat) : Except Error (Buffer α) :=
  if n ≤ b.room then .ok { b with length := b.length + n }
  else .error (.outOfRange n b.room)

/-- Takes the last `n` elements back. -/
def rewind (b : Buffer α) (n : Nat) : Except Error (Buffer α) :=
  if n ≤ b.length then .ok { b with length := b.length - n }
  else .error (.outOfRange n b.length)

/-- Forgets what was written; the storage stays. -/
def reset (b : Buffer α) : Buffer α := { b with length := 0 }

/-- Sets every written element to `x`. -/
def fillWritten (b : Buffer α) (x : α) : Buffer α :=
  { b with storage := b.storage.map fun s => s.write 0 (List.replicate b.length x) }

/-- Appends a list, moving into larger storage where needed. -/
def append (b : Buffer α) (p : Pool α) (data : List α) : Buffer α × Pool α :=
  let (b, p) := b.reserve p data.length
  let b := b.fillAhead data
  ({ b with length := b.length + data.length }, p)

/-- Gives the storage back. A second release changes nothing. -/
def release (b : Buffer α) (p : Pool α) : Buffer α × Pool α :=
  match b.storage with
  | some s => ({ storage := none, length := 0 }, p.giveBack s)
  | none => ({ storage := none, length := 0 }, p)

end Buffer

end Coffer
