/-!
# Bands of code points

Properties of characters are tables of a few hundred bands. A band runs from a first to a last code
point in steps, because letters often alternate: every second one is a capital.

A table is searched from the front; the rows are ascending, so the order carries no meaning, only
the reader's convenience.
-/

namespace Coffer.Text

/-- The code points `first`, `first + step`, … up to `last`. -/
structure Band where
  first : Nat
  last : Nat
  step : Nat
  deriving Repr, DecidableEq

namespace Band

/-- Is `n` one of the band's code points? -/
def has (b : Band) (n : Nat) : Bool :=
  b.first ≤ n && n ≤ b.last && (n - b.first) % b.step == 0

/-- The number of code points in the band. -/
def size (b : Band) : Nat := (b.last - b.first) / b.step + 1

/-- The code points of the band, ascending. -/
def members (b : Band) : List Nat := (List.range b.size).map fun i => b.first + i * b.step

end Band

/-- Is the character in one of the bands? -/
def inBands (table : List Band) (c : Char) : Bool := table.any fun b => b.has c.toNat

/-- The number of code points in a table of disjoint bands. -/
def bandCount (table : List Band) : Nat := table.foldl (fun n band => n + band.size) 0

end Coffer.Text
