import Coffer.Bytes

/-!
# Blocks of sixteen bytes

The unit that the block cipher works on: four columns of four bytes, the bytes of a column in a row.
A byte string is cut into blocks from the front; what does not fill a block is left out.
-/

namespace Coffer.Cipher

/-- Four bytes. -/
structure Column where
  a : UInt8
  b : UInt8
  c : UInt8
  d : UInt8
  deriving Repr, DecidableEq, Inhabited

/-- Four columns. -/
structure Block where
  p : Column
  q : Column
  r : Column
  s : Column
  deriving Repr, DecidableEq, Inhabited

namespace Column

/-- The sum without carry. -/
def xor (x y : Column) : Column := ⟨x.a ^^^ y.a, x.b ^^^ y.b, x.c ^^^ y.c, x.d ^^^ y.d⟩

/-- The bytes, each mapped. -/
def map (f : UInt8 → UInt8) (x : Column) : Column := ⟨f x.a, f x.b, f x.c, f x.d⟩

/-- The bytes in order. -/
def toBytes (x : Column) : Bytes := [x.a, x.b, x.c, x.d]

end Column

namespace Block

/-- The sum without carry. -/
def xor (x y : Block) : Block := ⟨x.p.xor y.p, x.q.xor y.q, x.r.xor y.r, x.s.xor y.s⟩

/-- The bytes, each mapped. -/
def map (f : UInt8 → UInt8) (x : Block) : Block := ⟨x.p.map f, x.q.map f, x.r.map f, x.s.map f⟩

/-- The columns, each mapped. -/
def mapColumns (f : Column → Column) (x : Block) : Block := ⟨f x.p, f x.q, f x.r, f x.s⟩

/-- The bytes in order. -/
def toBytes (x : Block) : Bytes := x.p.toBytes ++ x.q.toBytes ++ x.r.toBytes ++ x.s.toBytes

/-- The whole blocks of a byte string. -/
def split : Bytes → List Block
  | a :: b :: c :: d :: e :: f :: g :: h :: i :: j :: k :: l :: m :: n :: o :: p :: rest =>
    ⟨⟨a, b, c, d⟩, ⟨e, f, g, h⟩, ⟨i, j, k, l⟩, ⟨m, n, o, p⟩⟩ :: split rest
  | _ => []

/-- The bytes of a list of blocks. -/
def join (xs : List Block) : Bytes := xs.flatMap toBytes

@[simp]
theorem length_toBytes (x : Block) : x.toBytes.length = 16 := rfl

/-- Blocks that are joined are split the same way. -/
theorem split_join (xs : List Block) : split (join xs) = xs := by
  induction xs with
  | nil => rfl
  | cons x rest ih =>
    have h : split (join (x :: rest)) = x :: split (join rest) := rfl
    rw [h, ih]

end Block

end Coffer.Cipher
