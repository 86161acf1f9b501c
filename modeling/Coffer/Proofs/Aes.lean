import Coffer.Cipher.Aes

/-!
# Deciphering undoes enciphering

Deciphering under the same round keys takes a block back to what it was, whatever the round keys
are. Each step of a round is undone by its counterpart: the two tables list each other's places, the
rows turn back, and a key that is added twice cancels out.

Mixing the columns takes an argument. Multiplication by x is additive (`double_xor`), so a mixed
column and its inverse are sums of multiples of four bytes, and all but one cancel out. Both
matrices commute with turning the column, so one byte stands for all four.
-/

namespace Coffer.Cipher

/-! ## Sums -/

theorem xor_xor_cancel_left (x y : UInt8) : x ^^^ (x ^^^ y) = y := by
  rw [← UInt8.xor_assoc, UInt8.xor_self, UInt8.zero_xor]

theorem xor_left_comm (x y z : UInt8) : x ^^^ (y ^^^ z) = y ^^^ (x ^^^ z) := by
  rw [← UInt8.xor_assoc, UInt8.xor_comm x y, UInt8.xor_assoc]

theorem Column.xor_cancel (x k : Column) : (x.xor k).xor k = x := by
  simp only [Column.xor, UInt8.xor_assoc, UInt8.xor_self, UInt8.xor_zero]

/-- Adding a block twice changes nothing. -/
theorem Block.xor_cancel (x k : Block) : (x.xor k).xor k = x := by
  simp only [Block.xor, Column.xor_cancel]

namespace Aes

/-! ## The tables -/

theorem restore_substitute (x : UInt8) : restore (substitute x) = x := by
  have h : ∀ n < 256, restore (substitute (UInt8.ofNat n)) = UInt8.ofNat n := by decide +kernel
  rw [← UInt8.ofNat_toNat (x := x)]
  exact h x.toNat x.toNat_lt

theorem map_restore_map_substitute (x : Block) : (x.map substitute).map restore = x := by
  simp only [Block.map, Column.map, restore_substitute]

/-! ## The columns -/

theorem lt_iff_msb (x : UInt8) : x < 0x80 ↔ x.toBitVec.msb = false := by
  rw [BitVec.msb_eq_false_iff_two_mul_lt, UInt8.lt_iff_toNat_lt]
  show x.toNat < 128 ↔ 2 * x.toNat < 256
  omega

/-- Multiplication by x is additive. -/
theorem double_xor (x y : UInt8) : double (x ^^^ y) = double x ^^^ double y := by
  have hmsb : (x ^^^ y).toBitVec.msb = (x.toBitVec.msb ^^ y.toBitVec.msb) := BitVec.msb_xor
  simp only [double, lt_iff_msb, hmsb, UInt8.shiftLeft_xor]
  -- the overflow of the sum is the sum of the overflows
  cases x.toBitVec.msb <;> cases y.toBitVec.msb <;>
    simp [UInt8.xor_assoc, UInt8.xor_comm, xor_left_comm]

/-- The sum of the bytes of a column. -/
def sum (x : Column) : UInt8 := x.a ^^^ x.b ^^^ x.c ^^^ x.d

/-- The column with its bytes turned by one place. -/
def turned (x : Column) : Column := ⟨x.b, x.c, x.d, x.a⟩

theorem mixColumn_turned (x : Column) : mixColumn (turned x) = turned (mixColumn x) := by
  simp only [mixColumn, turned, UInt8.xor_assoc, UInt8.xor_comm, xor_left_comm]

theorem unmixColumn_turned (x : Column) : unmixColumn (turned x) = turned (unmixColumn x) := by
  simp only [unmixColumn, ← mixColumn_turned]
  simp only [turned, UInt8.xor_comm]

theorem sum_mixColumn (x : Column) : sum (mixColumn x) = sum x := by
  simp only [sum, mixColumn, double_xor, UInt8.xor_assoc, UInt8.xor_comm, xor_left_comm,
    xor_xor_cancel_left, UInt8.xor_self, UInt8.xor_zero]

theorem first_unmixColumn (y : Column) :
    (unmixColumn y).a = y.a ^^^ sum y ^^^ double (y.a ^^^ y.b)
      ^^^ double (double (y.a ^^^ y.c)) ^^^ double (double (double (sum y))) := by
  simp only [unmixColumn, mixColumn, sum, double_xor, UInt8.xor_assoc, UInt8.xor_comm,
    xor_left_comm, xor_xor_cancel_left, UInt8.xor_self, UInt8.xor_zero]

/-- The first byte of a column comes back. -/
theorem first_unmixColumn_mixColumn (x : Column) : (unmixColumn (mixColumn x)).a = x.a := by
  have hfirst : (mixColumn x).a = x.a ^^^ sum x ^^^ double (x.a ^^^ x.b) := rfl
  have hsecond : (mixColumn x).a ^^^ (mixColumn x).b
      = x.a ^^^ x.b ^^^ double (x.a ^^^ x.c) := by
    simp only [mixColumn, double_xor, UInt8.xor_assoc, UInt8.xor_comm, xor_left_comm,
      xor_xor_cancel_left]
  have hthird : (mixColumn x).a ^^^ (mixColumn x).c = x.a ^^^ x.c ^^^ double (sum x) := by
    simp only [mixColumn, sum, double_xor, UInt8.xor_assoc, UInt8.xor_comm, xor_left_comm,
      xor_xor_cancel_left]
  rw [first_unmixColumn, sum_mixColumn, hsecond, hthird, hfirst, double_xor (x.a ^^^ x.b),
    double_xor (x.a ^^^ x.c), double_xor (double (x.a ^^^ x.c))]
  generalize double (x.a ^^^ x.b) = p
  generalize double (double (x.a ^^^ x.c)) = q
  generalize double (double (double (sum x))) = r
  simp only [UInt8.xor_comm, xor_left_comm, xor_xor_cancel_left, UInt8.xor_self,
    UInt8.xor_zero]

/-- A mixed column comes back: each of its bytes is the first one after some turns. -/
theorem unmixColumn_mixColumn (x : Column) : unmixColumn (mixColumn x) = x := by
  have hb := first_unmixColumn_mixColumn (turned x)
  have hc := first_unmixColumn_mixColumn (turned (turned x))
  have hd := first_unmixColumn_mixColumn (turned (turned (turned x)))
  simp only [mixColumn_turned, unmixColumn_turned] at hb hc hd
  have ha := first_unmixColumn_mixColumn x
  generalize unmixColumn (mixColumn x) = y at ha hb hc hd
  obtain ⟨a, b, c, d⟩ := x
  obtain ⟨a', b', c', d'⟩ := y
  simp only [turned] at ha hb hc hd
  rw [ha, hb, hc, hd]

/-! ## The rounds -/

theorem mapColumns_unmix_mix (x : Block) :
    (x.mapColumns mixColumn).mapColumns unmixColumn = x := by
  simp only [Block.mapColumns, unmixColumn_mixColumn]

theorem decipherRounds_encipherRounds : ∀ (keys : List Block) (x : Block),
    decipherRounds keys (encipherRounds keys x) = x
  | [], _ => rfl
  | [k], x => by
    show (unshiftRows (((shiftRows (x.map substitute)).xor k).xor k)).map restore = x
    rw [Block.xor_cancel, unshiftRows_shiftRows, map_restore_map_substitute]
  | k :: l :: ks, x => by
    show (unshiftRows (((decipherRounds (l :: ks) (encipherRounds (l :: ks)
      (((shiftRows (x.map substitute)).mapColumns mixColumn).xor k))).xor k).mapColumns
        unmixColumn)).map restore = x
    rw [decipherRounds_encipherRounds (l :: ks), Block.xor_cancel, mapColumns_unmix_mix,
      unshiftRows_shiftRows, map_restore_map_substitute]

/-- **Deciphering undoes enciphering**, under any round keys. -/
theorem decipher_encipher (keys : List Block) (x : Block) :
    decipher keys (encipher keys x) = x := by
  cases keys with
  | nil => rfl
  | cons k ks =>
    show (decipherRounds ks (encipherRounds ks (x.xor k))).xor k = x
    rw [decipherRounds_encipherRounds, Block.xor_cancel]

end Aes

end Coffer.Cipher
