/-!
# Bytes

Byte strings are lists of bytes. A number of fixed width is written with its least significant byte
first; reading and writing are inverse to each other in both directions, within the width.
-/

namespace Coffer

/-- A byte string. -/
abbrev Bytes := List UInt8

namespace Bytes

/-- The `width` low bytes of `n`, least significant first. -/
def ofNat : (width n : Nat) → Bytes
  | 0, _ => []
  | width + 1, n => UInt8.ofNat n :: ofNat width (n / 256)

/-- The number that the bytes spell, least significant first. -/
def toNat : Bytes → Nat
  | [] => 0
  | b :: rest => b.toNat + 256 * toNat rest

/-- How many numbers can be written in `width` bytes: all below this one. -/
def bound : (width : Nat) → Nat
  | 0 => 1
  | width + 1 => 256 * bound width

@[simp]
theorem length_ofNat (width n : Nat) : (ofNat width n).length = width := by
  induction width generalizing n with
  | zero => rfl
  | succ width ih => simp [ofNat, ih]

theorem toNat_lt (b : Bytes) : toNat b < bound b.length := by
  induction b with
  | nil => exact Nat.zero_lt_one
  | cons x rest ih =>
    have hx : x.toNat < 256 := x.toNat_lt
    simp only [toNat, List.length_cons, bound]
    omega

/-- A number below the width's limit is read back as written. -/
theorem toNat_ofNat (width n : Nat) (h : n < bound width) : toNat (ofNat width n) = n := by
  induction width generalizing n with
  | zero =>
    have hzero : n = 0 := Nat.lt_one_iff.mp h
    rw [hzero]
    rfl
  | succ width ih =>
    have hdiv : n / 256 < bound width := by
      rw [bound] at h
      omega
    simp only [ofNat, toNat, ih _ hdiv, UInt8.toNat_ofNat']
    omega

/-- Bytes are the written form of the number they spell. -/
theorem ofNat_toNat (b : Bytes) : ofNat b.length (toNat b) = b := by
  induction b with
  | nil => rfl
  | cons x rest ih =>
    have hx : x.toNat < 256 := x.toNat_lt
    have hdiv : (x.toNat + 256 * toNat rest) / 256 = toNat rest := by omega
    have hbyte : UInt8.ofNat (x.toNat + 256 * toNat rest) = x := by
      apply UInt8.toNat_inj.mp
      rw [UInt8.toNat_ofNat']
      omega
    simp only [toNat, List.length_cons, ofNat, hdiv, hbyte, ih]

/-! ## Signed numbers of four bytes -/

/-- The signed number whose four bytes in two's complement spell `n`. -/
def signed32 (n : Nat) : Int := if 2 * n < bound 4 then n else (n : Int) - bound 4

end Bytes

end Coffer
