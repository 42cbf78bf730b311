import Mathlib.Tactic.Linarith

/-! # Two's complement integers as mathematical integers

`signed w` and `unsigned w` are the conversions of an integer onto the `w`-bit
signed and unsigned ranges; a fixed-width operation is the exact operation
followed by one of them.  Division truncates toward zero (`Int.tdiv`). -/
set_option autoImplicit false

namespace FixedWidth

def signed (w : Nat) (x : Int) : Int := (x + 2 ^ (w - 1)) % 2 ^ w - 2 ^ (w - 1)

def unsigned (w : Nat) (x : Int) : Int := x % 2 ^ w

theorem signed_64 (x : Int) :
    signed 64 x = (x + 9223372036854775808) % 18446744073709551616 - 9223372036854775808 := rfl

theorem unsigned_32 (x : Int) : unsigned 32 x = x % 4294967296 := rfl

theorem unsigned_64 (x : Int) : unsigned 64 x = x % 18446744073709551616 := rfl

theorem signed_64_of_range {x : Int} (low : -9223372036854775808 ≤ x)
    (high : x < 9223372036854775808) : signed 64 x = x := by
  rw [signed_64]
  omega

theorem signed_32_of_range {x : Int} (low : -2147483648 ≤ x) (high : x < 2147483648) :
    signed 32 x = x := by
  have unfolded : signed 32 x = (x + 2147483648) % 4294967296 - 2147483648 := rfl
  omega

theorem signed_64_low (x : Int) : -9223372036854775808 ≤ signed 64 x := by
  rw [signed_64]
  omega

theorem signed_64_high (x : Int) : signed 64 x < 9223372036854775808 := by
  rw [signed_64]
  omega

/-- The representative of a sum, difference or product depends on the representatives of
the operands only. -/
theorem signed_64_sub_signed_64 (x y : Int) :
    signed 64 (signed 64 x - signed 64 y) = signed 64 (x - y) := by
  simp only [signed_64]
  omega

theorem signed_64_sub_left (x y : Int) : signed 64 (signed 64 x - y) = signed 64 (x - y) := by
  simp only [signed_64]
  omega

theorem signed_64_add_signed_64 (x y : Int) :
    signed 64 (signed 64 x + signed 64 y) = signed 64 (x + y) := by
  simp only [signed_64]
  omega

theorem signed_64_signed_64 (x : Int) : signed 64 (signed 64 x) = signed 64 x := by
  simp only [signed_64]
  omega

theorem exists_signed_64 (x : Int) :
    ∃ k : Int, signed 64 x = x - 18446744073709551616 * k ∧
      -9223372036854775808 ≤ signed 64 x ∧ signed 64 x < 9223372036854775808 := by
  refine ⟨(x + 9223372036854775808) / 18446744073709551616, ?_, ?_, ?_⟩ <;>
    rw [signed_64] <;> omega

theorem signed_64_sub_mul (x k : Int) :
    signed 64 (x - 18446744073709551616 * k) = signed 64 x := by
  simp only [signed_64]
  omega

theorem unsigned_32_of_range {x : Int} (low : 0 ≤ x) (high : x < 4294967296) :
    unsigned 32 x = x := by
  rw [unsigned_32]
  omega

theorem unsigned_64_of_range {x : Int} (low : 0 ≤ x) (high : x < 18446744073709551616) :
    unsigned 64 x = x := by
  rw [unsigned_64]
  omega

theorem unsigned_32_nonneg (x : Int) : 0 ≤ unsigned 32 x := by
  rw [unsigned_32]
  omega

theorem unsigned_32_lt (x : Int) : unsigned 32 x < 4294967296 := by
  rw [unsigned_32]
  omega

theorem tdiv_of_nonpos {a b : Int} (nonpos : a ≤ 0) : a.tdiv b = -(-a / b) := by
  have reflected : a.tdiv b = -((-a).tdiv b) := by rw [Int.neg_tdiv, Int.neg_neg]
  rw [reflected, Int.tdiv_eq_ediv_of_nonneg (by omega)]

theorem tdiv_range {a : Int} {b : Nat} (low : -9223372036854775808 ≤ a)
    (high : a < 9223372036854775808) :
    -9223372036854775808 ≤ a.tdiv b ∧ a.tdiv b < 9223372036854775808 := by
  have shrinks : (a.tdiv b).natAbs ≤ a.natAbs := Int.natAbs_tdiv_le_natAbs a b
  rcases lt_or_ge a 0 with negative | nonneg
  · have reflected := tdiv_of_nonpos (b := b) negative.le
    have quotient := Int.ediv_nonneg (by omega : 0 ≤ -a) (Int.natCast_nonneg b)
    omega
  · have quotient := Int.tdiv_nonneg nonneg (Int.natCast_nonneg b)
    omega

end FixedWidth
