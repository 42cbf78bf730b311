import CmsisCpp.Ticks
import Mathlib.Data.Nat.GCD.Basic
import Mathlib.Tactic.Ring

/-! # `std::chrono::duration` and the cast to microseconds

A duration is a signed 64-bit count of periods of `num / den` seconds.  The overloads
taking a `duration<Rep, Period>` cast it to microseconds, and the `*_until` overloads
subtract `Clock::now()` first.  `<chrono>` does this in 64-bit integers: it brings both
operands of a sum, a difference or a comparison into their common period, and every
product, sum and difference wraps modulo `2 ^ 64`. -/
set_option autoImplicit false

namespace CmsisCpp

open FixedWidth

/-! ## Periods -/

/-- `std::ratio`, in lowest terms. -/
structure Period where
  num : Nat
  den : Nat
  numPos : 0 < num
  denPos : 0 < den
  reduced : num.Coprime den

namespace Period

def micro : Period := ⟨1, 1000000, by decide, by decide, by decide⟩

/-- The period of the `std::common_type` of two durations. -/
def common (p q : Period) : Period where
  num := p.num.gcd q.num
  den := p.den.lcm q.den
  numPos := Nat.gcd_pos_of_pos_left _ p.numPos
  denPos := Nat.lcm_pos p.denPos q.denPos
  reduced := by
    have first := p.reduced.coprime_dvd_left (Nat.gcd_dvd_left p.num q.num)
    have second := q.reduced.coprime_dvd_left (Nat.gcd_dvd_right p.num q.num)
    exact (first.mul_right second).coprime_dvd_right (Nat.lcm_dvd_mul ..)

/-- `std::ratio_divide<p, q>` is `factor p q / divisor p q`, in lowest terms. -/
def factor (p q : Period) : Nat := p.num * q.den / (p.num * q.den).gcd (p.den * q.num)

def divisor (p q : Period) : Nat := p.den * q.num / (p.num * q.den).gcd (p.den * q.num)

theorem divisor_pos (p q : Period) : 0 < p.divisor q := by
  have positive := Nat.mul_pos p.denPos q.numPos
  exact Nat.div_pos (Nat.gcd_le_right _ positive) (Nat.gcd_pos_of_pos_right _ positive)

theorem factor_pos (p q : Period) : 0 < p.factor q := by
  have positive := Nat.mul_pos p.numPos q.denPos
  exact Nat.div_pos (Nat.gcd_le_left _ positive) (Nat.gcd_pos_of_pos_left _ positive)

theorem factor_mul (p q : Period) :
    p.factor q * (p.den * q.num) = p.num * q.den * p.divisor q := by
  rw [factor, divisor, Nat.div_mul_right_comm (Nat.gcd_dvd_left ..),
    Nat.mul_div_assoc _ (Nat.gcd_dvd_right ..)]

theorem divisor_of_dvd {p q : Period} (multiple : p.den * q.num ∣ p.num * q.den) :
    p.divisor q = 1 := by
  rw [divisor, Nat.gcd_eq_right multiple]
  exact Nat.div_self (Nat.mul_pos p.denPos q.numPos)

theorem divisor_common_left (p q : Period) : p.divisor (p.common q) = 1 := by
  apply divisor_of_dvd
  rw [mul_comm p.num]
  exact Nat.mul_dvd_mul (Nat.dvd_lcm_left ..) (Nat.gcd_dvd_left ..)

theorem common_comm (p q : Period) : p.common q = q.common p := by
  simp only [common, Nat.gcd_comm, Nat.lcm_comm]

theorem common_common (p q : Period) : (p.common q).common p = p.common q := by
  have num : (p.num.gcd q.num).gcd p.num = p.num.gcd q.num :=
    Nat.gcd_eq_left (Nat.gcd_dvd_left ..)
  have den : (p.den.lcm q.den).lcm p.den = p.den.lcm q.den := by
    rw [Nat.lcm_comm]
    exact Nat.lcm_eq_right (Nat.dvd_lcm_left ..)
  simp only [common, num, den]

theorem divisor_common_right (p q : Period) : q.divisor (p.common q) = 1 := by
  rw [common_comm]
  exact divisor_common_left q p

theorem factor_self (p : Period) : p.factor p = 1 := by
  rw [factor, mul_comm p.den, Nat.gcd_self]
  exact Nat.div_self (Nat.mul_pos p.numPos p.denPos)

theorem divisor_self (p : Period) : p.divisor p = 1 :=
  divisor_of_dvd (Nat.mul_comm p.num p.den ▸ dvd_refl _)

/-- Microseconds and the common period with microseconds are reached by one product. -/
theorem factor_common_micro (p : Period) : p.factor (p.common micro) = p.factor micro := by
  have scaled : (p.num * 1000000).gcd p.den = Nat.gcd 1000000 p.den :=
    Nat.Coprime.gcd_mul_left_cancel _ p.reduced
  have multiple : p.den ∣ p.num * p.den.lcm 1000000 :=
    Dvd.dvd.mul_left (Nat.dvd_lcm_left ..) _
  simp only [factor, common, micro, Nat.gcd_one_right, Nat.mul_one, Nat.gcd_eq_right multiple,
    scaled]
  rw [Nat.lcm_eq_mul_div, Nat.gcd_comm p.den, Nat.mul_div_assoc _ (Nat.gcd_dvd_left ..),
    Nat.mul_left_comm, Nat.mul_div_cancel_left _ p.denPos,
    Nat.mul_div_assoc _ (Nat.gcd_dvd_left ..)]

end Period

/-! ## Durations -/

/-- `std::chrono::duration`, with a 64-bit count. -/
structure Duration extends Period where
  count : Int
  low : -9223372036854775808 ≤ count
  high : count < 9223372036854775808

namespace Duration

/-- The duration whose count is the 64-bit representative of `count`. -/
def wrapped (count : Int) (p : Period) : Duration where
  toPeriod := p
  count := signed 64 count
  low := signed_64_low count
  high := signed_64_high count

@[simp] theorem wrapped_count (count : Int) (p : Period) :
    (wrapped count p).count = signed 64 count := rfl

theorem wrapped_congr {first second : Int} (same : signed 64 first = signed 64 second)
    (p : Period) : wrapped first p = wrapped second p := by
  simp only [wrapped, same]

def microseconds (count : Int) : Duration := wrapped count .micro

/-- `std::chrono::duration_cast`. -/
def castTo (d : Duration) (p : Period) : Duration where
  toPeriod := p
  count := (signed 64 (d.count * d.factor p)).tdiv (d.divisor p)
  low := (tdiv_range (signed_64_low _) (signed_64_high _)).1
  high := (tdiv_range (signed_64_low _) (signed_64_high _)).2

/-- `duration_cast<microseconds>(d).count()`; where only an implicit conversion to
microseconds is asked for, the periods that need no division are accepted. -/
def toUsec (d : Duration) : Int := (d.castTo .micro).count

def add (left right : Duration) : Duration :=
  let p := left.common right.toPeriod
  wrapped ((left.castTo p).count + (right.castTo p).count) p

def sub (left right : Duration) : Duration :=
  let p := left.common right.toPeriod
  wrapped ((left.castTo p).count - (right.castTo p).count) p

/-- `rel_time < std::chrono::microseconds::zero()`, compared in the common period. -/
def isNegative (d : Duration) : Prop := (d.castTo (d.common .micro)).count < 0

instance (d : Duration) : Decidable d.isNegative := inferInstanceAs (Decidable (_ < _))

section Lemmas
variable (d : Duration) (p : Period)

theorem castTo_count :
    (d.castTo p).count = (signed 64 (d.count * d.factor p)).tdiv (d.divisor p) := rfl

theorem castTo_count_common_left (other : Duration) :
    (d.castTo (d.common other.toPeriod)).count =
      signed 64 (d.count * d.factor (d.common other.toPeriod)) := by
  rw [castTo_count, Period.divisor_common_left, Nat.cast_one, Int.tdiv_one]

theorem castTo_count_common_right (other : Duration) :
    (d.castTo (other.common d.toPeriod)).count =
      signed 64 (d.count * d.factor (other.common d.toPeriod)) := by
  rw [castTo_count, Period.divisor_common_right, Nat.cast_one, Int.tdiv_one]

/-- One wrap at the end is enough. -/
theorem add_eq (left right : Duration) :
    left.add right = wrapped (left.count * left.factor (left.common right.toPeriod) +
      right.count * right.factor (left.common right.toPeriod)) (left.common right.toPeriod) := by
  apply wrapped_congr
  rw [castTo_count_common_left, castTo_count_common_right, signed_64_add_signed_64]

theorem sub_eq (left right : Duration) :
    left.sub right = wrapped (left.count * left.factor (left.common right.toPeriod) -
      right.count * right.factor (left.common right.toPeriod)) (left.common right.toPeriod) := by
  apply wrapped_congr
  rw [castTo_count_common_left, castTo_count_common_right, signed_64_sub_signed_64]

theorem castTo_zero {d : Duration} (zero : d.count = 0) : (d.castTo p).count = 0 := by
  rw [castTo_count, zero, zero_mul]
  exact Int.zero_tdiv _

theorem toUsec_eq :
    d.toUsec = (signed 64 (d.count * d.factor .micro)).tdiv (d.divisor .micro) :=
  castTo_count d .micro

-- `milliseconds::max()` and `milliseconds::min()`
example : toUsec ⟨⟨1, 1000, by decide, by decide, by decide⟩, 9223372036854775807,
    by decide, by decide⟩ = -1000 := by decide
example : toUsec ⟨⟨1, 1000, by decide, by decide, by decide⟩, -9223372036854775808,
    by decide, by decide⟩ = 0 := by decide

theorem isNegative_iff : d.isNegative ↔ signed 64 (d.count * d.factor .micro) < 0 := by
  rw [isNegative, castTo_count, Period.divisor_common_left, Period.factor_common_micro,
    Nat.cast_one, Int.tdiv_one]

/-- A time that is not negative is not cast to a negative one. -/
theorem toUsec_nonneg {d : Duration} (notNegative : ¬ d.isNegative) : 0 ≤ d.toUsec := by
  rw [isNegative_iff, not_lt] at notNegative
  exact Int.tdiv_nonneg notNegative (Int.natCast_nonneg _)

theorem toUsec_microseconds (count : Int) :
    (microseconds count).toUsec = signed 64 count := by
  have factor : (microseconds count).factor .micro = 1 := Period.factor_self .micro
  have divisor : (microseconds count).divisor .micro = 1 := Period.divisor_self .micro
  rw [toUsec_eq, factor, divisor, Nat.cast_one, mul_one, Int.tdiv_one]
  exact signed_64_signed_64 count

theorem toUsec_microseconds_of_range {count : Int} (low : -9223372036854775808 ≤ count)
    (high : count < 9223372036854775808) : (microseconds count).toUsec = count := by
  rw [toUsec_microseconds, signed_64_of_range low high]

end Lemmas

end Duration

end CmsisCpp
