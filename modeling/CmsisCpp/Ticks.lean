import Mathlib.Tactic.Linarith
import CmsisCpp.OSException
import CmsisCpp.Library.FixedWidth

/-! # From a duration in microseconds to OS ticks

Every timed operation of the library computes its timeout with the same
expression,

    static_cast<uint32_t>((usec.count() * osKernelGetTickFreq() *
        std::chrono::microseconds::period::num) / std::chrono::microseconds::period::den)

followed by a saturation test.  `usec.count()` and `period::num` are signed
64-bit, so the products are signed 64-bit, and the test compares a `uint32_t`
with the largest `uint32_t`. -/
set_option autoImplicit false

namespace CmsisCpp

open FixedWidth

/-- `std::chrono::microseconds::period::num` and `den`. -/
def periodNum : Int := 1
def periodDen : Int := 1000000

def microsecondsMax : Int := 9223372036854775807

def uint32Max : Int := 0xFFFFFFFF

/-- The timeout in ticks handed to the OS, for a kernel tick frequency `freq`. -/
def timeoutTicks (freq usec : Int) : Int :=
  let timeout := unsigned 32 ((signed 64 (signed 64 (usec * freq) * periodNum)).tdiv periodDen)
  if timeout > uint32Max then osWaitForever else timeout

/-- The saturation test never fires: its operand is already a `uint32_t`. -/
theorem timeoutTicks_eq (freq usec : Int) :
    timeoutTicks freq usec = unsigned 32 ((signed 64 (usec * freq)).tdiv 1000000) := by
  unfold timeoutTicks
  have bounded := unsigned_32_lt
    ((signed 64 (signed 64 (usec * freq) * periodNum)).tdiv periodDen)
  have deadTest : ¬ unsigned 32
      ((signed 64 (signed 64 (usec * freq) * periodNum)).tdiv periodDen) > uint32Max := by
    rw [uint32Max]
    omega
  rw [if_neg deadTest, periodNum, periodDen, Int.mul_one, signed_64_signed_64]

theorem timeoutTicks_range (freq usec : Int) :
    0 ≤ timeoutTicks freq usec ∧ timeoutTicks freq usec ≤ osWaitForever := by
  rw [timeoutTicks_eq]
  have nonneg := unsigned_32_nonneg ((signed 64 (usec * freq)).tdiv 1000000)
  have bounded := unsigned_32_lt ((signed 64 (usec * freq)).tdiv 1000000)
  exact ⟨nonneg, by simp only [osWaitForever]; omega⟩

theorem timeoutTicks_of_lt {freq usec : Int} (nonneg : 0 ≤ usec * freq)
    (small : usec * freq < 4294967296000000) :
    timeoutTicks freq usec = usec * freq / 1000000 := by
  rw [timeoutTicks_eq, signed_64_of_range (by omega) (by omega),
    Int.tdiv_eq_ediv_of_nonneg nonneg, unsigned_32_of_range (by omega) (by omega)]

/-! ## What the timeout should be -/

/-- The tick count stands for the duration: forever when the exact number of
ticks `usec * freq / 10 ^ 6` reaches `2 ^ 32 - 1`, otherwise off by less than one
tick. -/
def TicksFaithful (freq usec ticks : Int) : Prop :=
  (4294967295 * 1000000 ≤ usec * freq → ticks = osWaitForever) ∧
    (usec * freq < 4294967295 * 1000000 →
      -1000000 < ticks * 1000000 - usec * freq ∧ ticks * 1000000 - usec * freq < 1000000)

/-- The exact number of microticks, brought into the signed 64-bit range, falls
in a window that the division and the cast to `uint32_t` send to `0xFFFFFFFF`. -/
def AliasesForever (product : Int) : Prop :=
  ∃ turns window y : Int, y = product - 18446744073709551616 * turns ∧
    -9223372036854775808 ≤ y ∧ y < 9223372036854775808 ∧ 0 ≤ window ∧
    ((1000000 * (4294967296 * window + 4294967295) ≤ y ∧
        y < 1000000 * (4294967296 * window + 4294967296)) ∨
      (-(1000000 * (4294967296 * window + 2)) < y ∧
        y ≤ -(1000000 * (4294967296 * window + 1))))

theorem timeoutTicks_eq_forever_iff (freq usec : Int) :
    timeoutTicks freq usec = osWaitForever ↔ AliasesForever (usec * freq) := by
  rw [timeoutTicks_eq]
  obtain ⟨turns, congruent, low, high⟩ := exists_signed_64 (usec * freq)
  constructor
  · intro saturated
    rcases lt_or_ge (signed 64 (usec * freq)) 0 with negative | nonneg
    · rw [tdiv_of_nonpos (by omega), unsigned_32, osWaitForever] at saturated
      refine ⟨turns, -signed 64 (usec * freq) / 1000000 / 4294967296, _, congruent, low, high,
        by omega, .inr ?_⟩
      omega
    · rw [Int.tdiv_eq_ediv_of_nonneg nonneg, unsigned_32, osWaitForever] at saturated
      refine ⟨turns, signed 64 (usec * freq) / 1000000 / 4294967296, _, congruent, low, high,
        by omega, .inl ?_⟩
      omega
  · rintro ⟨turns, window, y, rfl, low, high, windowNonneg, hit⟩
    rw [← signed_64_sub_mul (usec * freq) turns, signed_64_of_range low high]
    rcases hit with ⟨first, last⟩ | ⟨first, last⟩
    · rw [Int.tdiv_eq_ediv_of_nonneg (by omega), unsigned_32, osWaitForever]
      omega
    · rw [tdiv_of_nonpos (by omega), unsigned_32, osWaitForever]
      omega

theorem timeoutTicks_faithful_of_lt {freq usec : Int} (nonneg : 0 ≤ usec * freq)
    (small : usec * freq < 4294967296000000) :
    TicksFaithful freq usec (timeoutTicks freq usec) := by
  rw [timeoutTicks_of_lt nonneg small]
  refine ⟨fun saturated => ?_, fun below => ?_⟩
  · rw [osWaitForever]
    omega
  · omega

/-- The timeout is faithful exactly when the exact tick count fits 32 bits or
wraps onto `osWaitForever` by accident. -/
theorem timeoutTicks_faithful_iff {freq usec : Int} (usecNonneg : 0 ≤ usec) (freqPos : 1 ≤ freq) :
    TicksFaithful freq usec (timeoutTicks freq usec) ↔
      usec * freq < 4294967296000000 ∨ AliasesForever (usec * freq) := by
  have nonneg : 0 ≤ usec * freq := Int.mul_nonneg usecNonneg (by omega)
  rcases lt_or_ge (usec * freq) 4294967296000000 with small | large
  · exact iff_of_true (timeoutTicks_faithful_of_lt nonneg small) (.inl small)
  · constructor
    · intro faithful
      exact .inr ((timeoutTicks_eq_forever_iff freq usec).mp (faithful.1 (by omega)))
    · rintro (small | accident)
      · omega
      · have saturated := (timeoutTicks_eq_forever_iff freq usec).mpr accident
        exact ⟨fun _ => saturated, fun below => by omega⟩

/-! ## The untimed wait -/

/-- `microseconds::max()` survives the conversion as `osWaitForever` only for the
even frequencies between one and two megahertz: an even frequency leaves the
product `-freq`, an odd one leaves `2 ^ 63 - freq`. -/
theorem timeoutTicks_max_eq_forever_iff {freq : Int} (freqPos : 1 ≤ freq)
    (freqBound : freq < 4294967296) :
    timeoutTicks freq microsecondsMax = osWaitForever ↔
      freq % 2 = 0 ∧ 1000000 ≤ freq ∧ freq < 2000000 := by
  rw [timeoutTicks_eq, microsecondsMax, osWaitForever]
  rcases Int.emod_two_eq_zero_or_one freq with even | odd
  · have wrapped : signed 64 (9223372036854775807 * freq) = -freq := by
      rw [signed_64]
      omega
    rw [wrapped, tdiv_of_nonpos (by omega), unsigned_32]
    omega
  · have wrapped : signed 64 (9223372036854775807 * freq) = 9223372036854775808 - freq := by
      rw [signed_64]
      omega
    rw [wrapped, Int.tdiv_eq_ediv_of_nonneg (by omega), unsigned_32]
    omega

end CmsisCpp
