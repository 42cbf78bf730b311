import Mathlib.Data.List.Chain
import Mathlib.Tactic.Linarith
import CmsisCpp.Library.FixedWidth

/-! # The clocks

Source: `include/Chrono.h`, `src/Chrono.cpp`.

`now()` converts the current value of a free-running 32-bit counter of the kernel:
the tick counter for `system_clock`, the system timer for `high_resolution_clock`.
It keeps nothing between two readings, so a reading steps back when the counter
has rolled over, unless both values fall into the same unit of the clock. -/
set_option autoImplicit false

namespace CmsisCpp.Chrono

open FixedWidth

/-- `convertDuration`, for a duration type with the given period: `count` is a
`uint64_t`, `freq` a `uint32_t`, and the result becomes the signed `rep`. -/
def convertDuration (num den : Int) (count freq : Int) : Int :=
  signed 64 (unsigned 64 (count * den) / unsigned 64 (signed 64 (freq * num)))

inductive Clock
  | systemClock
  | highResolutionClock
  deriving DecidableEq, Repr

def Clock.num : Clock → Int
  | .systemClock => 1
  | .highResolutionClock => 1

def Clock.den : Clock → Int
  | .systemClock => 1000000
  | .highResolutionClock => 1000000000

/-- `now().time_since_epoch().count()` at a value of the clock's counter. -/
def now (clock : Clock) (freq count : UInt32) : Int :=
  convertDuration clock.num clock.den count.toNat freq.toNat

/-- No step of a conversion leaves its type: the 64-bit product, the divisor before
and after it becomes unsigned, and the quotient as a signed `rep`. -/
structure ConversionExact (num den : Int) (count freq : UInt32) : Prop where
  product : unsigned 64 (count.toNat * den) = count.toNat * den
  divisor : signed 64 (freq.toNat * num) = freq.toNat * num
  unsignedDivisor : unsigned 64 (freq.toNat * num) = freq.toNat * num
  representable : 0 ≤ count.toNat * den / (freq.toNat * num) ∧
    count.toNat * den / (freq.toNat * num) < 9223372036854775808
  result : convertDuration num den count.toNat freq.toNat =
    count.toNat * den / (freq.toNat * num)

section Reading
variable (clock : Clock) {freq : UInt32}

theorem Clock.num_eq : clock.num = 1 := by
  cases clock <;> rfl

theorem Clock.den_pos : 0 < clock.den := by
  cases clock <;> decide

theorem Clock.den_le : clock.den ≤ 1000000000 := by
  cases clock <;> decide

theorem count_mul_den_range (count : UInt32) :
    0 ≤ count.toNat * clock.den ∧ count.toNat * clock.den < 9223372036854775808 := by
  have countBound : (count.toNat : Int) ≤ 4294967295 := by
    have bound := count.toNat_lt
    omega
  have countNonneg : (0 : Int) ≤ count.toNat := Int.natCast_nonneg _
  refine ⟨Int.mul_nonneg countNonneg clock.den_pos.le, ?_⟩
  calc (count.toNat : Int) * clock.den ≤ 4294967295 * 1000000000 :=
        Int.mul_le_mul countBound clock.den_le clock.den_pos.le (by decide)
    _ < 9223372036854775808 := by decide

theorem conversionExact (freqPos : 0 < freq) (count : UInt32) :
    ConversionExact clock.num clock.den count freq := by
  have positive : (0 : Int) < freq.toNat := by exact_mod_cast freqPos
  have freqBound : (freq.toNat : Int) < 4294967296 := by exact_mod_cast freq.toNat_lt
  have unit : (freq.toNat : Int) * clock.num = freq.toNat := by rw [clock.num_eq, mul_one]
  obtain ⟨nonneg, inRange⟩ := count_mul_den_range clock count
  have product : unsigned 64 (count.toNat * clock.den) = count.toNat * clock.den := by
    apply unsigned_64_of_range nonneg
    omega
  have divisor : signed 64 (freq.toNat * clock.num) = freq.toNat * clock.num := by
    rw [unit]
    apply signed_64_of_range <;> omega
  have unsignedDivisor : unsigned 64 (freq.toNat * clock.num) = freq.toNat * clock.num := by
    rw [unit]
    apply unsigned_64_of_range <;> omega
  have representable : 0 ≤ count.toNat * clock.den / (freq.toNat * clock.num) ∧
      count.toNat * clock.den / (freq.toNat * clock.num) < 9223372036854775808 := by
    rw [unit]
    have quotientLe := Int.ediv_le_self (freq.toNat : Int) nonneg
    have quotientNonneg := Int.ediv_nonneg nonneg positive.le
    omega
  refine ⟨product, divisor, unsignedDivisor, representable, ?_⟩
  rw [convertDuration, product, divisor, unsignedDivisor]
  apply signed_64_of_range <;> omega

/-- No 32-bit count overflows on the way: the reading is the rounded down quotient. -/
theorem now_eq (freqPos : 0 < freq) (count : UInt32) :
    now clock freq count = count.toNat * clock.den / freq.toNat := by
  rw [now, (conversionExact clock freqPos count).result, clock.num_eq, mul_one]

/-! ## Successive readings -/

def InUnit (freq : UInt32) (unit : Int) (count : UInt32) : Prop :=
  unit * freq.toNat ≤ count.toNat * clock.den ∧ count.toNat * clock.den < (unit + 1) * freq.toNat

/-- Both counter values fall into one unit. -/
def SameUnit (freq earlier later : UInt32) : Prop :=
  ∃ unit, InUnit clock freq unit earlier ∧ InUnit clock freq unit later

/-- The counter does not roll over while it advances, or stays in its unit. -/
def KeepsUp (freq count advance : UInt32) : Prop :=
  count.toNat + advance.toNat < 4294967296 ∨ SameUnit clock freq count (count + advance)

theorem inUnit_iff (freqPos : 0 < freq) (unit : Int) (count : UInt32) :
    InUnit clock freq unit count ↔ now clock freq count = unit := by
  have positive : (0 : Int) < freq.toNat := by exact_mod_cast freqPos
  rw [InUnit, now_eq clock freqPos, ← Int.le_ediv_iff_mul_le positive,
    ← Int.ediv_lt_iff_lt_mul positive]
  omega

theorem sameUnit_iff (freqPos : 0 < freq) (earlier later : UInt32) :
    SameUnit clock freq earlier later ↔ now clock freq earlier = now clock freq later := by
  constructor
  · rintro ⟨unit, first, second⟩
    rw [(inUnit_iff clock freqPos unit earlier).mp first,
      (inUnit_iff clock freqPos unit later).mp second]
  · intro same
    refine ⟨now clock freq later, ?_, ?_⟩
    · exact (inUnit_iff clock freqPos _ earlier).mpr same
    · exact (inUnit_iff clock freqPos _ later).mpr rfl

theorem now_mono (freqPos : 0 < freq) {earlier later : UInt32} (le : earlier.toNat ≤ later.toNat) :
    now clock freq earlier ≤ now clock freq later := by
  have positive : (0 : Int) < freq.toNat := by exact_mod_cast freqPos
  have denPos := clock.den_pos
  rw [now_eq clock freqPos, now_eq clock freqPos]
  apply Int.ediv_le_ediv positive
  apply Int.mul_le_mul_of_nonneg_right _ denPos.le
  exact_mod_cast le

/-- A roll-over out of the unit takes the clock back. -/
theorem now_lt_of_rollover (freqPos : 0 < freq) {count advance : UInt32}
    (rollsOver : 4294967296 ≤ count.toNat + advance.toNat)
    (otherUnit : ¬ SameUnit clock freq count (count + advance)) :
    now clock freq (count + advance) < now clock freq count := by
  have sum : (count + advance).toNat = count.toNat + advance.toNat - 4294967296 := by
    have countBound := count.toNat_lt
    have advanceBound := advance.toNat_lt
    rw [UInt32.toNat_add]
    omega
  have advanceBound := advance.toNat_lt
  have le : (count + advance).toNat ≤ count.toNat := by omega
  apply lt_of_le_of_ne (now_mono clock freqPos le)
  intro same
  exact otherUnit ((sameUnit_iff clock freqPos _ _).mpr same.symm)

theorem now_le_iff (freqPos : 0 < freq) (count advance : UInt32) :
    now clock freq count ≤ now clock freq (count + advance) ↔ KeepsUp clock freq count advance := by
  constructor
  · intro ordered
    rcases lt_or_ge (count.toNat + advance.toNat) 4294967296 with noRollover | rollsOver
    · exact .inl noRollover
    · right
      by_contra otherUnit
      have back := now_lt_of_rollover clock freqPos rollsOver otherUnit
      omega
  · rintro (noRollover | sameUnit)
    · apply now_mono clock freqPos
      rw [UInt32.toNat_add]
      omega
    · exact ((sameUnit_iff clock freqPos _ _).mp sameUnit).le

def readings (freq : UInt32) : UInt32 → List UInt32 → List Int
  | _, [] => []
  | count, advance :: rest =>
      now clock freq (count + advance) :: readings freq (count + advance) rest

def AllKeepUp (freq : UInt32) : UInt32 → List UInt32 → Prop
  | _, [] => True
  | count, advance :: rest =>
      KeepsUp clock freq count advance ∧ AllKeepUp freq (count + advance) rest

/-- The readings of a run never decrease exactly when no advance takes the
counter over its end into another unit. -/
theorem readings_steady_iff (freqPos : 0 < freq) : ∀ (advances : List UInt32) (count : UInt32),
    (now clock freq count :: readings clock freq count advances).IsChain (· ≤ ·) ↔
      AllKeepUp clock freq count advances := by
  intro advances
  induction advances with
  | nil =>
      intro count
      simp [readings, AllKeepUp]
  | cons advance rest ih =>
      intro count
      rw [readings, AllKeepUp, List.isChain_cons_cons, now_le_iff clock freqPos, ih]

end Reading

theorem readings_steady_at :
    (now .systemClock 1000 1000 :: readings .systemClock 1000 1000 [2000, 4294964295]).IsChain
      (· ≤ ·) :=
  (readings_steady_iff .systemClock (by decide) _ _).mpr
    ⟨.inl (by decide), .inl (by decide), trivial⟩

/-- One tick more and the clocks are back at their epoch. -/
theorem readings_stepBack :
    ¬ ∀ (clock : Clock) (freq count : UInt32) (advances : List UInt32), 0 < freq →
      (now clock freq count :: readings clock freq count advances).IsChain (· ≤ ·) := by
  intro claimed
  have steady := claimed .systemClock 1000 4294967295 [1] (by decide)
  revert steady
  decide

end CmsisCpp.Chrono
