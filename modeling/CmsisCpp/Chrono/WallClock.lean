import CmsisCpp.Chrono

/-! # The two ways to the wall clock

Source: `src/Chrono.cpp`.  `system_clock::to_time_t` casts a reading to seconds;
`_gettimeofday`, which the C library calls, converts the tick counter once more
and splits the result with unsigned divisions. -/
set_option autoImplicit false

namespace CmsisCpp.Chrono

open FixedWidth

/-- `struct timeval`; `time_t` has 64 bits, `long` has 32. -/
structure Timeval where
  tvSec : Int
  tvUsec : Int
  deriving DecidableEq, Repr

structure Timezone where
  tzMinuteswest : Int
  tzDsttime : Int
  deriving DecidableEq, Repr

def toTimeT (count : Int) : Int := signed 64 (count.tdiv 1000000)

/-- `_gettimeofday`: its result, and what it leaves behind the two pointers (`none`
is the null pointer). -/
def gettimeofday (freq count : UInt32) (tp : Option Timeval) (tzvp : Option Timezone) :
    Int × Option Timeval × Option Timezone :=
  let written := tp.map fun _ =>
    let now := unsigned 64 (convertDuration 1 1000000 count.toNat freq.toNat)
    { tvSec := signed 64 (now / 1000000), tvUsec := signed 32 (now % 1000000) }
  (0, written, tzvp.map fun _ => ⟨0, 0⟩)

structure WallClocksAgree (freq count : UInt32) (tv : Timeval) : Prop where
  usecNonneg : 0 ≤ tv.tvUsec
  usecLt : tv.tvUsec < 1000000
  sum : tv.tvSec * 1000000 + tv.tvUsec = now .systemClock freq count
  sec : tv.tvSec = toTimeT (now .systemClock freq count)

section Agreement
variable {freq : UInt32}

theorem now_range (clock : Clock) (freqPos : 0 < freq) (count : UInt32) :
    0 ≤ now clock freq count ∧ now clock freq count < 9223372036854775808 := by
  have exact := conversionExact clock freqPos count
  rw [now, exact.result]
  exact exact.representable

theorem gettimeofday_agrees (freqPos : 0 < freq) (count : UInt32) (before : Timeval)
    (tzvp : Option Timezone) :
    ∃ tv, gettimeofday freq count (some before) tzvp = (0, some tv, tzvp.map fun _ => ⟨0, 0⟩) ∧
      WallClocksAgree freq count tv := by
  obtain ⟨nonneg, inRange⟩ := now_range .systemClock freqPos count
  refine ⟨_, rfl, ?_⟩
  change WallClocksAgree freq count
    ⟨signed 64 (unsigned 64 (now .systemClock freq count) / 1000000),
      signed 32 (unsigned 64 (now .systemClock freq count) % 1000000)⟩
  have unsignedNow : unsigned 64 (now .systemClock freq count) = now .systemClock freq count :=
    unsigned_64_of_range nonneg (by omega)
  have seconds : signed 64 (now .systemClock freq count / 1000000) =
      now .systemClock freq count / 1000000 := by
    apply signed_64_of_range <;> omega
  have rest : signed 32 (now .systemClock freq count % 1000000) =
      now .systemClock freq count % 1000000 := by
    apply signed_32_of_range <;> omega
  have cast : toTimeT (now .systemClock freq count) = now .systemClock freq count / 1000000 := by
    rw [toTimeT, Int.tdiv_eq_ediv_of_nonneg nonneg, seconds]
  rw [unsignedNow, seconds, rest]
  refine ⟨?_, ?_, ?_, cast.symm⟩
  · exact Int.emod_nonneg _ (by decide)
  · exact Int.emod_lt_of_pos _ (by decide)
  · exact Int.ediv_mul_add_emod _ _

end Agreement

/-- For every reading of a 32-bit counter the conversion is exact in both clocks, and
the two ways to the wall clock agree. -/
theorem conversionExact_and_gettimeofday_agrees {freq : UInt32} (freqPos : 0 < freq)
    (count : UInt32) :
    (∀ clock : Clock, ConversionExact clock.num clock.den count freq) ∧
      ∀ (before : Timeval) (tzvp : Option Timezone),
        ∃ tv, gettimeofday freq count (some before) tzvp =
            (0, some tv, tzvp.map fun _ => ⟨0, 0⟩) ∧ WallClocksAgree freq count tv :=
  ⟨fun clock => conversionExact clock freqPos count, gettimeofday_agrees freqPos count⟩

theorem conversionExact_and_gettimeofday_agrees_last :
    (∀ clock : Clock, ConversionExact clock.num clock.den 4294967295 1) ∧
      ∀ (before : Timeval) (tzvp : Option Timezone),
        ∃ tv, gettimeofday 1 4294967295 (some before) tzvp =
            (0, some tv, tzvp.map fun _ => ⟨0, 0⟩) ∧ WallClocksAgree 1 4294967295 tv :=
  conversionExact_and_gettimeofday_agrees (by decide) 4294967295

example : (gettimeofday 1 4294967295 (some ⟨0, 0⟩) none).2.1 = some ⟨4294967295, 0⟩ := by decide

end CmsisCpp.Chrono
