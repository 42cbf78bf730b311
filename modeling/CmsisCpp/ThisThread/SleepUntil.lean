import CmsisCpp.ThisThread
import Mathlib.Algebra.Order.Field.Rat
import Mathlib.Tactic.LinearCombination
import Mathlib.Tactic.Positivity

/-! # How long `this_thread` sleeps

Source: `this_thread::sleep_for` and `sleep_until` in `include/Thread.h`.  A sleep is
truncated twice, to microseconds and to ticks.  With a clock that is not steady
`sleep_until` looks at the clock again after each sleep; with a steady one it sleeps
once and returns. -/
set_option autoImplicit false

namespace CmsisCpp

open CallScript

/-! ## Time points of a clock -/

/-- A time point, in periods since the epoch of its clock; a comparison of two of them
overflows nowhere. -/
structure TimePoint extends Period where
  count : Int

namespace TimePoint

def seconds (t : TimePoint) : ℚ := t.count * t.num / t.den

/-- The count in a period of which that of `t` is a multiple. -/
def countIn (t : TimePoint) (p : Period) : Int := t.count * t.factor p

/-- `now < sleep_time`. -/
def isBefore (now sleepTime : TimePoint) : Prop :=
  now.countIn (sleepTime.common now.toPeriod) < sleepTime.countIn (sleepTime.common now.toPeriod)

instance (now sleepTime : TimePoint) : Decidable (now.isBefore sleepTime) :=
  inferInstanceAs (Decidable (_ < _))

def gap (sleepTime now : TimePoint) : Int :=
  sleepTime.countIn (sleepTime.common now.toPeriod) - now.countIn (sleepTime.common now.toPeriod)

/-- `sleep_time - now`. -/
def sub (sleepTime now : TimePoint) : Duration :=
  .wrapped (sleepTime.gap now) (sleepTime.common now.toPeriod)

def ofSeconds (q : ℚ) : TimePoint where
  num := 1
  den := q.den
  numPos := Nat.one_pos
  denPos := q.den_pos
  reduced := Nat.coprime_one_left _
  count := q.num

def ofMicroseconds (count : Int) : TimePoint := ⟨.micro, count⟩

theorem ofSeconds_seconds (q : ℚ) : (ofSeconds q).seconds = q := by
  rw [seconds, ofSeconds, Nat.cast_one, mul_one, Rat.num_div_den]

theorem seconds_eq (t : TimePoint) {p : Period} (multiple : t.divisor p = 1) :
    t.seconds = t.countIn p * p.num / p.den := by
  have tDen : (t.den : ℚ) ≠ 0 := by exact_mod_cast t.denPos.ne'
  have pDen : (p.den : ℚ) ≠ 0 := by exact_mod_cast p.denPos.ne'
  have ratio := t.factor_mul p
  rw [multiple, mul_one] at ratio
  have cast : (t.factor p : ℚ) * (t.den * p.num) = t.num * p.den := by exact_mod_cast ratio
  rw [seconds, countIn, div_eq_div_iff tDen pDen]
  push_cast
  linear_combination -(t.count : ℚ) * cast

section Pair
variable (sleepTime now : TimePoint)

theorem seconds_sub_seconds :
    sleepTime.seconds - now.seconds =
      sleepTime.gap now * (sleepTime.sub now).num / (sleepTime.sub now).den := by
  have left := seconds_eq sleepTime (sleepTime.divisor_common_left now.toPeriod)
  have right := seconds_eq now (sleepTime.divisor_common_right now.toPeriod)
  rw [left, right, gap, sub, Duration.wrapped]
  push_cast
  ring

theorem gap_pos_iff : 0 < sleepTime.gap now ↔ now.isBefore sleepTime := by
  simp only [gap, isBefore]
  omega

theorem isBefore_iff : now.isBefore sleepTime ↔ now.seconds < sleepTime.seconds := by
  have numPos : (0 : ℚ) < (sleepTime.sub now).num := by
    exact_mod_cast (sleepTime.sub now).numPos
  have denPos : (0 : ℚ) < (sleepTime.sub now).den := by
    exact_mod_cast (sleepTime.sub now).denPos
  rw [← sub_pos, seconds_sub_seconds, mul_div_assoc,
    mul_pos_iff_of_pos_right (div_pos numPos denPos), Int.cast_pos, gap_pos_iff]

end Pair

end TimePoint

/-! ## The cast to microseconds -/

namespace Duration

/-- The cast to microseconds neither truncates nor overflows. -/
def WholeUsec (d : Duration) : Prop :=
  (d.divisor .micro : Int) ∣ d.count * d.factor .micro ∧
    d.count * d.factor .micro < 9223372036854775808

instance (d : Duration) : Decidable d.WholeUsec := inferInstanceAs (Decidable (_ ∧ _))

theorem toUsec_mul_le_max (d : Duration) :
    d.toUsec * d.divisor .micro ≤ max (FixedWidth.signed 64 (d.count * d.factor .micro)) 0 := by
  have divisorPos : (0 : Int) < d.divisor .micro := by exact_mod_cast d.divisor_pos .micro
  rw [toUsec_eq]
  rcases lt_or_ge (FixedWidth.signed 64 (d.count * d.factor .micro)) 0 with negative | nonneg
  · apply le_max_of_le_right
    apply Int.mul_nonpos_of_nonpos_of_nonneg _ divisorPos.le
    rw [FixedWidth.tdiv_of_nonpos negative.le]
    have quotient := Int.ediv_nonneg (by omega :
      0 ≤ -FixedWidth.signed 64 (d.count * d.factor .micro)) divisorPos.le
    omega
  · apply le_max_of_le_left
    rw [Int.tdiv_eq_ediv_of_nonneg nonneg]
    exact Int.ediv_mul_le _ divisorPos.ne'

section Positive
variable {d : Duration} (positive : 0 < d.count)
include positive

theorem scaled_pos : 0 < d.count * d.factor .micro := by
  apply Int.mul_pos positive
  exact_mod_cast d.factor_pos .micro

theorem toUsec_mul_le : d.toUsec * d.divisor .micro ≤ d.count * d.factor .micro := by
  have scaled := scaled_pos positive
  have bounded := toUsec_mul_le_max d
  rw [FixedWidth.signed_64] at bounded
  omega

theorem toUsec_mul_eq_iff :
    d.toUsec * d.divisor .micro = d.count * d.factor .micro ↔ d.WholeUsec := by
  have scaled := scaled_pos positive
  rw [WholeUsec]
  rcases lt_or_ge (d.count * d.factor .micro) 9223372036854775808 with fits | large
  · rw [toUsec_eq, FixedWidth.signed_64_of_range (by omega) fits,
      Int.tdiv_eq_ediv_of_nonneg scaled.le]
    constructor
    · intro whole
      exact ⟨Dvd.intro_left _ whole, fits⟩
    · intro condition
      exact Int.ediv_mul_cancel condition.1
  · have bounded := toUsec_mul_le_max d
    have high := FixedWidth.signed_64_high (d.count * d.factor .micro)
    constructor <;> omega

end Positive

end Duration

namespace TimePoint

variable {sleepTime now : TimePoint}

/-- What is left of the time is not too long for a duration. -/
def LeftFits (sleepTime now : TimePoint) : Prop := sleepTime.gap now < 9223372036854775808

instance : Decidable (LeftFits sleepTime now) := inferInstanceAs (Decidable (_ < _))

theorem sub_count_of_fits (early : now.isBefore sleepTime) (fits : LeftFits sleepTime now) :
    (sleepTime.sub now).count = sleepTime.gap now := by
  have positive := (gap_pos_iff sleepTime now).mpr early
  exact FixedWidth.signed_64_of_range (by omega) fits

def scaled (sleepTime now : TimePoint) : Int :=
  sleepTime.gap now * (sleepTime.sub now).factor .micro

theorem scaled_pos (early : now.isBefore sleepTime) : 0 < scaled sleepTime now := by
  apply Int.mul_pos ((gap_pos_iff sleepTime now).mpr early)
  exact_mod_cast (sleepTime.sub now).factor_pos .micro

theorem toUsec_mul_le (early : now.isBefore sleepTime) :
    (sleepTime.sub now).toUsec * (sleepTime.sub now).divisor .micro ≤ scaled sleepTime now ∧
      ((sleepTime.sub now).toUsec * (sleepTime.sub now).divisor .micro = scaled sleepTime now ↔
        LeftFits sleepTime now ∧ (sleepTime.sub now).WholeUsec) := by
  have positive := (gap_pos_iff sleepTime now).mpr early
  by_cases fits : LeftFits sleepTime now
  · have count := sub_count_of_fits early fits
    have countPos : 0 < (sleepTime.sub now).count := count ▸ positive
    rw [scaled, ← count]
    refine ⟨Duration.toUsec_mul_le countPos, ?_⟩
    rw [Duration.toUsec_mul_eq_iff countPos, and_iff_right fits]
  · have bounded := Duration.toUsec_mul_le_max (sleepTime.sub now)
    have high := FixedWidth.signed_64_high
      ((sleepTime.sub now).count * (sleepTime.sub now).factor .micro)
    have factorPos : (1 : Int) ≤ (sleepTime.sub now).factor .micro := by
      exact_mod_cast (sleepTime.sub now).factor_pos .micro
    have large : sleepTime.gap now ≤ scaled sleepTime now :=
      le_mul_of_one_le_right positive.le factorPos
    have tooLong : 9223372036854775808 ≤ sleepTime.gap now := not_lt.mp fits
    constructor
    · omega
    · constructor
      · omega
      · intro condition
        exact absurd condition.1 fits

theorem seconds_sub_eq_scaled :
    sleepTime.seconds - now.seconds =
      scaled sleepTime now / ((sleepTime.sub now).divisor .micro * 1000000) := by
  have ratio := (sleepTime.sub now).factor_mul .micro
  have divisorNe : ((sleepTime.sub now).divisor .micro : ℚ) ≠ 0 := by
    exact_mod_cast ((sleepTime.sub now).divisor_pos .micro).ne'
  have denNe : ((sleepTime.sub now).den : ℚ) ≠ 0 := by
    exact_mod_cast (sleepTime.sub now).denPos.ne'
  rw [Period.micro, Nat.mul_one] at ratio
  have cast : ((sleepTime.sub now).factor .micro : ℚ) * (sleepTime.sub now).den =
      (sleepTime.sub now).num * 1000000 * (sleepTime.sub now).divisor .micro := by
    exact_mod_cast ratio
  rw [seconds_sub_seconds, scaled, div_eq_div_iff denNe (by positivity)]
  push_cast
  linear_combination -(sleepTime.gap now : ℚ) * cast

end TimePoint

namespace ThisThread

/-! ## One sleep -/

def WholeTicks (freq usec : Int) : Prop :=
  1000000 ∣ usec * freq ∧ usec * freq < 4294967296000000

instance (freq usec : Int) : Decidable (WholeTicks freq usec) :=
  inferInstanceAs (Decidable (_ ∧ _))

/-- `sleep_for` makes one call of `osDelay`, for at least the time asked for. -/
def Covers (freq usec : Int) : Prop :=
  ∃ ticks, (∀ reply, (sleepFor freq (.microseconds usec)).trace reply = [.osDelay ticks]) ∧
    usec * freq ≤ ticks * 1000000

section Ticks
variable {freq usec : Int}

/-- The ticks are rounded down, or do not reach the time at all. -/
theorem timeoutTicks_cases (nonneg : 0 ≤ usec * freq) :
    (usec * freq < 4294967296000000 ∧ timeoutTicks freq usec = usec * freq / 1000000) ∨
      (4294967296000000 ≤ usec * freq ∧ timeoutTicks freq usec ≤ 4294967295) := by
  by_cases fits : usec * freq < 4294967296000000
  · exact .inl ⟨fits, timeoutTicks_of_lt nonneg fits⟩
  · exact .inr ⟨not_lt.mp fits, (timeoutTicks_range freq usec).2⟩

theorem timeoutTicks_mul_le (nonneg : 0 ≤ usec * freq) :
    timeoutTicks freq usec * 1000000 ≤ usec * freq := by
  rcases timeoutTicks_cases nonneg with ⟨fits, ticks⟩ | ⟨large, bounded⟩ <;> omega

theorem timeoutTicks_covers_iff (nonneg : 0 ≤ usec * freq) :
    usec * freq ≤ timeoutTicks freq usec * 1000000 ↔ WholeTicks freq usec := by
  rw [WholeTicks]
  rcases timeoutTicks_cases nonneg with ⟨fits, ticks⟩ | ⟨large, bounded⟩ <;> omega

theorem sleepFor_trace (d : Duration) (reply : (call : DelayCall) → delaySig.Reply call) :
    (sleepFor freq d).trace reply =
      if 0 < d.toUsec then [.osDelay (timeoutTicks freq d.toUsec)] else [] := by
  rw [sleepFor, sleepForUsec]
  split
  · rw [Script.trace_ask, expectOk_trace]
  · rfl

theorem covers_iff (freqPos : 1 ≤ freq) (positive : 0 < usec) :
    Covers freq usec ↔ WholeTicks freq usec := by
  have nonneg : 0 ≤ usec * freq := Int.mul_nonneg (by omega) (by omega)
  constructor
  · rintro ⟨ticks, passed, covered⟩
    have same := passed fun | .osDelay _ => OsStatus.osOK
    rw [sleepFor_trace] at same
    split at same
    · cases same
      have bounded := (timeoutTicks_range freq (Duration.microseconds usec).toUsec).2
      have scaled : usec ≤ usec * freq := le_mul_of_one_le_right positive.le freqPos
      have fits : usec < 9223372036854775808 := by
        rw [osWaitForever] at bounded
        omega
      rw [Duration.toUsec_microseconds_of_range (by omega) fits] at covered
      exact (timeoutTicks_covers_iff nonneg).mp covered
    · cases same
  · intro whole
    have covered := (timeoutTicks_covers_iff nonneg).mpr whole
    have scaled : usec ≤ usec * freq := le_mul_of_one_le_right positive.le freqPos
    have small := whole.2
    have cast : (Duration.microseconds usec).toUsec = usec :=
      Duration.toUsec_microseconds_of_range (by omega) (by omega)
    refine ⟨timeoutTicks freq usec, ?_, covered⟩
    intro reply
    rw [sleepFor_trace, cast, if_pos positive]

end Ticks

/-! ## `sleep_until` -/

/-- What comes of one `sleep_for`: the answer of its `osDelay`, and what `Clock::now()`
is when it has returned. -/
structure Sleep where
  sta : OsStatus
  now : TimePoint

inductive Ending
  | returned (now : TimePoint)
  | threw (error : SystemError)
  | sleeping

def kernel (sta : OsStatus) : (call : DelayCall) → Int → delaySig.Reply call × Int
  | .osDelay ticks, slept => (sta, slept + ticks)

/-- `while (now < sleep_time)`. -/
def sleepLoop (freq : Int) (sleepTime : TimePoint) : TimePoint → List Sleep → Ending
  | now, [] => if now.isBefore sleepTime then .sleeping else .returned now
  | now, sleep :: rest =>
      if now.isBefore sleepTime then
        match ((sleepFor freq (sleepTime.sub now)).run (kernel sleep.sta) 0).1 with
        | .error error => .threw error
        | .ok () => sleepLoop freq sleepTime sleep.now rest
      else .returned now

/-- `sleep_until`, with the first reading of the clock and what comes of the sleeps; it
returns when the clock is at `now`. -/
def sleepUntil (isSteady : Bool) (freq : Int) (sleepTime now : TimePoint) (sleeps : List Sleep) :
    Ending :=
  if isSteady = true then
    if now.isBefore sleepTime then
      match sleeps with
      | [] => .sleeping
      | sleep :: _ =>
          match ((sleepFor freq (sleepTime.sub now)).run (kernel sleep.sta) 0).1 with
          | .error error => .threw error
          | .ok () => .returned sleep.now
    else .returned now
  else sleepLoop freq sleepTime now sleeps

def slept (freq : Int) (d : Duration) : Int := ((sleepFor freq d).run (kernel .osOK) 0).2

def Advances (freq ticks : Int) (before after : TimePoint) : Prop :=
  (ticks : ℚ) / freq ≤ after.seconds - before.seconds

def ClockAdvances (freq : Int) (sleepTime : TimePoint) : TimePoint → List Sleep → Prop
  | _, [] => True
  | now, sleep :: rest =>
      Advances freq (slept freq (sleepTime.sub now)) now sleep.now ∧
        ClockAdvances freq sleepTime sleep.now rest

/-- With either kind of clock `sleep_until` returns only when the time has come, and both
branches end alike. -/
structure SleepsUntil (freq : Int) (sleepTime now : TimePoint) : Prop where
  returnsLate : ∀ isSteady sleeps last, ClockAdvances freq sleepTime now sleeps →
    sleepUntil isSteady freq sleepTime now sleeps = .returned last → ¬ last.isBefore sleepTime
  agrees : ∀ sleeps, ClockAdvances freq sleepTime now sleeps →
    sleepUntil true freq sleepTime now sleeps = sleepUntil false freq sleepTime now sleeps

section Slept
variable {freq : Int}

theorem slept_eq (freq : Int) (left : Duration) :
    slept freq left = if 0 < left.toUsec then timeoutTicks freq left.toUsec else 0 := by
  rw [slept, sleepFor, sleepForUsec]
  split
  · simp [kernel, expectOk]
  · rfl

theorem sleepFor_returns (freq : Int) (d : Duration) :
    ((sleepFor freq d).run (kernel .osOK) 0).1 = .ok () := by
  rw [sleepFor, sleepForUsec]
  split
  · rfl
  · rfl

/-- The sleep lasts the time left exactly when it overflows nowhere and neither of the
two truncations takes anything away. -/
theorem seconds_le_slept_iff {sleepTime now : TimePoint} (freqPos : 1 ≤ freq)
    (early : now.isBefore sleepTime) :
    sleepTime.seconds - now.seconds ≤ (slept freq (sleepTime.sub now) : ℚ) / freq ↔
      TimePoint.LeftFits sleepTime now ∧ (sleepTime.sub now).WholeUsec ∧
        WholeTicks freq (sleepTime.sub now).toUsec := by
  have positive := TimePoint.scaled_pos early
  obtain ⟨toUsec, noLoss⟩ := TimePoint.toUsec_mul_le early
  have divisorPos : (0 : Int) < (sleepTime.sub now).divisor .micro := by
    exact_mod_cast (sleepTime.sub now).divisor_pos .micro
  have cleared : sleepTime.seconds - now.seconds ≤ (slept freq (sleepTime.sub now) : ℚ) / freq ↔
      TimePoint.scaled sleepTime now * freq ≤
        slept freq (sleepTime.sub now) * ((sleepTime.sub now).divisor .micro * 1000000) := by
    have divisorPos : (0 : ℚ) < (sleepTime.sub now).divisor .micro := by exact_mod_cast divisorPos
    have freqPos : (0 : ℚ) < freq := by exact_mod_cast freqPos
    rw [TimePoint.seconds_sub_eq_scaled, div_le_div_iff₀ (by positivity) freqPos]
    norm_cast
  rw [cleared, slept_eq, ← and_assoc, ← noLoss]
  by_cases usecPos : 0 < (sleepTime.sub now).toUsec
  · have nonneg : 0 ≤ (sleepTime.sub now).toUsec * freq := Int.mul_nonneg usecPos.le (by omega)
    have toTicks := timeoutTicks_mul_le nonneg
    rw [if_pos usecPos, ← timeoutTicks_covers_iff nonneg]
    have usecScaled := Int.mul_le_mul_of_nonneg_right toUsec (by omega : 0 ≤ freq)
    have ticksScaled := Int.mul_le_mul_of_nonneg_right toTicks divisorPos.le
    constructor
    · intro covered
      constructor
      · apply le_antisymm toUsec
        apply le_of_mul_le_mul_right _ (by omega : 0 < freq)
        linarith
      · apply le_of_mul_le_mul_right _ divisorPos
        linarith
    · rintro ⟨whole, covered⟩
      have coveredScaled := Int.mul_le_mul_of_nonneg_right covered divisorPos.le
      have wholeScaled := congrArg (· * freq) whole
      linarith
  · rw [if_neg usecPos, zero_mul]
    refine iff_of_false ?_ ?_
    · have scaledPos := Int.mul_pos positive (by omega : 0 < freq)
      omega
    · rintro ⟨whole, _⟩
      have nonpos := Int.mul_nonpos_of_nonpos_of_nonneg (not_lt.mp usecPos) divisorPos.le
      omega

end Slept

/-! ## The two branches -/

section Branches
variable {freq : Int} {sleepTime now : TimePoint} {sleeps : List Sleep}

theorem sleepLoop_returned : ∀ {sleeps : List Sleep} {now last : TimePoint},
    sleepLoop freq sleepTime now sleeps = .returned last → ¬ last.isBefore sleepTime := by
  intro sleeps
  induction sleeps with
  | nil =>
      intro now last returned
      rw [sleepLoop] at returned
      split at returned
      · cases returned
      · rename_i late
        cases returned
        exact late
  | cons sleep rest ih =>
      intro now last returned
      rw [sleepLoop] at returned
      split at returned
      · split at returned
        · cases returned
        · exact ih returned
      · rename_i late
        cases returned
        exact late

theorem sleepLoop_late (late : ¬ now.isBefore sleepTime) :
    sleepLoop freq sleepTime now sleeps = .returned now := by
  cases sleeps with
  | nil => rw [sleepLoop, if_neg late]
  | cons sleep rest => rw [sleepLoop, if_neg late]

/-- The clock has reached the time after one sleep that was long enough. -/
theorem late_of_advances {after : TimePoint}
    (enough : sleepTime.seconds - now.seconds ≤ (slept freq (sleepTime.sub now) : ℚ) / freq)
    (advances : Advances freq (slept freq (sleepTime.sub now)) now after) :
    ¬ after.isBefore sleepTime := by
  rw [Advances] at advances
  rw [TimePoint.isBefore_iff, not_lt]
  linarith

theorem steady_late (late : ¬ now.isBefore sleepTime) :
    sleepUntil true freq sleepTime now sleeps = .returned now := by
  unfold sleepUntil
  rw [if_pos rfl, if_neg late]

theorem steady_nil (early : now.isBefore sleepTime) :
    sleepUntil true freq sleepTime now [] = .sleeping := by
  unfold sleepUntil
  rw [if_pos rfl, if_pos early]

theorem steady_cons (early : now.isBefore sleepTime) (sleep : Sleep) (rest : List Sleep) :
    sleepUntil true freq sleepTime now (sleep :: rest) =
      match ((sleepFor freq (sleepTime.sub now)).run (kernel sleep.sta) 0).1 with
      | .error error => .threw error
      | .ok () => .returned sleep.now := by
  unfold sleepUntil
  rw [if_pos rfl, if_pos early]

theorem sleepsUntil_of_late (late : ¬ now.isBefore sleepTime) :
    SleepsUntil freq sleepTime now := by
  have ended : ∀ isSteady sleeps,
      sleepUntil isSteady freq sleepTime now sleeps = .returned now := by
    intro isSteady sleeps
    cases isSteady with
    | true => exact steady_late late
    | false => exact sleepLoop_late late
  constructor
  · intro isSteady sleeps last _ returned
    cases (ended isSteady sleeps).symm.trans returned
    exact late
  · intro sleeps _
    rw [ended, ended]

theorem sleepsUntil_of_enough
    (enough : sleepTime.seconds - now.seconds ≤ (slept freq (sleepTime.sub now) : ℚ) / freq) :
    SleepsUntil freq sleepTime now := by
  by_cases early : now.isBefore sleepTime
  · constructor
    · intro isSteady sleeps last clock returned
      cases isSteady with
      | false => exact sleepLoop_returned returned
      | true =>
          cases sleeps with
          | nil =>
              rw [steady_nil early] at returned
              cases returned
          | cons sleep rest =>
              rw [steady_cons early] at returned
              split at returned
              · cases returned
              · cases returned
                exact late_of_advances enough clock.1
    · intro sleeps clock
      change _ = sleepLoop freq sleepTime now sleeps
      cases sleeps with
      | nil => rw [steady_nil early, sleepLoop, if_pos early]
      | cons sleep rest =>
          rw [steady_cons early, sleepLoop, if_pos early,
            sleepLoop_late (late_of_advances enough clock.1)]
  · exact sleepsUntil_of_late early

def exactly (freq : Int) (sleepTime now : TimePoint) : Sleep where
  sta := .osOK
  now := .ofSeconds (now.seconds + (slept freq (sleepTime.sub now) : ℚ) / freq)

/-- The steady branch returns after one sleep, however long it was. -/
theorem steady_returns (early : now.isBefore sleepTime) {sleep : Sleep} (ok : sleep.sta = .osOK)
    (rest : List Sleep) :
    sleepUntil true freq sleepTime now (sleep :: rest) = .returned sleep.now := by
  rw [steady_cons early, ok, sleepFor_returns]

/-- The loop ends when the clock reaches the time. -/
theorem sleepLoop_ends : ∀ {sleeps : List Sleep} (now : TimePoint),
    (∀ sleep ∈ sleeps, sleep.sta = .osOK) →
      (∃ sleep ∈ sleeps, ¬ sleep.now.isBefore sleepTime) →
        ∃ last, sleepLoop freq sleepTime now sleeps = .returned last := by
  intro sleeps
  induction sleeps with
  | nil =>
      rintro now _ ⟨_, member, _⟩
      cases member
  | cons sleep rest ih =>
      intro now ok reached
      by_cases early : now.isBefore sleepTime
      · rw [sleepLoop, if_pos early, ok sleep List.mem_cons_self, sleepFor_returns]
        by_cases awake : sleep.now.isBefore sleepTime
        · apply ih sleep.now (fun later member => ok later (List.mem_cons_of_mem _ member))
          obtain ⟨later, member, late⟩ := reached
          rcases List.mem_cons.mp member with rfl | member
          · exact absurd awake late
          · exact ⟨later, member, late⟩
        · exact ⟨sleep.now, sleepLoop_late awake⟩
      · exact ⟨now, sleepLoop_late early⟩

theorem enough_of_sleepsUntil (early : now.isBefore sleepTime)
    (law : SleepsUntil freq sleepTime now) :
    sleepTime.seconds - now.seconds ≤ (slept freq (sleepTime.sub now) : ℚ) / freq := by
  have passed : (exactly freq sleepTime now).now.seconds =
      now.seconds + (slept freq (sleepTime.sub now) : ℚ) / freq := TimePoint.ofSeconds_seconds _
  have clock : ClockAdvances freq sleepTime now [exactly freq sleepTime now] := by
    refine ⟨?_, trivial⟩
    rw [Advances, passed]
    linarith
  have late := law.returnsLate true _ _ clock (steady_returns early rfl [])
  rw [TimePoint.isBefore_iff, not_lt, passed] at late
  linarith

end Branches

/-- `sleep_for` covers its time exactly when that is a whole number of ticks; the loop
always waits for its time; the steady branch does so, and agrees with the loop, exactly
when the time has come already or the time left is cast without a loss. -/
theorem sleepUntil_iff {freq : Int} (freqPos : 1 ≤ freq) :
    (∀ usec, 0 < usec → (Covers freq usec ↔ WholeTicks freq usec)) ∧
      (∀ sleepTime now sleeps last,
        sleepUntil false freq sleepTime now sleeps = .returned last →
          ¬ last.isBefore sleepTime) ∧
      ∀ sleepTime now, SleepsUntil freq sleepTime now ↔
        ¬ now.isBefore sleepTime ∨
          (TimePoint.LeftFits sleepTime now ∧ (sleepTime.sub now).WholeUsec ∧
            WholeTicks freq (sleepTime.sub now).toUsec) := by
  refine ⟨fun usec positive => covers_iff freqPos positive,
    fun _ _ _ _ returned => sleepLoop_returned returned, ?_⟩
  intro sleepTime now
  by_cases early : now.isBefore sleepTime
  · rw [← seconds_le_slept_iff freqPos early]
    constructor
    · intro law
      exact .inr (enough_of_sleepsUntil early law)
    · intro condition
      exact sleepsUntil_of_enough (condition.resolve_left (not_not.mpr early))
  · exact iff_of_true (sleepsUntil_of_late early) (.inl early)

theorem sleepUntil_twoTicks :
    Covers 1000 2000 ∧ SleepsUntil 1000 (.ofMicroseconds 5000) (.ofMicroseconds 3000) := by
  obtain ⟨covers, _, sleepsUntil⟩ := sleepUntil_iff (by omega : (1 : Int) ≤ 1000)
  exact ⟨(covers 2000 (by omega)).mpr (by decide), (sleepsUntil _ _).mpr (.inr (by decide))⟩

theorem sleepUntil_halfTick :
    (¬ ∀ freq usec : Int, 1 ≤ freq → 0 < usec → usec * freq < 4294967296000000 →
      Covers freq usec) ∧
      ¬ ∀ (freq : Int) (sleepTime now : TimePoint), 1 ≤ freq →
        (sleepTime.sub now).toUsec * freq < 4294967296000000 →
          SleepsUntil freq sleepTime now := by
  constructor
  · intro claimed
    have covers := claimed 1000 1500 (by omega) (by omega) (by omega)
    have whole := (covers_iff (by omega) (by omega)).mp covers
    exact absurd whole (by decide)
  · intro claimed
    have law := claimed 1000 (.ofMicroseconds 1500) (.ofMicroseconds 0) (by omega) (by decide)
    have enough := enough_of_sleepsUntil (by decide) law
    have whole := (seconds_le_slept_iff (by omega) (by decide)).mp enough
    exact absurd whole (by decide)

end ThisThread

end CmsisCpp
