import CmsisCpp.Mutex
import CmsisCpp.Semaphore

/-! # Times that have already expired

Source: `include/Mutex.h`, `src/Mutex.cpp`, `include/Semaphore.h`, `src/Semaphore.cpp`.

A timed acquisition is offered for a relative time, until a time point, and without
waiting.  A negative relative time throws in `try_lock_for` and `try_acquire_for`, and
is answered with false, without an attempt, in `try_lock_until` and
`try_acquire_until`. -/
set_option autoImplicit false

namespace CmsisCpp.ExpiredTimes

open CallScript

/-! ## The three forms -/

section Forms
variable {sig : Signature} {Os : Type}
  {handler : (call : sig.Call) → Os → sig.Reply call × Os} {s : Os}
  {relative absolute immediate : Script sig SystemError Bool}

/-- The three forms return the same, in the same state, and none of them throws. -/
def FormsAgree (handler : (call : sig.Call) → Os → sig.Reply call × Os) (s : Os)
    (relative absolute immediate : Script sig SystemError Bool) : Prop :=
  ∃ obtained s', relative.run handler s = (.ok obtained, s') ∧
    absolute.run handler s = (.ok obtained, s') ∧ immediate.run handler s = (.ok obtained, s')

def attemptOutcome (s : Os) : Option Os → Except SystemError Bool × Os
  | some taken => (.ok true, taken)
  | none => (.ok false, s)

/-- The outcome of an attempt that may wait for `ticks`; `waited` is what a wait ends in. -/
def timedOutcome (s : Os) (waited : Except SystemError Bool × Os) (ticks : Int) :
    Option Os → Except SystemError Bool × Os
  | some taken => (.ok true, taken)
  | none => if ticks = 0 then (.ok false, s) else waited

theorem timedOutcome_eq_attempt_iff {waited : Except SystemError Bool × Os} {ticks : Int}
    {taken : Option Os} :
    timedOutcome s waited ticks taken = attemptOutcome s taken ↔
      taken.isSome ∨ ticks = 0 ∨ waited = (.ok false, s) := by
  cases taken with
  | some after => simp [timedOutcome, attemptOutcome]
  | none =>
      by_cases immediate : ticks = 0 <;> simp [timedOutcome, attemptOutcome, immediate]

/-- An attempt without waiting throws nothing, so agreement is equality with it. -/
theorem formsAgree_iff {taken : Option Os}
    (attempts : immediate.run handler s = attemptOutcome s taken) :
    FormsAgree handler s relative absolute immediate ↔
      relative.run handler s = attemptOutcome s taken ∧
        absolute.run handler s = attemptOutcome s taken := by
  rw [FormsAgree, attempts]
  constructor
  · rintro ⟨obtained, s', relativeRun, absoluteRun, attempted⟩
    rw [attempted]
    exact ⟨relativeRun, absoluteRun⟩
  · rintro ⟨relativeRun, absoluteRun⟩
    cases taken with
    | some after => exact ⟨true, after, relativeRun, absoluteRun, rfl⟩
    | none => exact ⟨false, s, relativeRun, absoluteRun, rfl⟩

/-- What an attempt makes of the status with which its wait ends. -/
def waitedOutcome (what : String) (after : OsStatus × Os) : Except SystemError Bool × Os :=
  (if after.1 ≠ .osOK ∧ after.1 ≠ .osErrorTimeout then .error (osFailure after.1 what)
    else .ok (after.1 == .osOK), after.2)

theorem waitedOutcome_iff {what : String} {after : OsStatus × Os} :
    waitedOutcome what after = (.ok false, s) ↔ after = (.osErrorTimeout, s) := by
  obtain ⟨sta, left⟩ := after
  cases sta <;> simp [waitedOutcome]

end Forms

/-! ## The times -/

/-- A time for which an attempt that gets nothing does not wait, or waits in vain. -/
def GetsNothing (freq : Int) (vain : Prop) (time : Duration) : Prop :=
  timeoutTicks freq time.toUsec = 0 ∨ vain

/-- The relative time is cast to one that is not negative.  What is available is taken
when the time left is not negative either; otherwise both forms get nothing. -/
def AgreeingTimes (freq : Int) (available vain : Prop) (d left : Duration) : Prop :=
  0 ≤ d.toUsec ∧ (available → ¬ left.isNegative) ∧
    (¬ available → GetsNothing freq vain d ∧ (left.isNegative ∨ GetsNothing freq vain left))

/-- An acquisition whose relative form throws for a negative time. -/
theorem acquisitionForms_iff {sig : Signature} {Os : Type}
    {handler : (call : sig.Call) → Os → sig.Reply call × Os} {s : Os} {taken : Option Os}
    {error : SystemError} {waited : Except SystemError Bool × Os} {freq : Int}
    {forTime : Duration → Script sig SystemError Bool} {immediate : Script sig SystemError Bool}
    (attempts : immediate.run handler s = attemptOutcome s taken)
    (negative : ∀ {d : Duration}, d.toUsec < 0 → (forTime d).run handler s = (.error error, s))
    (timed : ∀ {d : Duration}, 0 ≤ d.toUsec →
      (forTime d).run handler s = timedOutcome s waited (timeoutTicks freq d.toUsec) taken)
    (d left : Duration) :
    FormsAgree handler s (forTime d) (withTimeLeft left forTime) immediate ↔
      AgreeingTimes freq taken.isSome (waited = (.ok false, s)) d left := by
  have relative : (forTime d).run handler s = attemptOutcome s taken ↔
      0 ≤ d.toUsec ∧ (taken.isSome ∨ GetsNothing freq (waited = (.ok false, s)) d) := by
    rcases lt_or_ge d.toUsec 0 with early | nonneg
    · rw [negative early]
      refine iff_of_false ?_ (by omega)
      cases taken <;> simp [attemptOutcome]
    · rw [timed nonneg, timedOutcome_eq_attempt_iff, and_iff_right nonneg]
      rfl
  have absolute : (withTimeLeft left forTime).run handler s = attemptOutcome s taken ↔
      if left.isNegative then ¬ taken.isSome
      else taken.isSome ∨ GetsNothing freq (waited = (.ok false, s)) left := by
    rw [withTimeLeft]
    by_cases late : left.isNegative
    · rw [if_pos late, if_pos late, Script.run_done]
      cases taken <;> simp [attemptOutcome]
    · rw [if_neg late, if_neg late, timed (Duration.toUsec_nonneg late),
        timedOutcome_eq_attempt_iff]
      rfl
  rw [formsAgree_iff attempts, relative, absolute, AgreeingTimes, and_assoc]
  apply and_congr_right
  intro _
  by_cases available : taken.isSome = true <;> by_cases late : left.isNegative <;>
    simp [available, late]

/-! ## Times that overflow nowhere -/

/-- The time left when the clock has gone on from `now` to `later`, in the common period of
the clock and the relative time. -/
def leftCount (now later d : Duration) : Int :=
  d.count * d.factor (now.common d.toPeriod) -
    (later.count - now.count) * now.factor (now.common d.toPeriod)

/-- A time that is not positive, a clock that does not go back, and no cast, sum or
difference that leaves the 64 bits. -/
structure NoOverflow (now later d : Duration) : Prop where
  notPositive : d.count ≤ 0
  sameClock : later.toPeriod = now.toPeriod
  onward : now.count ≤ later.count
  cast : -9223372036854775808 ≤ d.count * d.factor .micro
  left : -9223372036854775808 ≤ leftCount now later d
  leftCast : -9223372036854775808 ≤
    leftCount now later d * (now.common d.toPeriod).factor .micro

section InRange
variable {now later d : Duration}

theorem timeLeft_eq (sameClock : later.toPeriod = now.toPeriod) :
    (now.add d).sub later = .wrapped (leftCount now later d) (now.common d.toPeriod) := by
  obtain ⟨clock, laterCount, _, _⟩ := later
  cases sameClock
  have period : (now.add d).common now.toPeriod = now.common d.toPeriod :=
    Period.common_common now.toPeriod d.toPeriod
  have sum : (now.add d).count = FixedWidth.signed 64
      (now.count * now.factor (now.common d.toPeriod) +
        d.count * d.factor (now.common d.toPeriod)) := by
    rw [Duration.add_eq, Duration.wrapped_count]
  have unscaled : (now.add d).factor (now.common d.toPeriod) = 1 := Period.factor_self _
  rw [Duration.sub_eq]
  change Duration.wrapped (_ - laterCount * (now.factor ((now.add d).common now.toPeriod) : Nat))
    ((now.add d).common now.toPeriod) = _
  rw [period, unscaled, Nat.cast_one, mul_one, sum]
  apply Duration.wrapped_congr
  rw [FixedWidth.signed_64_sub_left]
  apply congrArg (FixedWidth.signed 64)
  rw [leftCount]
  ring

theorem getsNothing_of_zero {freq : Int} {vain : Prop} {time : Duration} (zero : time.toUsec = 0) :
    GetsNothing freq vain time := by
  left
  rw [zero, Mutex.timeoutTicks_zero]

variable (inRange : NoOverflow now later d)
include inRange

theorem leftCount_nonpos : leftCount now later d ≤ 0 := by
  have first := Int.mul_nonpos_of_nonpos_of_nonneg inRange.notPositive
    (Int.natCast_nonneg (d.factor (now.common d.toPeriod)))
  have second := Int.mul_nonneg (sub_nonneg.mpr inRange.onward)
    (Int.natCast_nonneg (now.factor (now.common d.toPeriod)))
  rw [leftCount]
  omega

theorem leftCount_eq_zero_iff :
    leftCount now later d = 0 ↔ d.count = 0 ∧ later.count = now.count := by
  have dFactor : (0 : Int) < d.factor (now.common d.toPeriod) := by
    exact_mod_cast d.factor_pos _
  have nowFactor : (0 : Int) < now.factor (now.common d.toPeriod) := by
    exact_mod_cast now.factor_pos _
  have first := Int.mul_nonpos_of_nonpos_of_nonneg inRange.notPositive dFactor.le
  have second := Int.mul_nonneg (sub_nonneg.mpr inRange.onward) nowFactor.le
  rw [leftCount]
  constructor
  · intro zero
    have dZero : d.count * d.factor (now.common d.toPeriod) = 0 := by omega
    have nowZero : (later.count - now.count) * now.factor (now.common d.toPeriod) = 0 := by omega
    rw [mul_eq_zero_iff_right dFactor.ne'] at dZero
    rw [mul_eq_zero_iff_right nowFactor.ne'] at nowZero
    omega
  · rintro ⟨dZero, same⟩
    rw [dZero, same, sub_self, zero_mul, zero_mul, sub_self]

theorem timeLeft_count : ((now.add d).sub later).count = leftCount now later d := by
  have nonpos := leftCount_nonpos inRange
  rw [timeLeft_eq inRange.sameClock, Duration.wrapped_count,
    FixedWidth.signed_64_of_range inRange.left (by omega)]

/-- The time left is negative unless the time is zero and the clock shows the same. -/
theorem timeLeft_isNegative_iff :
    ((now.add d).sub later).isNegative ↔ ¬ (d.count = 0 ∧ later.count = now.count) := by
  have nonpos := leftCount_nonpos inRange
  have factor : ((now.add d).sub later).factor .micro = (now.common d.toPeriod).factor .micro := by
    rw [timeLeft_eq inRange.sameClock]
    rfl
  have factorPos : (0 : Int) < (now.common d.toPeriod).factor .micro := by
    exact_mod_cast (now.common d.toPeriod).factor_pos .micro
  have scaled := Int.mul_nonpos_of_nonpos_of_nonneg nonpos factorPos.le
  rw [Duration.isNegative_iff, timeLeft_count inRange, factor,
    FixedWidth.signed_64_of_range inRange.leftCast (by omega), ← leftCount_eq_zero_iff inRange,
    ← mul_eq_zero_iff_right factorPos.ne']
  omega

theorem toUsec_nonpos : d.toUsec ≤ 0 := by
  have factorPos : (0 : Int) ≤ d.factor .micro := Int.natCast_nonneg _
  have scaled := Int.mul_nonpos_of_nonpos_of_nonneg inRange.notPositive factorPos
  have quotient := Int.ediv_nonneg (neg_nonneg.mpr scaled) (Int.natCast_nonneg (d.divisor .micro))
  rw [Duration.toUsec_eq, FixedWidth.signed_64_of_range inRange.cast (by omega),
    FixedWidth.tdiv_of_nonpos scaled]
  omega

/-- Without overflow: the time is cast to zero, and either it is zero and the clock shows
the same, or there is nothing to acquire. -/
theorem agreeingTimes_iff {freq : Int} {available vain : Prop} :
    AgreeingTimes freq available vain d ((now.add d).sub later) ↔
      d.toUsec = 0 ∧ ((d.count = 0 ∧ later.count = now.count) ∨ ¬ available) := by
  have nonpos := toUsec_nonpos inRange
  rw [AgreeingTimes, timeLeft_isNegative_iff inRange, not_not]
  constructor
  · rintro ⟨nonneg, onTime, _⟩
    refine ⟨by omega, ?_⟩
    by_cases free : available
    · exact .inl (onTime free)
    · exact .inr free
  · rintro ⟨zero, condition⟩
    refine ⟨zero.ge, fun free => condition.resolve_right (not_not.mpr free), fun _ => ?_⟩
    refine ⟨getsNothing_of_zero zero, ?_⟩
    by_cases onTime : d.count = 0 ∧ later.count = now.count
    · right
      apply getsNothing_of_zero
      apply Duration.castTo_zero
      rw [timeLeft_count inRange, (leftCount_eq_zero_iff inRange).mpr onTime]
    · exact .inl onTime

end InRange

/-! ## Mutexes -/

section Mutexes
open Mutex

variable (env : Environment) (id : Handle) (m : OsMutex) (freq : Int) {d : Duration}

/-- An attempt to acquire with the OS timeout `0`. -/
def immediateAttempt (id : Handle) : Script mutexSig SystemError Bool :=
  .ask (.osMutexAcquire id 0) fun (sta : OsStatus) => .done (sta == .osOK)

theorem immediateAttempt_run :
    (immediateAttempt id).run (kernel env) (some m) =
      attemptOutcome (some m) ((m.take env.caller).map some) := by
  cases found : m.take env.caller <;> simp [immediateAttempt, kernel, found, attemptOutcome]

theorem tryLockFor_timed_run (nonneg : 0 ≤ d.toUsec) :
    (tryLockFor freq id d).run (kernel env) (some m) =
      timedOutcome (some m)
        (waitedOutcome (strError "osMutexAcquire" id) ((env.wait m).1, some (env.wait m).2))
        (timeoutTicks freq d.toUsec) ((m.take env.caller).map some) := by
  rw [tryLockFor, tryLockForUsec, withTimeout_nonneg nonneg]
  cases found : m.take env.caller with
  | some taken => simp [readStatus, kernel, found, timedOutcome]
  | none =>
      by_cases immediate : timeoutTicks freq d.toUsec = 0
      · simp [readStatus, kernel, found, timedOutcome, immediate]
      · simp only [Script.run_ask, kernel, found, readStatus, immediate,
          false_and, if_false, timedOutcome, Option.map_none, waitedOutcome]
        generalize (env.wait m).1 = sta
        cases sta <;> rfl

theorem tryLockFor_negative_run (negative : d.toUsec < 0) :
    (tryLockFor freq id d).run (kernel env) (some m) =
      (.error (osFailure .osErrorParameter "base_timed_mutex: negative timer"), some m) := by
  rw [tryLockFor, tryLockForUsec, withTimeout_negative negative, Script.run_throw]

theorem mutexForms_iff (now later d : Duration) :
    FormsAgree (kernel env) (some m) (tryLockFor freq id d)
        (tryLockUntil freq id (now.add d) later) (immediateAttempt id) ↔
      AgreeingTimes freq (m.Acquirable env.caller) (env.wait m = (.osErrorTimeout, m)) d
        ((now.add d).sub later) := by
  have available : ((m.take env.caller).map some).isSome ↔ m.Acquirable env.caller := by
    rw [Option.isSome_map, OsMutex.take_isSome_iff]
  rw [tryLockUntil, acquisitionForms_iff (immediateAttempt_run env id m)
    (tryLockFor_negative_run env id m freq) (tryLockFor_timed_run env id m freq), available,
    waitedOutcome_iff, Prod.mk.injEq, Option.some_inj, ← Prod.mk_inj]

end Mutexes

/-! ## Semaphores -/

section Semaphores
open Semaphore

variable (wait : OsSemaphore → OsStatus × OsSemaphore) (id : Handle) (s : OsSemaphore) (freq : Int)
  {d : Duration}

theorem tryAcquire_run :
    (tryAcquire id).run (kernel wait) s = attemptOutcome s s.take := by
  cases found : s.take <;> simp [tryAcquire, kernel, found, attemptOutcome]

theorem tryAcquireFor_timed_run (nonneg : 0 ≤ d.toUsec) :
    (tryAcquireFor freq id d).run (kernel wait) s =
      timedOutcome s (waitedOutcome (strError "osSemaphoreAcquire" id) (wait s))
        (timeoutTicks freq d.toUsec) s.take := by
  rw [tryAcquireFor, tryAcquireForUsec, withTimeout_nonneg nonneg]
  cases found : s.take with
  | some taken => simp [readStatus, kernel, found, timedOutcome]
  | none =>
      by_cases immediate : timeoutTicks freq d.toUsec = 0
      · simp [readStatus, kernel, found, timedOutcome, immediate]
      · simp only [Script.run_ask, kernel, found, readStatus, immediate,
          false_and, if_false, timedOutcome, waitedOutcome]
        generalize (wait s).1 = sta
        cases sta <;> rfl

theorem tryAcquireFor_negative_run (negative : d.toUsec < 0) :
    (tryAcquireFor freq id d).run (kernel wait) s =
      (.error (osFailure .osErrorParameter "semaphore: negative timer"), s) := by
  rw [tryAcquireFor, tryAcquireForUsec_negative id negative, Script.run_throw]

theorem semaphoreForms_iff (now later d : Duration) :
    FormsAgree (kernel wait) s (tryAcquireFor freq id d)
        (tryAcquireUntil freq id (now.add d) later) (tryAcquire id) ↔
      AgreeingTimes freq (0 < s.count) (wait s = (.osErrorTimeout, s)) d
        ((now.add d).sub later) := by
  rw [tryAcquireUntil, acquisitionForms_iff (tryAcquire_run wait id s)
    (tryAcquireFor_negative_run wait id s freq) (tryAcquireFor_timed_run wait id s freq),
    OsSemaphore.take_isSome_iff, waitedOutcome_iff]

end Semaphores

/-! ## Both classes -/

/-- The absolute form makes its time point from `now` and reads the clock again, when it
shows `later`: the forms agree exactly when `d` and the time left are times that agree. -/
theorem expiredForms_iff (env : Mutex.Environment)
    (wait : Semaphore.OsSemaphore → OsStatus × Semaphore.OsSemaphore) (id : Handle)
    (m : Mutex.OsMutex) (s : Semaphore.OsSemaphore) (freq : Int) (now later d : Duration) :
    (FormsAgree (Mutex.kernel env) (some m) (Mutex.tryLockFor freq id d)
        (Mutex.tryLockUntil freq id (now.add d) later) (immediateAttempt id) ↔
      AgreeingTimes freq (m.Acquirable env.caller) (env.wait m = (.osErrorTimeout, m)) d
        ((now.add d).sub later)) ∧
    (FormsAgree (Semaphore.kernel wait) s (Semaphore.tryAcquireFor freq id d)
        (Semaphore.tryAcquireUntil freq id (now.add d) later) (Semaphore.tryAcquire id) ↔
      AgreeingTimes freq (0 < s.count) (wait s = (.osErrorTimeout, s)) d
        ((now.add d).sub later)) :=
  ⟨mutexForms_iff env id m freq now later d, semaphoreForms_iff wait id s freq now later d⟩

/-- A free mutex: the relative form throws, the absolute one returns false. -/
theorem mutexForms_millisecondAgo :
    ¬ ∀ (env : Mutex.Environment) (id : Handle) (m : Mutex.OsMutex) (freq : Int)
      (now d : Duration), d.count ≤ 0 →
        FormsAgree (Mutex.kernel env) (some m) (Mutex.tryLockFor freq id d)
          (Mutex.tryLockUntil freq id (now.add d) now) (immediateAttempt id) := by
  intro claimed
  have agree := claimed ⟨1, 0, fun m => (.osErrorTimeout, m)⟩ 1 ⟨0, .free⟩ 1000
    (.microseconds 5000) (.microseconds (-1000)) (by decide)
  have cast := ((mutexForms_iff _ 1 _ 1000 _ _ _).mp agree).1
  exact absurd cast (by decide)

end CmsisCpp.ExpiredTimes
