import CmsisCpp.ConditionVariable.Notification

/-! # `wait` and its infinite timeout

`wait` passes `microseconds::max()` to `wait_for`.  Which tick count that becomes
depends on the kernel tick frequency: `osWaitForever` for the even frequencies
between one and two megahertz, a finite or zero count for every other one.  With
a finite count the OS may end the acquisition, and `wait` returns, although no
notifier has released the call. -/
set_option autoImplicit false

namespace CmsisCpp.ConditionVariable

open ActionSystem CallScript CmsisCpp.Semaphore

/-- The timeout that `wait` hands to `osSemaphoreAcquire` is `osWaitForever`. -/
def PassesForever (freq : Int) : Prop :=
  ∀ id sta, (tryAcquireFor freq id (.microseconds microsecondsMax)).trace (statusReply sta) =
    [.osSemaphoreAcquire id osWaitForever]

def ReturnsNotified (freq : Int) : Prop :=
  ∀ acts s, Run (system freq) Unrestricted acts s →
    ∀ c status owns, .left c microsecondsMax (.returned status) owns ∈ s.log → .released c ∈ s.log

section Frequency
variable {freq : Int}

theorem toUsec_max : (Duration.microseconds microsecondsMax).toUsec = microsecondsMax :=
  Duration.toUsec_microseconds_of_range (by decide) (by decide)

theorem passesForever_iff_ticks :
    PassesForever freq ↔ timeoutTicks freq microsecondsMax = osWaitForever := by
  have trace : ∀ id sta,
      (tryAcquireFor freq id (.microseconds microsecondsMax)).trace (statusReply sta) =
        [.osSemaphoreAcquire id (timeoutTicks freq microsecondsMax)] := by
    intro id sta
    rw [tryAcquireFor, toUsec_max]
    exact tryAcquireForUsec_trace id (by decide) (statusReply sta)
  constructor
  · intro passes
    have same := (trace 1 .osOK).symm.trans (passes 1 .osOK)
    simpa using same
  · intro ticks id sta
    rw [trace, ticks]

theorem returnsNotified_of_ticks (ticks : timeoutTicks freq microsecondsMax = osWaitForever) :
    ReturnsNotified freq := by
  intro acts s run c status owns logged
  have history := (run_invariants run).history
  cases status with
  | noTimeout => exact history.leftNotified c _ owns logged
  | timeout => exact absurd ticks (history.leftFinite c _ owns logged)

/-! ## A run in which the wait expires -/

def expiredStatus (ticks : Int) : OsStatus :=
  if ticks = 0 then .osErrorResource else .osErrorTimeout

theorem tryAcquire_expired {s : State} {t : ThreadId} {id : Handle}
    (found : s.sema (s.current t) = some ⟨id, 0⟩) (nonneg : 0 ≤ (s.args t).usec)
    (finite : timeoutTicks freq (s.args t).usec ≠ osWaitForever) :
    s.tryAcquire freq t (expiredStatus (timeoutTicks freq (s.args t).usec)) =
      some (s.goto t (.relock false)) := by
  simp only [State.tryAcquire, found, tryAcquireForUsec_trace id nonneg,
    tryAcquireForUsec_eval id nonneg, List.forall_mem_singleton]
  by_cases immediate : timeoutTicks freq (s.args t).usec = 0
  · simp [expiredStatus, immediate, AcquireAnswer]
  · simp [expiredStatus, immediate, AcquireAnswer, finite]

def enterWait : List Action :=
  [.start 0 (.lock 0), .start 0 (.wait 0), .next 0 (.handle 1), .next 0 .done,
    .next 0 (.allocated true), .next 0 .done, .next 0 .done]

/-- The state at the acquisition; the frequency has not been read yet. -/
def atAcquire (freq : Int) : State :=
  ((system freq).replay Unrestricted enterWait .initial).getD .initial

theorem atAcquire_run : Run (system freq) Unrestricted enterWait (atAcquire freq) :=
  Run.of_replay rfl

theorem atAcquire_usec : ((atAcquire freq).args 0).usec = microsecondsMax := toUsec_max

theorem atAcquire_expires (finite : timeoutTicks freq microsecondsMax ≠ osWaitForever) :
    (system freq).step (atAcquire freq) (.next 0 (.status
      (expiredStatus (timeoutTicks freq ((atAcquire freq).args 0).usec)))) =
        some ((atAcquire freq).goto 0 (.relock false)) := by
  have nonneg : 0 ≤ ((atAcquire freq).args 0).usec := by
    rw [atAcquire_usec]
    decide
  exact tryAcquire_expired rfl nonneg (by rwa [atAcquire_usec])

theorem expired_returns :
    ∃ s, (system freq).replay Unrestricted (List.replicate 5 (.next 0 .done))
        ((atAcquire freq).goto 0 (.relock false)) = some s ∧
      s.log = [.registered ⟨0, 1⟩, .removed ⟨0, 1⟩,
        .left ⟨0, 1⟩ ((atAcquire freq).args 0).usec (.returned .timeout) true] :=
  ⟨_, rfl, rfl⟩

/-- With a finite tick count some `wait` returns without a release. -/
theorem not_returnsNotified (finite : timeoutTicks freq microsecondsMax ≠ osWaitForever) :
    ¬ ReturnsNotified freq := by
  intro notified
  have expired := atAcquire_run.step trivial (atAcquire_expires finite)
  obtain ⟨s, replayed, log⟩ := @expired_returns freq
  have returned := expired.append_replay replayed
  rw [atAcquire_usec] at log
  have released := notified _ _ returned ⟨0, 1⟩ .timeout true (by simp [log])
  simp [log] at released

/-- At the frequencies at which `microseconds::max()` becomes `osWaitForever`, and
at no other, `wait` waits for a notification. -/
theorem untimedWait_iff (freqPos : 1 ≤ freq) (freqBound : freq < 4294967296) :
    (PassesForever freq ↔ freq % 2 = 0 ∧ 1000000 ≤ freq ∧ freq < 2000000) ∧
      (ReturnsNotified freq ↔ freq % 2 = 0 ∧ 1000000 ≤ freq ∧ freq < 2000000) := by
  rw [passesForever_iff_ticks, ← timeoutTicks_max_eq_forever_iff freqPos freqBound]
  refine ⟨Iff.rfl, ?_, returnsNotified_of_ticks⟩
  intro notified
  by_contra finite
  exact not_returnsNotified finite notified

end Frequency

theorem untimedWait_one_megahertz : PassesForever 1000000 ∧ ReturnsNotified 1000000 := by
  obtain ⟨passes, returns⟩ := @untimedWait_iff 1000000 (by decide) (by decide)
  exact ⟨passes.mpr (by decide), returns.mpr (by decide)⟩

/-- At the usual tick of a millisecond `wait` polls: the tick count is zero. -/
theorem untimedWait_one_kilohertz :
    ¬ ∀ freq : Int, 1 ≤ freq → freq < 4294967296 → PassesForever freq ∧ ReturnsNotified freq := by
  intro claimed
  have ticks : timeoutTicks 1000 microsecondsMax ≠ osWaitForever := by decide
  exact not_returnsNotified ticks (claimed 1000 (by decide) (by decide)).2

end CmsisCpp.ConditionVariable
