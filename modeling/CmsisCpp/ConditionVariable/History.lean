import CmsisCpp.ConditionVariable.Queue

/-! # What the history says about the calls

A token in a local semaphore was put there by a notifier; a call goes on as
notified only with a token, and as timed out only if its timeout was finite; a
call that has been left is over. -/
set_option autoImplicit false

namespace CmsisCpp.ConditionVariable

/-- The acquisition has ended without a token and the node is still to be withdrawn. -/
def Pc.timedOut : Pc → Bool
  | .relock false | .lockErase | .erase => true
  | _ => false

def Pc.afterTimeout : Pc → Bool
  | .relock false | .lockErase | .erase | .unlockErase | .leave (.returned .timeout) => true
  | _ => false

def Pc.afterToken : Pc → Bool
  | .relock true | .leave (.returned .noTimeout) => true
  | _ => false

structure HistoryInv (freq : Int) (s : State) : Prop where
  token : ∀ c sema, s.sema c = some sema → 0 < sema.count → .released c ∈ s.log
  notified : ∀ t, (s.pc t).afterToken = true → .released (s.current t) ∈ s.log
  finite : ∀ t, (s.pc t).afterTimeout = true →
    timeoutTicks freq (s.args t).usec ≠ osWaitForever
  leftNotified : ∀ c usec owns, .left c usec (.returned .noTimeout) owns ∈ s.log →
    .released c ∈ s.log
  leftFinite : ∀ c usec owns, .left c usec (.returned .timeout) owns ∈ s.log →
    timeoutTicks freq usec ≠ osWaitForever
  leftOver : ∀ c usec exit owns, .left c usec exit owns ∈ s.log → Over s c

section Step
variable {freq : Int} {s s' : State} {t : ThreadId} {answer : Answer}

/-! ## The events a step adds -/

theorem Taken.log_mono {event : Event} (taken : Taken freq s t answer s')
    (logged : event ∈ s.log) : event ∈ s'.log := by
  cases taken <;>
    simp [State.goto, State.setSema, State.record, State.finish, State.unlockMutex, logged]

theorem Taken.left_logged {c : Call} {usec : Int} {exit : Exit} {owns : Bool}
    (taken : Taken freq s t answer s') (logged : .left c usec exit owns ∈ s'.log) :
    .left c usec exit owns ∈ s.log ∨
      (c = s.current t ∧ usec = (s.args t).usec ∧ owns = s.ownsLock t ∧
        (s.pc t = .leave exit ∨ (s.pc t = .semaphoreNew ∧ ∃ exn, exit = .threw exn)) ∧
        s'.calls t = s.calls t ∧ s'.pc t = .idle) := by
  cases taken with
  | noSemaphore pc =>
      simp only [State.finish, State.goto, State.record, List.mem_append, List.mem_singleton,
        Event.left.injEq] at logged
      rcases logged with old | ⟨sameCall, sameUsec, sameExit, sameOwns⟩
      · exact .inl old
      · refine .inr ⟨sameCall, sameUsec, sameOwns, .inr ⟨pc, _, sameExit⟩, rfl, ?_⟩
        simp [State.finish, State.goto]
  | left pc =>
      simp only [State.finish, State.goto, State.record, List.mem_append, List.mem_singleton,
        Event.left.injEq] at logged
      rcases logged with old | ⟨sameCall, sameUsec, sameExit, sameOwns⟩
      · exact .inl old
      · refine .inr ⟨sameCall, sameUsec, sameOwns, .inl (sameExit ▸ pc), rfl, ?_⟩
        simp [State.finish, State.goto]
  | _ =>
      left
      simpa [State.goto, State.setSema, State.record, State.unlockMutex] using logged

theorem Taken.released_logged {c : Call} (taken : Taken freq s t answer s')
    (logged : .released c ∈ s'.log) :
    .released c ∈ s.log ∨ ((∃ next, ReleaseTarget s t c next) ∧
      ∃ sema, s'.sema c = some sema ∧ 0 < sema.count) := by
  cases taken with
  | @released c' next sema target found room =>
      simp only [State.goto, State.record, State.setSema, List.mem_append, List.mem_singleton,
        Event.released.injEq] at logged
      rcases logged with old | rfl
      · exact .inl old
      · refine .inr ⟨⟨next, target⟩, ⟨sema.id, sema.count + 1⟩, ?_, Nat.succ_pos _⟩
        simp [State.goto, State.record, State.setSema]
  | _ =>
      left
      simpa [State.goto, State.setSema, State.record, State.finish, State.unlockMutex] using logged

/-! ## The history invariant is kept -/

theorem Taken.token {c : Call} {sema : LocalSemaphore} (taken : Taken freq s t answer s')
    (inv : HistoryInv freq s) (found : s'.sema c = some sema) (token : 0 < sema.count) :
    .released c ∈ s'.log := by
  have mono : ∀ event, event ∈ s.log → event ∈ s'.log := fun _ logged => taken.log_mono logged
  by_cases own : c = s.current t
  · have before := inv.token c
    cases taken with
    | @released c' next raised target existed room =>
        by_cases hit : c = c'
        · simp [State.goto, State.record, hit]
        · have kept : s.sema c = some sema := by
            simpa [State.goto, State.record, State.setSema, hit] using found
          exact List.mem_append_left _ (before sema kept token)
    | @acquired old pc existed oldToken =>
        exact before old (own ▸ existed) oldToken
    | semaphore pc =>
        simp only [State.goto, State.setSema, own, Function.update_self, Option.some.injEq] at found
        simp [← found] at token
    | left pc =>
        simp [State.goto, State.setSema, State.finish, State.record, own] at found
    | _ => exact mono _ (before sema found token)
  · rcases taken.sema_other own with kept | ⟨_, _, _, _, logged⟩
    · exact mono _ (inv.token c sema (by rw [← kept, found]) token)
    · simp [logged]

theorem Taken.notified_self (taken : Taken freq s t answer s') (inv : HistoryInv freq s)
    (goesOn : (s'.pc t).afterToken = true) : .released (s'.current t) ∈ s'.log := by
  have before := inv.notified t
  cases taken with
  | @acquired sema pc found token => exact inv.token _ sema found token
  | relockNotified pc free => exact before (by rw [pc]; rfl)
  | dangling target destroyed => exact before goesOn
  | overflowed target found full => exact before goesOn
  | released target found room => cases target <;> simp [State.goto, Pc.afterToken] at goesOn
  | left pc => simp [State.finish, State.goto, Pc.afterToken] at goesOn
  | _ => simp_all [State.goto, State.finish, State.record, State.unlockMutex, Pc.afterToken]

theorem Taken.finite_self (taken : Taken freq s t answer s') (inv : HistoryInv freq s)
    (goesOn : (s'.pc t).afterTimeout = true) :
    timeoutTicks freq (s'.args t).usec ≠ osWaitForever := by
  have before := inv.finite t
  cases taken with
  | timedOut pc found noToken finite => exact finite
  | relockTimedOut pc free => exact before (by rw [pc]; rfl)
  | lockErase pc free => exact before (by rw [pc]; rfl)
  | erased pc present => exact before (by rw [pc]; rfl)
  | unlockErase pc => exact before (by rw [pc]; rfl)
  | dangling target destroyed => exact before goesOn
  | overflowed target found full => exact before goesOn
  | released target found room => cases target <;> simp [State.goto, Pc.afterTimeout] at goesOn
  | left pc => simp [State.finish, State.goto, Pc.afterTimeout] at goesOn
  | _ => simp_all [State.goto, State.finish, State.record, State.unlockMutex, Pc.afterTimeout]

theorem Taken.historyInv (taken : Taken freq s t answer s') (inv : HistoryInv freq s) :
    HistoryInv freq s' where
  token c sema found token := taken.token inv found token
  notified other goesOn := by
    by_cases same : other = t
    · subst same
      exact taken.notified_self inv goesOn
    · rw [taken.current_other same]
      rw [taken.pc_other same] at goesOn
      exact taken.log_mono (inv.notified other goesOn)
  finite other goesOn := by
    by_cases same : other = t
    · subst same
      exact taken.finite_self inv goesOn
    · rw [taken.args_other same]
      rw [taken.pc_other same] at goesOn
      exact inv.finite other goesOn
  leftNotified c usec owns logged := by
    rcases taken.left_logged logged with old | ⟨rfl, _, _, leaves | ⟨_, exn, threw⟩, _⟩
    · exact taken.log_mono (inv.leftNotified c usec owns old)
    · exact taken.log_mono (inv.notified t (by rw [leaves]; rfl))
    · contradiction
  leftFinite c usec owns logged := by
    rcases taken.left_logged logged with old | ⟨_, rfl, _, leaves | ⟨_, exn, threw⟩, _⟩
    · exact inv.leftFinite c usec owns old
    · exact inv.finite t (by rw [leaves]; rfl)
    · contradiction
  leftOver c usec exit owns logged := by
    rcases taken.left_logged logged with old | ⟨rfl, _, _, _, calls, idle⟩
    · exact taken.staysOver (inv.leftOver c usec exit owns old)
    · right
      simp [State.current, calls, idle, Pc.inCall, Pc.hasSemaphore]

end Step

/-! ## All invariants along a run -/

structure Invariants (freq : Int) (s : State) : Prop where
  mutex : MutexInv s
  lock : LockInv s
  sema : SemaInv s
  queue : QueueInv s
  history : HistoryInv freq s

theorem Invariants.initial (freq : Int) : Invariants freq .initial where
  mutex t := by simp [State.initial, Pc.holdsMutex]
  lock t holds := by simp [State.initial, Pc.holdsLock] at holds
  sema := {
    alive := by
      intro t has
      simp [State.initial, Pc.hasSemaphore] at has
    only := by
      intro c sema found
      simp [State.initial] at found }
  queue := {
    nodup := List.nodup_nil
    list := rfl
    fresh := by
      intro t pc
      simp [State.initial] at pc
    members := by
      intro c member
      simp [State.initial, State.waiters, waitersOf] at member
    waiting := by
      intro t waits
      simp [State.initial, Pc.waiting] at waits }
  history := {
    token := by
      intro c sema found
      simp [State.initial] at found
    notified := by
      intro t goesOn
      simp [State.initial, Pc.afterToken] at goesOn
    finite := by
      intro t goesOn
      simp [State.initial, Pc.afterTimeout] at goesOn
    leftNotified := by
      intro c usec owns logged
      simp [State.initial] at logged
    leftFinite := by
      intro c usec owns logged
      simp [State.initial] at logged
    leftOver := by
      intro c usec exit owns logged
      simp [State.initial] at logged }

theorem Taken.invariants {freq : Int} {s s' : State} {t : ThreadId} {answer : Answer}
    (taken : Taken freq s t answer s') (inv : Invariants freq s) : Invariants freq s' where
  mutex := taken.mutexInv inv.mutex
  lock := taken.lockInv inv.lock
  sema := taken.semaInv inv.sema
  queue := taken.queueInv inv.mutex inv.queue
  history := taken.historyInv inv.history

open ActionSystem in
theorem run_invariants {freq : Int} {allowed : State → Action → Prop} {acts : List Action}
    {s : State} (run : Run (system freq) allowed acts s) : Invariants freq s := by
  refine run.invariant (Invariants freq) (.initial freq) ?_
  intro s a s' inv _ taken
  exact (step_taken taken).2.invariants inv

end CmsisCpp.ConditionVariable
