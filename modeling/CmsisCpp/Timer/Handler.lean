import CmsisCpp.Timer.Steps

/-! # How an invocation of the handler ends

Source: `cmsis_timer::handler` in `src/Timer.cpp`.  The handler looks whether the timer is
running before it calls the callback, and stops the timer when the callback has
returned false.  In between, the callback and other threads start and stop the timer
as they like; stopping a timer that is not running throws. -/
set_option autoImplicit false

namespace CmsisCpp.Timer

open ActionSystem CallScript

/-! ## Who can end the timer thread -/

section Status
variable {freq : Int} {s s' : State} {a : Action} {env : Environment}

theorem deleteImpl_status (impl : Option ImplId) : (s.deleteImpl env impl).status = s.status := by
  cases impl with
  | none => rfl
  | some i =>
      rw [State.deleteImpl]
      cases s.impls i with
      | none => rfl
      | some timer => rfl

theorem onImpl_status {o : ObjId} {script : CmsisTimer → Script timerSig SystemError Unit}
    {event : ImplId → Event} (taken : s.onImpl env o script event = some s') :
    s'.status = s.status := by
  unfold State.onImpl at taken
  split at taken
  · contradiction
  · cases taken
    rfl
  · split at taken
    · contradiction
    · dsimp only at taken
      split at taken
      · cases taken
        rfl
      · cases taken
        rfl

theorem construct_status {o : ObjId} {usec : Int} {hasCallback once : Bool}
    (taken : s.construct env o usec hasCallback once = some s') : s'.status = s.status := by
  simp only [State.construct, Option.ite_none_right_eq_some] at taken
  obtain ⟨_, taken⟩ := taken
  split at taken
  · cases taken
    rfl
  · cases taken
    rfl

/-- An exception of a user's call goes to the user. -/
theorem userStep_status {op : Operation} (taken : s.userStep freq env op = some s') :
    s'.status = s.status := by
  cases op with
  | default o =>
      simp only [State.userStep, Option.ite_none_right_eq_some, Option.some.injEq] at taken
      rw [← taken.2]
      rfl
  | construct o usec hasCallback once => exact construct_status taken
  | moveConstruct o source =>
      simp only [State.userStep] at taken
      split at taken
      · cases taken
        rfl
      · contradiction
  | moveAssign o source =>
      simp only [State.userStep] at taken
      split at taken
      · split at taken
        · cases taken
          rfl
        · cases taken
          exact deleteImpl_status _
      · contradiction
  | swap o other =>
      simp only [State.userStep] at taken
      split at taken
      · cases taken
        rfl
      · contradiction
  | start o => exact onImpl_status taken
  | stop o => exact onImpl_status taken
  | destroy o =>
      simp only [State.userStep] at taken
      split at taken
      · cases taken
        exact deleteImpl_status _
      · contradiction

theorem expire_status {id : Handle} (taken : s.expire id = some s') : s'.status = s.status := by
  unfold State.expire at taken
  split at taken
  · simp only [Option.ite_none_right_eq_some, Option.some.injEq] at taken
    rw [← taken.2]
  · contradiction

/-! ## The steps of the handler -/

theorem call_running (timer : CmsisTimer) :
    s.call env (running timer.id) =
      (.ok (((s.osTimers timer.id).map OsTimer.running).getD false), s) := rfl

theorem checkRunning_cases (e : Expiry) (timer : CmsisTimer) :
    (s.checkRunning e timer).status = s.status ∧
      ((s.checkRunning e timer).handler = .invoke e ∨
        (s.checkRunning e timer).handler = .idle) := by
  simp only [State.checkRunning, call_running]
  cases ((s.osTimers timer.id).map OsTimer.running).getD false with
  | true => exact ⟨rfl, .inl rfl⟩
  | false => exact ⟨rfl, .inr rfl⟩

/-- `stop()` of a `cmsis_timer` that is there succeeds exactly when the timer is running,
and then it is not running any more. -/
theorem handlerStop_cases {e : Expiry} {timer : CmsisTimer}
    (found : s.impls e.argument = some timer) :
    (s.isRunning e.argument = true ∧ (s.handlerStop e timer).status = s.status ∧
        (s.handlerStop e timer).handler = .idle ∧
        (s.handlerStop e timer).isRunning e.argument = false) ∨
      (s.isRunning e.argument = false ∧ (s.handlerStop e timer).status = .terminated) := by
  have running : s.isRunning e.argument =
      ((s.osTimers timer.id).map OsTimer.running).getD false := by
    rw [State.isRunning, found]
  cases os : s.osTimers timer.id with
  | none =>
      right
      rw [running, os]
      simp [State.handlerStop, State.call, stop, kernel, os, expectOk]
  | some osTimer =>
      cases isRunning : osTimer.running with
      | false =>
          right
          rw [running, os]
          simp [State.handlerStop, State.call, stop, kernel, os, expectOk, isRunning]
      | true =>
          left
          rw [running, os]
          simp [State.handlerStop, State.call, stop, kernel, os, expectOk, isRunning, State.handled,
            State.record, State.isRunning, found]

theorem handlerStep_terminated (alive : s.status = .running) (taken : s.handlerStep a = some s')
    (escaped : s'.status = .terminated) :
    a = .handlerStop ∧ ∃ e, s.handler = .stop e ∧ s.isRunning e.argument = false := by
  unfold State.handlerStep at taken
  split at taken
  case h_1 idle =>
      split at taken
      · contradiction
      · cases taken
        cases alive.symm.trans escaped
  case h_2 e checking =>
      split at taken
      · cases taken
        cases escaped
      · rename_i timer found
        cases taken
        cases (alive.symm.trans (checkRunning_cases e timer).1.symm).trans escaped
  case h_3 e invoking =>
      split at taken
      · cases taken
        cases escaped
      · cases taken
        cases alive.symm.trans escaped
  case h_4 e result calling =>
      split at taken
      · cases taken
        cases alive.symm.trans escaped
      · cases taken
        cases alive.symm.trans escaped
  case h_5 e stopping =>
      split at taken
      · cases taken
        cases escaped
      · rename_i timer found
        cases taken
        rcases handlerStop_cases found with ⟨_, same, _⟩ | ⟨notRunning, _⟩
        · cases (alive.symm.trans same.symm).trans escaped
        · exact ⟨rfl, e, stopping, notRunning⟩
  case h_6 => contradiction

theorem step_terminated (taken : s.step freq a = some s') (escaped : s'.status = .terminated) :
    a = .handlerStop ∧ ∃ e, s.handler = .stop e ∧ s.isRunning e.argument = false := by
  simp only [State.step, Option.ite_none_right_eq_some] at taken
  obtain ⟨alive, taken⟩ := taken
  cases a with
  | user op env => cases (alive.symm.trans (userStep_status taken).symm).trans escaped
  | expire id => cases (alive.symm.trans (expire_status taken).symm).trans escaped
  | dispatch => exact handlerStep_terminated alive taken escaped
  | check => exact handlerStep_terminated alive taken escaped
  | invoke => exact handlerStep_terminated alive taken escaped
  | callback result => exact handlerStep_terminated alive taken escaped
  | handlerStop => exact handlerStep_terminated alive taken escaped

end Status

/-! ## The end of an invocation -/

/-- What the handler does next, where the callback answers with `result`. -/
def HandlerPc.action (result : Bool) : HandlerPc → Option Action
  | .idle => none
  | .check _ => some .check
  | .invoke _ => some .invoke
  | .callback _ => some (.callback result)
  | .stop _ => some .handlerStop

/-- A bound on the steps that the handler still has to take. -/
def HandlerPc.remaining : HandlerPc → Nat
  | .idle => 0
  | .stop _ => 1
  | .callback _ => 2
  | .invoke _ => 3
  | .check _ => 4

/-- An invocation of the handler goes on to its end, no exception has left it, and the
last step of one whose callback has returned false ends it with the timer stopped
exactly when the timer was running. -/
structure EndsCleanly (freq : Int) (s : State) : Prop where
  noEscape : s.status ≠ .terminated
  goesOn : ∀ result a, s.status = .running → s.handler.action result = some a →
    ∃ s', s.step freq a = some s' ∧
      (s'.status = .running → s'.handler.remaining < s.handler.remaining)
  stops : ∀ e s', s.handler = .stop e → s.step freq .handlerStop = some s' →
    ((s'.status = .running ∧ s'.handler = .idle ∧ s'.isRunning e.argument = false) ↔
      s.isRunning e.argument = true)

section Ends
variable {freq : Int} {s : State}

theorem step_missing {a : Action} {e : Expiry} (alive : s.status = .running)
    (next : (s.handler = .check e ∧ a = .check) ∨ (s.handler = .invoke e ∧ a = .invoke) ∨
      (s.handler = .stop e ∧ a = .handlerStop))
    (missing : s.impls e.argument = none) :
    s.step freq a = some { s with status := .undefined } := by
  rcases next with ⟨pc, rfl⟩ | ⟨pc, rfl⟩ | ⟨pc, rfl⟩
  all_goals simp [State.step, alive, State.handlerStep, pc, missing]

theorem handler_goesOn {result : Bool} {a : Action} (alive : s.status = .running)
    (next : s.handler.action result = some a) :
    ∃ s', s.step freq a = some s' ∧
      (s'.status = .running → s'.handler.remaining < s.handler.remaining) := by
  cases pc : s.handler with
  | idle =>
      rw [pc] at next
      cases next
  | check e =>
      rw [pc] at next
      cases next
      cases found : s.impls e.argument with
      | none =>
          refine ⟨_, step_missing alive (.inl ⟨pc, rfl⟩) found, ?_⟩
          intro running
          cases running
      | some timer =>
          refine ⟨s.checkRunning e timer, ?_, ?_⟩
          · simp [State.step, alive, State.handlerStep, pc, found]
          · intro _
            rcases (checkRunning_cases (s := s) e timer).2 with passed | dropped
            · rw [passed]
              exact Nat.lt_succ_self 3
            · rw [dropped]
              exact Nat.zero_lt_succ 3
  | invoke e =>
      rw [pc] at next
      cases next
      cases found : s.impls e.argument with
      | none =>
          refine ⟨_, step_missing alive (.inr (.inl ⟨pc, rfl⟩)) found, ?_⟩
          intro running
          cases running
      | some timer =>
          refine ⟨{ s with handler := .callback e }.record [.invoked e], ?_, ?_⟩
          · simp [State.step, alive, State.handlerStep, pc, found]
          · intro _
            exact Nat.lt_succ_self 2
  | callback e =>
      rw [pc] at next
      cases next
      cases result with
      | true =>
          refine ⟨s.handled e, ?_, ?_⟩
          · simp [State.step, alive, State.handlerStep, pc]
          · intro _
            exact Nat.zero_lt_succ 1
      | false =>
          refine ⟨{ s with handler := .stop e }, ?_, ?_⟩
          · simp [State.step, alive, State.handlerStep, pc]
          · intro _
            exact Nat.lt_succ_self 1
  | stop e =>
      rw [pc] at next
      cases next
      cases found : s.impls e.argument with
      | none =>
          refine ⟨_, step_missing alive (.inr (.inr ⟨pc, rfl⟩)) found, ?_⟩
          intro running
          cases running
      | some timer =>
          refine ⟨s.handlerStop e timer, ?_, ?_⟩
          · simp [State.step, alive, State.handlerStep, pc, found]
          · intro running
            rcases handlerStop_cases found with ⟨_, _, idle, _⟩ | ⟨_, escaped⟩
            · rw [idle]
              exact Nat.zero_lt_succ 0
            · cases escaped.symm.trans running

theorem handler_stops {s' : State} {e : Expiry} (stopping : s.handler = .stop e)
    (taken : s.step freq .handlerStop = some s') :
    (s'.status = .running ∧ s'.handler = .idle ∧ s'.isRunning e.argument = false) ↔
      s.isRunning e.argument = true := by
  simp only [State.step, Option.ite_none_right_eq_some, State.handlerStep, stopping] at taken
  obtain ⟨alive, taken⟩ := taken
  cases found : s.impls e.argument with
  | none =>
      simp only [found, Option.some.injEq] at taken
      rw [← taken]
      refine iff_of_false ?_ ?_
      · rintro ⟨running, _⟩
        cases running
      · rw [State.isRunning, found]
        exact Bool.false_ne_true
  | some timer =>
      simp only [found, Option.some.injEq] at taken
      rw [← taken]
      rcases handlerStop_cases found with ⟨running, same, idle, stopped⟩ | ⟨notRunning, escaped⟩
      · exact iff_of_true ⟨same.trans alive, idle, stopped⟩ running
      · refine iff_of_false ?_ ?_
        · rintro ⟨running, _⟩
          cases escaped.symm.trans running
        · rw [notRunning]
          exact Bool.false_ne_true

def StopsRunning (s : State) : Action → Prop
  | .handlerStop =>
      match s.handler with
      | .stop e => s.isRunning e.argument = true
      | _ => True
  | _ => True

instance (s : State) : (a : Action) → Decidable (StopsRunning s a)
  | .handlerStop =>
      match pc : s.handler with
      | .stop e => decidable_of_iff (s.isRunning e.argument = true) (by simp [StopsRunning, pc])
      | .idle => .isTrue (by simp [StopsRunning, pc])
      | .check _ => .isTrue (by simp [StopsRunning, pc])
      | .invoke _ => .isTrue (by simp [StopsRunning, pc])
      | .callback _ => .isTrue (by simp [StopsRunning, pc])
  | .user _ _ => .isTrue trivial
  | .expire _ => .isTrue trivial
  | .dispatch => .isTrue trivial
  | .check => .isTrue trivial
  | .invoke => .isTrue trivial
  | .callback _ => .isTrue trivial

/-- In every run in which the handler only stops running timers, whatever the callbacks and
the other threads do in between. -/
theorem handler_endsCleanly {acts : List Action} (run : Run (system freq) StopsRunning acts s) :
    EndsCleanly freq s := by
  refine ⟨?_, fun result a alive next => handler_goesOn alive next,
    fun e s' stopping taken => handler_stops stopping taken⟩
  refine run.invariant (fun s => s.status ≠ .terminated) ?_ ?_
  · intro escaped
    cases escaped
  · intro s a s' _ meets taken escaped
    obtain ⟨rfl, e, stopping, notRunning⟩ := step_terminated taken escaped
    simp only [StopsRunning, stopping, notRunning] at meets
    cases meets

end Ends

def periodicCall (within : List Operation) (result : Bool) : List Action :=
  [.user (.construct 0 1000 true false) ⟨1, .osOK⟩, .user (.start 0) ⟨0, .osOK⟩, .expire 1,
    .dispatch, .check, .invoke] ++ within.map (fun op => .user op ⟨0, .osOK⟩) ++
    [.callback result, .handlerStop]

theorem restarted_endsCleanly :
    ∃ s, Run (system 1000) StopsRunning (periodicCall [.stop 0, .start 0] false) s ∧
      EndsCleanly 1000 s := by
  have run : Run (system 1000) StopsRunning _ _ :=
    Run.replayed (periodicCall [.stop 0, .start 0] false) rfl
  exact ⟨_, run, handler_endsCleanly run⟩

/-- The callback stops its own timer and returns false. -/
theorem handler_stoppedInCallback :
    ¬ ∀ (freq : Int) (acts : List Action) (s : State),
      Run (system freq) Unrestricted acts s → s.status ≠ .terminated := by
  intro claimed
  have run : Run (system 1000) Unrestricted _ _ :=
    Run.replayed (periodicCall [.stop 0] false) rfl
  exact claimed 1000 _ _ run rfl

end CmsisCpp.Timer
