import Mathlib.Tactic.Common
import CmsisCpp.Timer.Model

/-! # What a step of the timers can do

`Taken s a s'` lists, one constructor each, the outcomes of a step with the guard
under which it happens; `step_taken` is the inversion of the executable step
function.  Every OS timer belongs to the `cmsis_timer` that is its argument. -/
set_option autoImplicit false

namespace CmsisCpp.Timer

open ActionSystem CallScript

namespace State

def isRunning (s : State) (i : ImplId) : Bool :=
  match s.impls i with
  | none => false
  | some timer => ((s.osTimers timer.id).map OsTimer.running).getD false

def deletes (s : State) : Action → Option ImplId
  | .user (.destroy o) _ => (s.objs o).join
  | .user (.moveAssign o source) _ => if o = source then none else (s.objs o).join
  | _ => none

def starts (s : State) : Action → Option ImplId
  | .user (.start o) env => if env.startStatus = .osOK then (s.objs o).join else none
  | _ => none

def setRunning (s : State) (id : Handle) (timer : OsTimer) (running : Bool) : State :=
  { s with osTimers := Function.update s.osTimers id (some { timer with running := running }) }

end State

/-- The expiry with whose argument the handler goes on. -/
def HandlerPc.argument : HandlerPc → Option Expiry
  | .check e | .invoke e | .stop e => some e
  | .idle | .callback _ => none

/-- The expiry that the handler has not given to the callback yet. -/
def HandlerPc.undelivered : HandlerPc → Option Expiry
  | .check e | .invoke e => some e
  | .idle | .callback _ | .stop _ => none

inductive Taken (s : State) (a : Action) : State → Prop
  | objects (objs : ObjId → Option (Option ImplId)) : Taken s a { s with objs := objs }
  | constructed {objs : ObjId → Option (Option ImplId)} {id : Handle} {usec : Int}
      {type : TimerType} (fresh : s.osTimers id = none) :
      Taken s a { s with
        objs := objs
        osTimers := Function.update s.osTimers id (some ⟨type, s.allocated, false⟩)
        impls := Function.update s.impls s.allocated (some ⟨id, usec⟩)
        allocated := s.allocated + 1 }
  | deleted {objs : ObjId → Option (Option ImplId)} {i : ImplId} {timer : CmsisTimer}
      (deletes : s.deletes a = some i) (found : s.impls i = some timer) :
      Taken s a { s with
        objs := objs
        osTimers := Function.update s.osTimers timer.id none
        impls := Function.update s.impls i none }
  | started {i : ImplId} {timer : CmsisTimer} {osTimer : OsTimer} (starts : s.starts a = some i)
      (found : s.impls i = some timer) (os : s.osTimers timer.id = some osTimer) :
      Taken s a ((s.setRunning timer.id osTimer true).record [.started i])
  | stopped {i : ImplId} {timer : CmsisTimer} {osTimer : OsTimer} (found : s.impls i = some timer)
      (os : s.osTimers timer.id = some osTimer) :
      Taken s a ((s.setRunning timer.id osTimer false).record [.stopped i])
  | expired {id : Handle} {osTimer : OsTimer} (os : s.osTimers id = some osTimer)
      (running : osTimer.running = true) :
      Taken s a (State.record { s.setRunning id osTimer (osTimer.type = .osTimerPeriodic : Bool) with
        queue := s.queue ++ [⟨s.expiries, osTimer.argument⟩]
        expiries := s.expiries + 1 } [.expired ⟨s.expiries, osTimer.argument⟩])
  | dispatched {e : Expiry} {rest : List Expiry} (idle : s.handler = .idle)
      (queue : s.queue = e :: rest) : Taken s a { s with queue := rest, handler := .check e }
  | passed {e : Expiry} (act : a = .check) (checking : s.handler = .check e)
      (running : s.isRunning e.argument = true) :
      Taken s a ({ s with handler := .invoke e }.record [.passed e])
  | dropped {e : Expiry} (act : a = .check) (checking : s.handler = .check e)
      (notRunning : s.isRunning e.argument = false) : Taken s a (s.handled e)
  | invoked {e : Expiry} {timer : CmsisTimer} (invoking : s.handler = .invoke e)
      (found : s.impls e.argument = some timer) :
      Taken s a ({ s with handler := .callback e }.record [.invoked e])
  | satisfied {e : Expiry} (calling : s.handler = .callback e) : Taken s a (s.handled e)
  | unsatisfied {e : Expiry} (act : a = .callback false) (calling : s.handler = .callback e) :
      Taken s a { s with handler := .stop e }
  | handlerStopped {e : Expiry} {timer : CmsisTimer} {osTimer : OsTimer}
      (stopping : s.handler = .stop e) (found : s.impls e.argument = some timer)
      (os : s.osTimers timer.id = some osTimer) :
      Taken s a (((s.setRunning timer.id osTimer false).record [.stopped e.argument]).handled e)
  | handlerThrew : Taken s a { s with status := .terminated }
  | destroyed {e : Expiry} (argument : s.handler.argument = some e)
      (missing : s.impls e.argument = none) : Taken s a { s with status := .undefined }

section Inversion
variable {freq : Int} {s s' : State} {a : Action}

theorem call_destroy (env : Environment) (timer : CmsisTimer) :
    (s.call env (destroy timer.id)).2 =
      { s with osTimers := Function.update s.osTimers timer.id none } := by
  cases os : s.osTimers timer.id with
  | none => simp [State.call, destroy, expectOk, kernel, os]
  | some osTimer => simp [State.call, destroy, expectOk, kernel, os]

theorem deleteImpl_taken {objs : ObjId → Option (Option ImplId)} {env : Environment}
    {impl : Option ImplId} (deletes : s.deletes a = impl) :
    Taken s a ({ s with objs := objs }.deleteImpl env impl) := by
  cases impl with
  | none => exact .objects objs
  | some i =>
      cases found : s.impls i with
      | none =>
          simp only [State.deleteImpl, found]
          exact .objects objs
      | some timer =>
          simp only [State.deleteImpl, found, call_destroy]
          exact .deleted deletes found

theorem construct_taken {env : Environment} {o : ObjId} {usec : Int} {hasCallback once : Bool}
    (taken : s.construct env o usec hasCallback once = some s') : Taken s a s' := by
  simp only [State.construct, Option.ite_none_right_eq_some] at taken
  obtain ⟨_, taken⟩ := taken
  by_cases refused : hasCallback = false ∨ usec < 0 ∨ env.newId = 0 ∨ s.osTimers env.newId ≠ none
  · have unchanged : some s = some s' := by
      rw [← taken]
      rcases refused with missing | negative | refused
      · simp [State.call, cmsisTimer, missing]
      · by_cases missing : hasCallback = false <;>
          simp [State.call, cmsisTimer, missing, negative]
      · by_cases missing : hasCallback = false <;> by_cases negative : usec < 0 <;>
          simp [State.call, cmsisTimer, missing, negative, refused, kernel]
    cases unchanged
    exact .objects s.objs
  · push Not at refused
    obtain ⟨callback, nonneg, valid, fresh⟩ := refused
    have created : ∃ type, some { s with
        objs := Function.update s.objs o (some (some s.allocated))
        osTimers := Function.update s.osTimers env.newId (some ⟨type, s.allocated, false⟩)
        impls := Function.update s.impls s.allocated (some ⟨env.newId, usec⟩)
        allocated := s.allocated + 1 } = some s' := by
      refine ⟨if once then .osTimerOnce else .osTimerPeriodic, ?_⟩
      rw [← taken]
      simp [State.call, cmsisTimer, callback, not_lt.mpr nonneg, valid, fresh, kernel]
    obtain ⟨type, created⟩ := created
    cases created
    exact .constructed fresh

theorem start_taken {env : Environment} {o : ObjId} (act : a = .user (.start o) env)
    (taken : s.userStep freq env (.start o) = some s') : Taken s a s' := by
  simp only [State.userStep, State.onImpl] at taken
  split at taken
  · contradiction
  · cases taken
    exact .objects s.objs
  · rename_i i object
    split at taken
    · contradiction
    · rename_i timer found
      cases os : s.osTimers timer.id with
      | none =>
          simp [State.call, start, kernel, os, expectOk] at taken
          exact taken ▸ .objects s.objs
      | some osTimer =>
          by_cases ok : env.startStatus = .osOK
          · have starts : s.starts a = some i := by
              simp [act, State.starts, ok, object]
            simp [State.call, start, kernel, os, expectOk, ok] at taken
            exact taken ▸ .started starts found os
          · simp [State.call, start, kernel, os, expectOk, ok] at taken
            exact taken ▸ .objects s.objs

theorem call_stop (env : Environment) (timer : CmsisTimer) :
    (∃ error, s.call env (stop timer.id) = (.error error, s)) ∨
      ∃ osTimer, s.osTimers timer.id = some osTimer ∧
        s.call env (stop timer.id) = (.ok (), s.setRunning timer.id osTimer false) := by
  cases os : s.osTimers timer.id with
  | none =>
      left
      simp [State.call, stop, kernel, os, expectOk]
  | some osTimer =>
      cases running : osTimer.running with
      | false =>
          left
          simp [State.call, stop, kernel, os, running, expectOk]
      | true =>
          right
          refine ⟨osTimer, rfl, ?_⟩
          simp [State.call, stop, kernel, os, running, expectOk, State.setRunning]

theorem stop_taken {env : Environment} {o : ObjId}
    (taken : s.userStep freq env (.stop o) = some s') : Taken s a s' := by
  simp only [State.userStep, State.onImpl] at taken
  split at taken
  · contradiction
  · cases taken
    exact .objects s.objs
  · split at taken
    · contradiction
    · rename_i timer found
      rcases call_stop (s := s) env timer with ⟨error, called⟩ | ⟨osTimer, os, called⟩
      · simp only [called, Option.some.injEq] at taken
        exact taken ▸ .objects s.objs
      · simp only [called, Option.some.injEq] at taken
        exact taken ▸ .stopped found os

theorem userStep_taken {env : Environment} {op : Operation}
    (taken : s.userStep freq env op = some s') : Taken s (.user op env) s' := by
  cases op with
  | default o =>
      simp only [State.userStep, Option.ite_none_right_eq_some, Option.some.injEq] at taken
      obtain ⟨_, rfl⟩ := taken
      exact .objects _
  | construct o usec hasCallback once => exact construct_taken taken
  | moveConstruct o source =>
      simp only [State.userStep] at taken
      split at taken
      · cases taken
        exact .objects _
      · contradiction
  | moveAssign o source =>
      simp only [State.userStep] at taken
      split at taken
      · rename_i old impl target given
        split at taken
        · cases taken
          exact .objects s.objs
        · rename_i different
          cases taken
          exact deleteImpl_taken (by simp [State.deletes, different, target])
      · contradiction
  | swap o other =>
      simp only [State.userStep] at taken
      split at taken
      · cases taken
        exact .objects _
      · contradiction
  | start o => exact start_taken rfl taken
  | stop o => exact stop_taken taken
  | destroy o =>
      simp only [State.userStep] at taken
      split at taken
      · rename_i impl target
        cases taken
        exact deleteImpl_taken (by simp [State.deletes, target])
      · contradiction

theorem expire_taken {id : Handle} (taken : s.expire id = some s') : Taken s a s' := by
  unfold State.expire at taken
  split at taken
  · rename_i osTimer os
    simp only [Option.ite_none_right_eq_some, Option.some.injEq] at taken
    obtain ⟨running, rfl⟩ := taken
    exact .expired os running
  · contradiction

theorem checkRunning_taken {e : Expiry} {timer : CmsisTimer} (checking : s.handler = .check e)
    (found : s.impls e.argument = some timer) : Taken s .check (s.checkRunning e timer) := by
  have called : s.call State.handlerEnv (running timer.id) = (.ok (s.isRunning e.argument), s) := by
    simp [State.call, running, kernel, State.isRunning, found]
  simp only [State.checkRunning, called]
  cases running : s.isRunning e.argument with
  | true => exact .passed rfl checking running
  | false => exact .dropped rfl checking running

theorem handlerStop_taken {e : Expiry} {timer : CmsisTimer} (stopping : s.handler = .stop e)
    (found : s.impls e.argument = some timer) : Taken s a (s.handlerStop e timer) := by
  rcases call_stop (s := s) State.handlerEnv timer with ⟨error, called⟩ | ⟨osTimer, os, called⟩
  · simp only [State.handlerStop, called]
    exact .handlerThrew
  · simp only [State.handlerStop, called]
    exact .handlerStopped stopping found os

theorem handlerStep_taken (taken : s.handlerStep a = some s') : Taken s a s' := by
  unfold State.handlerStep at taken
  split at taken
  case h_1 idle =>
      split at taken
      · contradiction
      · rename_i queue
        cases taken
        exact .dispatched idle queue
  case h_2 e checking =>
      split at taken
      · rename_i missing
        cases taken
        exact .destroyed (by rw [checking]; rfl) missing
      · rename_i timer found
        cases taken
        exact checkRunning_taken checking found
  case h_3 e invoking =>
      split at taken
      · rename_i missing
        cases taken
        exact .destroyed (by rw [invoking]; rfl) missing
      · rename_i timer found
        cases taken
        exact .invoked invoking found
  case h_4 e result calling =>
      split at taken
      · cases taken
        exact .satisfied calling
      · rename_i unsatisfied
        rw [Bool.not_eq_true] at unsatisfied
        cases taken
        exact .unsatisfied (by rw [unsatisfied]) calling
  case h_5 e stopping =>
      split at taken
      · rename_i missing
        cases taken
        exact .destroyed (by rw [stopping]; rfl) missing
      · rename_i timer found
        cases taken
        exact handlerStop_taken stopping found
  case h_6 => contradiction

theorem step_taken (taken : s.step freq a = some s') : Taken s a s' := by
  simp only [State.step, Option.ite_none_right_eq_some] at taken
  obtain ⟨_, taken⟩ := taken
  cases a with
  | user op env => exact userStep_taken taken
  | expire id => exact expire_taken taken
  | dispatch => exact handlerStep_taken taken
  | check => exact handlerStep_taken taken
  | invoke => exact handlerStep_taken taken
  | callback result => exact handlerStep_taken taken
  | handlerStop => exact handlerStep_taken taken

end Inversion

/-! ## The OS timers and their arguments -/

structure TimerInv (s : State) : Prop where
  argument : ∀ id osTimer, s.osTimers id = some osTimer →
    ∃ timer, s.impls osTimer.argument = some timer ∧ timer.id = id
  impl : ∀ i timer, s.impls i = some timer →
    i < s.allocated ∧ ∃ osTimer, s.osTimers timer.id = some osTimer ∧ osTimer.argument = i

section Timers
variable {freq : Int} {s s' : State} {a : Action}

theorem TimerInv.unique {i j : ImplId} {timer timer' : CmsisTimer} (inv : TimerInv s)
    (found : s.impls i = some timer) (found' : s.impls j = some timer')
    (same : timer.id = timer'.id) : i = j := by
  obtain ⟨_, osTimer, os, argument⟩ := inv.impl i timer found
  obtain ⟨_, osTimer', os', argument'⟩ := inv.impl j timer' found'
  rw [same, os', Option.some.injEq] at os
  rw [← argument, ← argument', os]

theorem TimerInv.setRunning {id : Handle} {osTimer : OsTimer} (inv : TimerInv s)
    (os : s.osTimers id = some osTimer) (running : Bool) :
    TimerInv (s.setRunning id osTimer running) where
  argument := by
    intro id' osTimer' os'
    by_cases same : id' = id
    · subst same
      simp only [State.setRunning, Function.update_self, Option.some.injEq] at os'
      subst os'
      exact inv.argument id' osTimer os
    · simp only [State.setRunning, Function.update_of_ne same] at os'
      exact inv.argument id' osTimer' os'
  impl := by
    intro i timer found
    obtain ⟨allocated, osTimer', os', argument⟩ := inv.impl i timer found
    refine ⟨allocated, ?_⟩
    by_cases same : timer.id = id
    · rw [same, os, Option.some.injEq] at os'
      exact ⟨{ osTimer with running := running }, by simp [State.setRunning, same],
        by rw [← argument, ← os']⟩
    · exact ⟨osTimer', by simp [State.setRunning, same, os'], argument⟩

theorem TimerInv.constructed {id : Handle} {usec : Int} {type : TimerType}
    {objs : ObjId → Option (Option ImplId)} (inv : TimerInv s) (fresh : s.osTimers id = none) :
    TimerInv { s with
      objs := objs
      osTimers := Function.update s.osTimers id (some ⟨type, s.allocated, false⟩)
      impls := Function.update s.impls s.allocated (some ⟨id, usec⟩)
      allocated := s.allocated + 1 } where
  argument := by
    intro id' osTimer' os'
    by_cases same : id' = id
    · subst same
      simp only [Function.update_self, Option.some.injEq] at os'
      subst os'
      exact ⟨⟨id', usec⟩, by simp, rfl⟩
    · simp only [Function.update_of_ne same] at os'
      obtain ⟨timer, found, sameId⟩ := inv.argument id' osTimer' os'
      have old := (inv.impl _ timer found).1
      exact ⟨timer, by simp [old.ne, found], sameId⟩
  impl := by
    intro i timer found
    by_cases new : i = s.allocated
    · subst new
      simp only [Function.update_self, Option.some.injEq] at found
      subst found
      exact ⟨Nat.lt_succ_self _, ⟨type, s.allocated, false⟩, by simp, rfl⟩
    · simp only [Function.update_of_ne new] at found
      obtain ⟨old, osTimer, os, argument⟩ := inv.impl i timer found
      have differs : timer.id ≠ id := by
        rintro rfl
        simp [fresh] at os
      exact ⟨Nat.lt_succ_of_lt old, osTimer, by simp [differs, os], argument⟩

theorem TimerInv.deleted {i : ImplId} {timer : CmsisTimer}
    {objs : ObjId → Option (Option ImplId)} (inv : TimerInv s) (found : s.impls i = some timer) :
    TimerInv { s with
      objs := objs
      osTimers := Function.update s.osTimers timer.id none
      impls := Function.update s.impls i none } where
  argument := by
    intro id osTimer os
    have differs : id ≠ timer.id := by
      rintro rfl
      simp at os
    simp only [Function.update_of_ne differs] at os
    obtain ⟨timer', found', sameId⟩ := inv.argument id osTimer os
    have other : osTimer.argument ≠ i := by
      rintro rfl
      rw [found, Option.some.injEq] at found'
      exact differs (by rw [← sameId, found'])
    exact ⟨timer', by simp [other, found'], sameId⟩
  impl := by
    intro j timer' found'
    have other : j ≠ i := by
      rintro rfl
      simp at found'
    simp only [Function.update_of_ne other] at found'
    obtain ⟨allocated, osTimer, os, argument⟩ := inv.impl j timer' found'
    have differs : timer'.id ≠ timer.id := fun same => other (inv.unique found' found same)
    exact ⟨allocated, osTimer, by simp [differs, os], argument⟩

theorem Taken.timerInv (taken : Taken s a s') (inv : TimerInv s) : TimerInv s' := by
  cases taken with
  | constructed fresh => exact inv.constructed fresh
  | deleted deletes found => exact inv.deleted found
  | started starts found os =>
      have set := inv.setRunning os true
      exact ⟨set.argument, set.impl⟩
  | stopped found os =>
      have set := inv.setRunning os false
      exact ⟨set.argument, set.impl⟩
  | handlerStopped stopping found os =>
      have set := inv.setRunning os false
      exact ⟨set.argument, set.impl⟩
  | @expired id osTimer os running =>
      have set := inv.setRunning os (osTimer.type = .osTimerPeriodic)
      exact ⟨set.argument, set.impl⟩
  | _ => exact ⟨inv.argument, inv.impl⟩

theorem run_timerInv {freq : Int} {allowed : State → Action → Prop} {acts : List Action}
    {s : State} (run : Run (system freq) allowed acts s) : TimerInv s := by
  refine run.invariant TimerInv ?_ ?_
  · constructor <;> simp [system, State.initial]
  · intro s a s' inv _ taken
    exact (step_taken taken).timerInv inv

theorem alive_of_isRunning {i : ImplId} (running : s.isRunning i = true) :
    ∃ timer, s.impls i = some timer := by
  cases found : s.impls i with
  | none => simp [State.isRunning, found] at running
  | some timer => exact ⟨timer, rfl⟩

theorem TimerInv.isRunning_argument {id : Handle} {osTimer : OsTimer} (inv : TimerInv s)
    (os : s.osTimers id = some osTimer) : s.isRunning osTimer.argument = osTimer.running := by
  obtain ⟨timer, found, rfl⟩ := inv.argument id osTimer os
  simp [State.isRunning, found, os]

/-! ## Where an expiry comes from -/

variable {e : Expiry}

/-- A queued expiry was queued before, or its running timer has just expired. -/
theorem Taken.queued_before (taken : Taken s a s') (inv : TimerInv s) (member : e ∈ s'.queue) :
    e ∈ s.queue ∨ (e.serial = s.expiries ∧ s.isRunning e.argument = true ∧
      s'.impls = s.impls ∧ s'.log = s.log ++ [.expired e]) := by
  cases taken with
  | expired os running =>
      rcases List.mem_append.mp member with old | new
      · exact .inl old
      · right
        rw [List.mem_singleton.mp new]
        exact ⟨rfl, (inv.isRunning_argument os).trans running, rfl, rfl⟩
  | dispatched idle queue =>
      left
      rw [queue]
      exact List.mem_cons_of_mem _ member
  | _ => exact .inl member

theorem Taken.checking_before (taken : Taken s a s') (checking : s'.handler = .check e) :
    s.handler = .check e ∨ e ∈ s.queue := by
  cases taken with
  | dispatched idle queue =>
      right
      rw [queue, ← HandlerPc.check.inj checking]
      exact List.mem_cons_self
  | passed act checked running => contradiction
  | dropped act checked notRunning => contradiction
  | invoked invoking found => contradiction
  | satisfied calling => contradiction
  | unsatisfied act calling => contradiction
  | handlerStopped stopping found os => contradiction
  | _ => exact .inl checking

theorem Taken.invoking_before (taken : Taken s a s') (invoking : s'.handler = .invoke e) :
    s.handler = .invoke e ∨ (s.handler = .check e ∧ s.isRunning e.argument = true ∧
      s'.log = s.log ++ [.passed e]) := by
  cases taken with
  | dispatched idle queue => contradiction
  | passed act checked running =>
      right
      rw [← HandlerPc.invoke.inj invoking]
      exact ⟨checked, running, rfl⟩
  | dropped act checked notRunning => contradiction
  | invoked invoking found => contradiction
  | satisfied calling => contradiction
  | unsatisfied act calling => contradiction
  | handlerStopped stopping found os => contradiction
  | _ => exact .inl invoking

theorem Taken.stopping_before (taken : Taken s a s') (stopping : s'.handler = .stop e) :
    s.handler = .stop e ∨
      (a = .callback false ∧ s.handler = .callback e ∧ s'.impls = s.impls) := by
  cases taken with
  | dispatched idle queue => contradiction
  | passed act checked running => contradiction
  | dropped act checked notRunning => contradiction
  | invoked invoking found => contradiction
  | satisfied calling => contradiction
  | unsatisfied act calling =>
      right
      rw [← HandlerPc.stop.inj stopping]
      exact ⟨act, calling, rfl⟩
  | handlerStopped stopping found os => contradiction
  | _ => exact .inl stopping

end Timers

end CmsisCpp.Timer
