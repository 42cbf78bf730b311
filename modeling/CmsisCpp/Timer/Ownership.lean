import CmsisCpp.Library.Clients
import CmsisCpp.Library.Ownership
import CmsisCpp.Timer.Handler

/-! # Who owns an OS timer

A `timer` owns the OS timer of its `cmsis_timer`, from `osTimerNew` in the constructor to
`osTimerDelete` in the destructor.  The record of a run has every call on the OS with
its answer, so that it can be said which OS timers have been created and
deleted before a call is made. -/
set_option autoImplicit false

namespace CmsisCpp.Timer

open ActionSystem CallScript Ownership
open Clients (Answered)

/-! ## The record of the calls -/

def TimerCall.addresses : TimerCall → Option Handle
  | .osTimerNew _ _ => none
  | .osTimerDelete id | .osTimerStart id _ | .osTimerStop id | .osTimerIsRunning id => some id

/-- The OS timer that a call has created; `0` is a failure. -/
def createdBy : Answered timerSig → Option Handle
  | ⟨.osTimerNew _ _, (id : Handle)⟩ => if id = 0 then none else some id
  | _ => none

/-- The OS timer that a call asks to delete, whatever the answer. -/
def deletedBy : Answered timerSig → Option Handle
  | ⟨.osTimerDelete id, _⟩ => some id
  | _ => none

namespace State

def timerOf (s : State) (o : ObjId) : Option CmsisTimer := (s.objs o).join.bind s.impls

/-- The calls of a member function of a `cmsis_timer`; none makes more than one. -/
def answers {Val : Type} (s : State) (env : Environment)
    (script : Script timerSig SystemError Val) : List (Answered timerSig) :=
  (script.trace fun call => (kernel env call s.osTimers).1).map fun call =>
    ⟨call, (kernel env call s.osTimers).1⟩

def implAnswers {Val : Type} (s : State) (env : Environment) (impl : Option CmsisTimer)
    (script : CmsisTimer → Script timerSig SystemError Val) : List (Answered timerSig) :=
  match impl with
  | none => []
  | some timer => s.answers env (script timer)

def handlerAnswers (s : State) : Action → List (Answered timerSig)
  | .check =>
      match s.handler with
      | .check e => s.implAnswers handlerEnv (s.impls e.argument) fun timer => running timer.id
      | _ => []
  | .handlerStop =>
      match s.handler with
      | .stop e => s.implAnswers handlerEnv (s.impls e.argument) fun timer => stop timer.id
      | _ => []
  | _ => []

def calls (freq : Int) (s : State) : Action → List (Answered timerSig)
  | .user (.construct _ usec hasCallback once) env =>
      s.answers env (cmsisTimer s.allocated usec hasCallback once)
  | .user (.moveAssign o source) env =>
      if o = source then [] else s.implAnswers env (s.timerOf o) fun timer => destroy timer.id
  | .user (.destroy o) env => s.implAnswers env (s.timerOf o) fun timer => destroy timer.id
  | .user (.start o) env =>
      s.implAnswers env (s.timerOf o) fun timer => start freq timer.id timer.usec
  | .user (.stop o) env => s.implAnswers env (s.timerOf o) fun timer => stop timer.id
  | .user _ _ => []
  | a => s.handlerAnswers a

def estate (s : State) (record : List (Answered timerSig)) : Estate ObjId Handle where
  holds o := (s.timerOf o).map CmsisTimer.id
  live id := (s.osTimers id).isSome = true
  created := record.filterMap createdBy
  deleted := record.filterMap deletedBy

end State

/-- The timers in a run in which every call on the OS is recorded. -/
def recorded (freq : Int) : ActionSystem (State × List (Answered timerSig)) Action :=
  (system freq).observed (State.calls freq)

/-- Each call names an OS timer that was created before and has not been deleted since. -/
def AddressesLive (record : List (Answered timerSig)) : Prop :=
  ∀ front answered back, record = front ++ answered :: back →
    ∀ id, answered.call.addresses = some id →
      (front.filterMap createdBy).count id = (front.filterMap deletedBy).count id + 1

structure OwnsTimers (s : State) (record : List (Answered timerSig)) : Prop where
  owned : Owned (s.estate record)
  addressed : AddressesLive record
  handled : ∀ o i, s.objs o = some (some i) → ∃ timer osTimer, s.impls i = some timer ∧
    s.osTimers timer.id = some osTimer ∧ osTimer.argument = i

/-! ## One call at a time -/

section Calls
variable {freq : Int} {s : State} {a : Action} {record new : List (Answered timerSig)}

def OneCall (s : State) (calls : List (Answered timerSig)) : Prop :=
  calls = [] ∨ ∃ answered, calls = [answered] ∧ ∀ id, answered.call.addresses = some id →
    ∃ i timer, s.impls i = some timer ∧ timer.id = id

theorem answers_ask {Val : Type} {env : Environment} {call : TimerCall}
    {next : timerSig.Reply call → Script timerSig SystemError Val}
    (last : ∀ table reply, (next reply).trace table = []) :
    s.answers env (.ask call next) = [⟨call, (kernel env call s.osTimers).1⟩] := by
  rw [State.answers, Script.trace_ask, last]
  rfl

theorem destroy_answers (s : State) (env : Environment) (id : Handle) :
    s.answers env (destroy id) =
      [⟨.osTimerDelete id, (kernel env (.osTimerDelete id) s.osTimers).1⟩] :=
  answers_ask fun table reply => expectOk_trace table reply _

theorem start_answers (s : State) (env : Environment) (freq : Int) (id : Handle) (usec : Int) :
    s.answers env (start freq id usec) = [⟨.osTimerStart id (timeoutTicks freq usec),
      (kernel env (.osTimerStart id (timeoutTicks freq usec)) s.osTimers).1⟩] :=
  answers_ask fun table reply => expectOk_trace table reply _

theorem stop_answers (s : State) (env : Environment) (id : Handle) :
    s.answers env (stop id) = [⟨.osTimerStop id, (kernel env (.osTimerStop id) s.osTimers).1⟩] :=
  answers_ask fun table reply => expectOk_trace table reply _

theorem running_answers (s : State) (env : Environment) (id : Handle) :
    s.answers env (running id) =
      [⟨.osTimerIsRunning id, (kernel env (.osTimerIsRunning id) s.osTimers).1⟩] :=
  answers_ask fun _ _ => rfl

theorem implAnswers_oneCall {Val : Type} {env : Environment} {impl : Option CmsisTimer}
    {script : CmsisTimer → Script timerSig SystemError Val}
    (owned : ∀ timer, impl = some timer → ∃ i, s.impls i = some timer)
    (one : ∀ timer, ∃ answered : Answered timerSig, s.answers env (script timer) = [answered] ∧
      answered.call.addresses = some timer.id) : OneCall s (s.implAnswers env impl script) := by
  cases impl with
  | none => exact .inl rfl
  | some timer =>
      obtain ⟨i, found⟩ := owned timer rfl
      obtain ⟨answered, only, addresses⟩ := one timer
      refine .inr ⟨answered, only, ?_⟩
      intro id named
      rw [addresses, Option.some.injEq] at named
      exact ⟨i, timer, found, named⟩

theorem timerOf_owned {o : ObjId} {timer : CmsisTimer} (owns : s.timerOf o = some timer) :
    ∃ i, s.impls i = some timer := by
  obtain ⟨i, _, found⟩ := Option.bind_eq_some_iff.mp owns
  exact ⟨i, found⟩

theorem construct_oneCall (s : State) (env : Environment) (usec : Int) (hasCallback once : Bool) :
    OneCall s (s.answers env (cmsisTimer s.allocated usec hasCallback once)) := by
  unfold cmsisTimer
  split
  · exact .inl rfl
  · split
    · exact .inl rfl
    · refine .inr ⟨_, answers_ask ?_, by simp [TimerCall.addresses]⟩
      intro table (id : Handle)
      split <;> rfl

theorem calls_oneCall (freq : Int) (s : State) (a : Action) : OneCall s (s.calls freq a) := by
  cases a with
  | user op env =>
      cases op with
      | construct o usec hasCallback once => exact construct_oneCall s env usec hasCallback once
      | moveAssign o source =>
          simp only [State.calls]
          split
          · exact .inl rfl
          · exact implAnswers_oneCall (fun _ => timerOf_owned) fun timer =>
              ⟨_, destroy_answers s env timer.id, rfl⟩
      | destroy o =>
          exact implAnswers_oneCall (fun _ => timerOf_owned) fun timer =>
            ⟨_, destroy_answers s env timer.id, rfl⟩
      | start o =>
          exact implAnswers_oneCall (fun _ => timerOf_owned) fun timer =>
            ⟨_, start_answers s env freq timer.id timer.usec, rfl⟩
      | stop o =>
          exact implAnswers_oneCall (fun _ => timerOf_owned) fun timer =>
            ⟨_, stop_answers s env timer.id, rfl⟩
      | _ => exact .inl rfl
  | check =>
      simp only [State.calls, State.handlerAnswers]
      split
      · exact implAnswers_oneCall (fun _ found => ⟨_, found⟩) fun timer =>
          ⟨_, running_answers s _ timer.id, rfl⟩
      · exact .inl rfl
  | handlerStop =>
      simp only [State.calls, State.handlerAnswers]
      split
      · exact implAnswers_oneCall (fun _ found => ⟨_, found⟩) fun timer =>
          ⟨_, stop_answers s _ timer.id, rfl⟩
      · exact .inl rfl
  | _ => exact .inl rfl

end Calls

/-! ## What a step does to the owners -/

section Step
variable {freq : Int} {s s' : State} {a : Action} {env : Environment}
  {record new : List (Answered timerSig)}

def ImplsThere (s : State) : Prop :=
  ∀ o i, s.objs o = some (some i) → ∃ timer, s.impls i = some timer

structure Keeps (s s' : State) : Prop where
  objs : s'.objs = s.objs
  impls : s'.impls = s.impls
  live : ∀ id, (s'.osTimers id).isSome = (s.osTimers id).isSome

theorem Keeps.estate (keeps : Keeps s s') (noneCreated : new.filterMap createdBy = [])
    (noneDeleted : new.filterMap deletedBy = []) :
    s'.estate (record ++ new) = s.estate record := by
  simp only [State.estate, State.timerOf, keeps.objs, keeps.impls, keeps.live,
    List.filterMap_append, noneCreated, noneDeleted, List.append_nil]

theorem Keeps.implsThere (keeps : Keeps s s') (there : ImplsThere s) : ImplsThere s' := by
  intro o i owns
  rw [keeps.objs] at owns
  rw [keeps.impls]
  exact there o i owns

structure Moves (s s' : State) (record new : List (Answered timerSig)) : Prop where
  transfers : Transfers (s.estate record) (s'.estate (record ++ new))
  there : ImplsThere s'

theorem Keeps.moves (keeps : Keeps s s') (there : ImplsThere s)
    (quiet : new.filterMap createdBy = [] ∧ new.filterMap deletedBy = []) :
    Moves s s' record new where
  transfers := by
    rw [keeps.estate quiet.1 quiet.2]
  there := keeps.implsThere there

theorem Moves.trans {s'' : State} (moves : Moves s s' record new)
    (moves' : Moves s' s'' (record ++ new) []) : Moves s s'' record new where
  transfers := by
    have later := moves'.transfers
    rw [List.append_nil] at later
    exact moves.transfers.trans later
  there := moves'.there

theorem exchange_moves (a b : ObjId) {x y : Option (Option ImplId)} (there : ImplsThere s)
    (first : x.join = (s.objs b).join) (second : y.join = (s.objs a).join) :
    Moves s { s with objs := Function.update (Function.update s.objs a x) b y } record [] := by
  have slots : ∀ o, (Function.update (Function.update s.objs a x) b y o).join =
      (s.objs (Equiv.swap a b o)).join := read_update_swap Option.join first second
  constructor
  · rw [List.append_nil]
    refine .single (.exchange a b ?_ (fun _ => Iff.rfl) rfl rfl)
    intro o
    simp only [State.estate, State.timerOf, slots]
  · intro o i owns
    have owned := slots o
    rw [show Function.update (Function.update s.objs a x) b y o = some (some i) from owns] at owned
    exact there _ i (Option.join_eq_some_iff.mp owned.symm)

theorem timerOf_eq {o : ObjId} {i : ImplId} (owns : (s.objs o).join = some i) :
    s.timerOf o = s.impls i := by
  rw [State.timerOf, owns, Option.bind_some]

/-- A `unique_ptr` that is emptied deletes the OS timer that it owned, if any. -/
theorem release_moves {o : ObjId} {x : Option (Option ImplId)} (empty : x.join = none)
    (owned : Owned (s.estate record)) (there : ImplsThere s) :
    Moves s { s.deleteImpl env (s.objs o).join with objs := Function.update s.objs o x } record
      (s.implAnswers env (s.timerOf o) fun timer => destroy timer.id) := by
  cases owns : (s.objs o).join with
  | none =>
      have noTimer : s.timerOf o = none := by rw [State.timerOf, owns, Option.bind_none]
      have moves : Moves s _ record [] :=
        exchange_moves o o there (empty.trans owns.symm) (empty.trans owns.symm)
      rw [Function.update_idem] at moves
      rw [noTimer]
      exact moves
  | some i =>
      obtain ⟨timer, found⟩ := there o i (Option.join_eq_some_iff.mp owns)
      have held : (s.estate record).holds o = some timer.id := by
        change (s.timerOf o).map CmsisTimer.id = _
        rw [timerOf_eq owns, found, Option.map_some]
      rw [timerOf_eq owns, found, State.implAnswers, destroy_answers, State.deleteImpl, found]
      simp only [call_destroy]
      have notShared : ∀ other, other ≠ o → (s.objs other).join ≠ some i := by
        intro other different shares
        apply different
        apply owned.unique other o timer.id _ held
        change (s.timerOf other).map CmsisTimer.id = _
        rw [timerOf_eq shares, found, Option.map_some]
      constructor
      · refine .single (.release o timer.id held ?_ ?_ ?_ ?_)
        · intro other
          by_cases same : other = o
          · simp [State.estate, State.timerOf, same, empty]
          · simp only [State.estate, State.timerOf, Function.update_of_ne same, if_neg same]
            cases slot : (s.objs other).join with
            | none => rfl
            | some j =>
                have different : j ≠ i := by
                  rintro rfl
                  exact notShared other same slot
                simp [different]
        · intro id
          by_cases same : id = timer.id <;> simp [State.estate, same]
        · simp [State.estate, createdBy]
        · simp [State.estate, deletedBy]
      · intro other j owned'
        by_cases same : other = o
        · simp only [same, Function.update_self] at owned'
          rw [owned'] at empty
          contradiction
        · simp only [Function.update_of_ne same] at owned'
          have different : j ≠ i := by
            rintro rfl
            exact notShared other same (Option.join_eq_some_iff.mpr owned')
          obtain ⟨timer', found'⟩ := there other j owned'
          exact ⟨timer', by simp [different, found']⟩

theorem deleteImpl_setObjs (objs : ObjId → Option (Option ImplId)) (impl : Option ImplId) :
    ({ s with objs := objs } : State).deleteImpl env impl =
      { s.deleteImpl env impl with objs := objs } := by
  cases impl with
  | none => rfl
  | some i =>
      cases found : s.impls i with
      | none => simp [State.deleteImpl, found]
      | some timer =>
          simp only [State.deleteImpl, found]
          rfl

def State.constructed (s : State) (o : ObjId) (id : Handle) (type : TimerType) (usec : Int) :
    State :=
  { s with
    objs := Function.update s.objs o (some (some s.allocated))
    osTimers := Function.update s.osTimers id (some ⟨type, s.allocated, false⟩)
    impls := Function.update s.impls s.allocated (some ⟨id, usec⟩)
    allocated := s.allocated + 1 }

/-- A constructor that throws has created no OS timer. -/
theorem construct_cases {o : ObjId} {usec : Int} {hasCallback once : Bool}
    (taken : s.construct env o usec hasCallback once = some s') :
    s.objs o = none ∧
      ((s' = s ∧
          (s.answers env (cmsisTimer s.allocated usec hasCallback once)).filterMap createdBy = [] ∧
          (s.answers env (cmsisTimer s.allocated usec hasCallback once)).filterMap deletedBy = []) ∨
        ∃ type, env.newId ≠ 0 ∧ s.osTimers env.newId = none ∧
          s' = s.constructed o env.newId type usec ∧
          s.answers env (cmsisTimer s.allocated usec hasCallback once) =
            [⟨.osTimerNew type s.allocated, env.newId⟩]) := by
  simp only [State.construct, Option.ite_none_right_eq_some] at taken
  obtain ⟨vacant, taken⟩ := taken
  refine ⟨vacant, ?_⟩
  by_cases noCallback : hasCallback = false
  · left
    simp [State.call, cmsisTimer, noCallback] at taken
    refine ⟨taken.symm, ?_⟩
    simp [State.answers, cmsisTimer, noCallback]
  · by_cases negative : usec < 0
    · left
      simp [State.call, cmsisTimer, noCallback, negative] at taken
      refine ⟨taken.symm, ?_⟩
      simp [State.answers, cmsisTimer, noCallback, negative]
    · by_cases refused : env.newId = 0 ∨ s.osTimers env.newId ≠ none
      · left
        simp [State.call, cmsisTimer, noCallback, negative, refused, kernel] at taken
        refine ⟨taken.symm, ?_⟩
        simp [State.answers, cmsisTimer, noCallback, negative, refused, kernel, createdBy,
          deletedBy]
      · right
        push Not at refused
        obtain ⟨valid, fresh⟩ := refused
        refine ⟨if once then .osTimerOnce else .osTimerPeriodic, valid, fresh, ?_, ?_⟩
        · simp [State.call, cmsisTimer, noCallback, negative, valid, fresh, kernel] at taken
          exact taken.symm
        · simp [State.answers, cmsisTimer, noCallback, negative, valid, fresh, kernel]

theorem construct_moves {o : ObjId} {usec : Int} {hasCallback once : Bool} (inv : TimerInv s)
    (there : ImplsThere s) (taken : s.construct env o usec hasCallback once = some s') :
    Moves s s' record (s.answers env (cmsisTimer s.allocated usec hasCallback once)) := by
  obtain ⟨vacant, ⟨rfl, noneCreated, noneDeleted⟩ | ⟨type, valid, fresh, rfl, answers⟩⟩ :=
    construct_cases taken
  · have keeps : Keeps s' s' := ⟨rfl, rfl, fun _ => rfl⟩
    exact keeps.moves there ⟨noneCreated, noneDeleted⟩
  · have older : ∀ x i, (s.objs x).join = some i → i ≠ s.allocated := by
      intro x i owns
      obtain ⟨timer, found⟩ := there x i (Option.join_eq_some_iff.mp owns)
      exact (inv.impl i timer found).1.ne
    constructor
    · rw [answers]
      refine .single (.acquire o env.newId ?_ ?_ ?_ ?_ ?_ ?_)
      · simp [State.estate, State.timerOf, vacant]
      · simp [State.estate, fresh]
      · intro x
        by_cases same : x = o
        · simp [State.estate, State.timerOf, State.constructed, same]
        · simp only [State.estate, State.timerOf, State.constructed, Function.update_of_ne same,
            if_neg same]
          cases slot : (s.objs x).join with
          | none => rfl
          | some i => simp [older x i slot]
      · intro id
        by_cases same : id = env.newId <;> simp [State.estate, State.constructed, same]
      · simp [State.estate, createdBy, valid]
      · simp [State.estate, deletedBy]
    · intro x i owns
      by_cases new : i = s.allocated
      · exact ⟨⟨env.newId, usec⟩, by simp [State.constructed, new]⟩
      · by_cases same : x = o
        · simp [State.constructed, same] at owns
          exact absurd owns.symm new
        · simp only [State.constructed, Function.update_of_ne same] at owns
          obtain ⟨timer, found⟩ := there x i owns
          exact ⟨timer, by simp [State.constructed, new, found]⟩

theorem Keeps.logged (keeps : Keeps s s') (events : List Event) : Keeps s (s'.record events) :=
  ⟨keeps.objs, keeps.impls, keeps.live⟩

theorem setRunning_keeps {id : Handle} {osTimer : OsTimer} (os : s.osTimers id = some osTimer)
    (running : Bool) : Keeps s (s.setRunning id osTimer running) := by
  refine ⟨rfl, rfl, ?_⟩
  intro other
  by_cases same : other = id
  · simp [State.setRunning, same, os]
  · simp [State.setRunning, same]

theorem call_start_keeps (s : State) (env : Environment) (freq : Int) (timer : CmsisTimer) :
    Keeps s (s.call env (start freq timer.id timer.usec)).2 := by
  cases os : s.osTimers timer.id with
  | none =>
      simp [State.call, start, kernel, os, expectOk]
      exact ⟨rfl, rfl, fun _ => rfl⟩
  | some osTimer =>
      by_cases ok : env.startStatus = .osOK
      · simp [State.call, start, kernel, os, expectOk, ok]
        exact setRunning_keeps os true
      · simp [State.call, start, kernel, os, expectOk, ok]
        exact ⟨rfl, rfl, fun _ => rfl⟩

theorem call_stop_keeps (s : State) (env : Environment) (timer : CmsisTimer) :
    Keeps s (s.call env (stop timer.id)).2 := by
  rcases call_stop (s := s) env timer with ⟨error, called⟩ | ⟨osTimer, os, called⟩
  · rw [called]
    exact ⟨rfl, rfl, fun _ => rfl⟩
  · rw [called]
    exact setRunning_keeps os false

theorem onImpl_keeps {o : ObjId} {script : CmsisTimer → Script timerSig SystemError Unit}
    {event : ImplId → Event} (keeps : ∀ timer, Keeps s (s.call env (script timer)).2)
    (taken : s.onImpl env o script event = some s') : Keeps s s' := by
  simp only [State.onImpl] at taken
  split at taken
  · contradiction
  · cases taken
    exact ⟨rfl, rfl, fun _ => rfl⟩
  · split at taken
    · contradiction
    · rename_i timer found
      split at taken
      · cases taken
        exact (keeps timer).logged _
      · cases taken
        exact keeps timer

theorem expire_keeps {id : Handle} (taken : s.expire id = some s') : Keeps s s' := by
  unfold State.expire at taken
  split at taken
  · rename_i osTimer os
    obtain ⟨_, result⟩ := Option.ite_none_right_eq_some.mp taken
    cases result
    have keeps := setRunning_keeps os (osTimer.type = .osTimerPeriodic)
    exact ⟨keeps.objs, keeps.impls, keeps.live⟩
  · contradiction

theorem handlerStep_keeps (taken : s.handlerStep a = some s') : Keeps s s' := by
  have still : ∀ {s'' : State}, s''.objs = s.objs → s''.impls = s.impls →
      s''.osTimers = s.osTimers → Keeps s s'' := by
    intro s'' objs impls osTimers
    exact ⟨objs, impls, fun id => by rw [osTimers]⟩
  unfold State.handlerStep at taken
  split at taken
  case h_1 =>
    split at taken
    · contradiction
    · cases taken
      exact still rfl rfl rfl
  case h_2 e checking =>
    split at taken
    · cases taken
      exact still rfl rfl rfl
    · rename_i timer found
      cases taken
      simp only [State.checkRunning, call_running]
      cases ((s.osTimers timer.id).map OsTimer.running).getD false with
      | true => exact still rfl rfl rfl
      | false => exact still rfl rfl rfl
  case h_3 =>
    split at taken
    · cases taken
      exact still rfl rfl rfl
    · cases taken
      exact still rfl rfl rfl
  case h_4 =>
    split at taken
    · cases taken
      exact still rfl rfl rfl
    · cases taken
      exact still rfl rfl rfl
  case h_5 =>
    split at taken
    · cases taken
      exact still rfl rfl rfl
    · rename_i timer found
      cases taken
      have keeps := call_stop_keeps s State.handlerEnv timer
      simp only [State.handlerStop]
      split
      · exact ⟨keeps.objs, keeps.impls, keeps.live⟩
      · exact ⟨keeps.objs, keeps.impls, keeps.live⟩
  case h_6 => contradiction

theorem implAnswers_quiet {Val : Type} {impl : Option CmsisTimer}
    {script : CmsisTimer → Script timerSig SystemError Val}
    {answered : CmsisTimer → Answered timerSig}
    (only : ∀ timer, s.answers env (script timer) = [answered timer])
    (noCreation : ∀ timer, createdBy (answered timer) = none)
    (noDeletion : ∀ timer, deletedBy (answered timer) = none) :
    (s.implAnswers env impl script).filterMap createdBy = [] ∧
      (s.implAnswers env impl script).filterMap deletedBy = [] := by
  cases impl with
  | none => exact ⟨rfl, rfl⟩
  | some timer =>
      rw [State.implAnswers, only]
      simp [noCreation, noDeletion]

theorem start_quiet (s : State) (env : Environment) (freq : Int) (impl : Option CmsisTimer) :
    (s.implAnswers env impl fun timer => start freq timer.id timer.usec).filterMap createdBy = [] ∧
      (s.implAnswers env impl fun timer => start freq timer.id timer.usec).filterMap
        deletedBy = [] :=
  implAnswers_quiet (fun timer => start_answers s env freq timer.id timer.usec) (fun _ => rfl)
    fun _ => rfl

theorem stop_quiet (s : State) (env : Environment) (impl : Option CmsisTimer) :
    (s.implAnswers env impl fun timer => stop timer.id).filterMap createdBy = [] ∧
      (s.implAnswers env impl fun timer => stop timer.id).filterMap deletedBy = [] :=
  implAnswers_quiet (fun timer => stop_answers s env timer.id) (fun _ => rfl) fun _ => rfl

theorem handlerAnswers_quiet (s : State) (a : Action) :
    (s.handlerAnswers a).filterMap createdBy = [] ∧
      (s.handlerAnswers a).filterMap deletedBy = [] := by
  unfold State.handlerAnswers
  split
  · split
    · exact implAnswers_quiet (fun timer => running_answers s _ timer.id) (fun _ => rfl)
        fun _ => rfl
    · exact ⟨rfl, rfl⟩
  · split
    · exact stop_quiet s _ _
    · exact ⟨rfl, rfl⟩
  · exact ⟨rfl, rfl⟩

theorem userStep_moves {op : Operation} (inv : TimerInv s) (owned : Owned (s.estate record))
    (there : ImplsThere s) (taken : s.userStep freq env op = some s') :
    Moves s s' record (s.calls freq (.user op env)) := by
  cases op with
  | default o =>
      simp only [State.userStep, Option.ite_none_right_eq_some, Option.some.injEq] at taken
      obtain ⟨vacant, rfl⟩ := taken
      have same : (some none : Option (Option ImplId)).join = (s.objs o).join := by
        rw [vacant]
        rfl
      have moves : Moves s _ record [] := exchange_moves o o there same same
      rw [Function.update_idem] at moves
      exact moves
  | construct o usec hasCallback once => exact construct_moves inv there taken
  | moveConstruct o source =>
      simp only [State.userStep] at taken
      split at taken
      · rename_i impl vacant given
        cases taken
        exact exchange_moves source o there (by rw [vacant]; rfl) (by rw [given])
      · contradiction
  | moveAssign o source =>
      simp only [State.userStep] at taken
      split at taken
      · rename_i old impl target given
        simp only [State.calls]
        split at taken
        · rename_i same
          cases taken
          rw [if_pos same]
          have keeps : Keeps s s := ⟨rfl, rfl, fun _ => rfl⟩
          exact keeps.moves there ⟨rfl, rfl⟩
        · rename_i different
          cases taken
          rw [if_neg different]
          have released : Moves s _ record _ :=
            @release_moves s env record o (some none) rfl owned there
          have moves := released.trans (exchange_moves source o released.there (x := some none)
            (y := some impl) (by simp) (by simp [Ne.symm different, given]))
          have slots : Function.update (Function.update (Function.update s.objs o (some none))
              source (some none)) o (some impl) =
                Function.update (Function.update s.objs source (some none)) o (some impl) := by
            rw [Function.update_comm different, Function.update_idem]
          rw [State.setObj, State.setObj, deleteImpl_setObjs, deleteImpl_setObjs]
          simp only [slots, target, Option.join_some] at moves
          exact moves
      · contradiction
  | swap o other =>
      simp only [State.userStep] at taken
      split at taken
      · rename_i impl impl' first second
        cases taken
        exact exchange_moves o other there (by rw [second]) (by rw [first])
      · contradiction
  | start o =>
      exact (onImpl_keeps (call_start_keeps s env freq) taken).moves there
        (start_quiet s env freq _)
  | stop o => exact (onImpl_keeps (call_stop_keeps s env) taken).moves there (stop_quiet s env _)
  | destroy o =>
      simp only [State.userStep] at taken
      split at taken
      · rename_i impl target
        cases taken
        have moves : Moves s _ record _ := @release_moves s env record o none rfl owned there
        rw [target] at moves
        rw [State.setObj, deleteImpl_setObjs]
        exact moves
      · contradiction

theorem step_moves (inv : TimerInv s) (owned : Owned (s.estate record)) (there : ImplsThere s)
    (taken : s.step freq a = some s') : Moves s s' record (s.calls freq a) := by
  simp only [State.step, Option.ite_none_right_eq_some] at taken
  obtain ⟨_, taken⟩ := taken
  cases a with
  | user op env => exact userStep_moves inv owned there taken
  | expire id => exact (expire_keeps taken).moves there ⟨rfl, rfl⟩
  | dispatch => exact (handlerStep_keeps taken).moves there (handlerAnswers_quiet s .dispatch)
  | check => exact (handlerStep_keeps taken).moves there (handlerAnswers_quiet s .check)
  | invoke => exact (handlerStep_keeps taken).moves there (handlerAnswers_quiet s .invoke)
  | callback result =>
      exact (handlerStep_keeps taken).moves there (handlerAnswers_quiet s (.callback result))
  | handlerStop => exact (handlerStep_keeps taken).moves there (handlerAnswers_quiet s .handlerStop)

theorem live_of_impl {i : ImplId} {timer : CmsisTimer} (inv : TimerInv s)
    (found : s.impls i = some timer) : (s.estate record).live timer.id := by
  obtain ⟨_, osTimer, os, _⟩ := inv.impl i timer found
  change (s.osTimers timer.id).isSome = true
  rw [os]
  rfl

theorem AddressesLive.append (addressed : AddressesLive record) (owned : Owned (s.estate record))
    (inv : TimerInv s) (one : OneCall s new) : AddressesLive (record ++ new) := by
  rcases one with rfl | ⟨last, rfl, names⟩
  · rw [List.append_nil]
    exact addressed
  · intro front answered back split id named
    rcases List.eq_nil_or_concat back with rfl | ⟨back, final, rfl⟩
    · obtain ⟨rfl, same⟩ := List.append_inj' split rfl
      cases same
      obtain ⟨i, timer, found, rfl⟩ := names id named
      exact owned.balancedLive timer.id (live_of_impl inv found)
    · rw [List.concat_eq_append, ← List.cons_append, ← List.append_assoc] at split
      obtain ⟨same, _⟩ := List.append_inj' split rfl
      exact addressed front answered back same id named

theorem OwnsTimers.step (owns : OwnsTimers s record) (inv : TimerInv s) (inv' : TimerInv s')
    (taken : s.step freq a = some s') : OwnsTimers s' (record ++ s.calls freq a) := by
  have there : ImplsThere s := by
    intro o i owner
    obtain ⟨timer, _, found, _⟩ := owns.handled o i owner
    exact ⟨timer, found⟩
  have moves := step_moves inv owns.owned there taken
  refine ⟨moves.transfers.owned owns.owned, ?_, ?_⟩
  · exact owns.addressed.append owns.owned inv (calls_oneCall freq s a)
  · intro o i owner
    obtain ⟨timer, found⟩ := moves.there o i owner
    obtain ⟨_, osTimer, os, argument⟩ := inv'.impl i timer found
    exact ⟨timer, osTimer, found, os, argument⟩

theorem timerInv_initial : TimerInv .initial := by
  constructor <;> simp [State.initial]

theorem ownsTimers_initial : OwnsTimers .initial [] where
  owned := by
    constructor <;> simp [State.estate, State.timerOf, State.initial]
  addressed := by
    intro front answered back split
    simp at split
  handled := by
    intro o i owner
    simp [State.initial] at owner

/-- However `timer` objects are made, moved and destroyed while their timers run, every OS
timer that is there has one owner, and none is deleted twice or used after that. -/
theorem run_ownsTimers {allowed : State × List (Answered timerSig) → Action → Prop}
    {acts : List Action} {s : State × List (Answered timerSig)}
    (run : Run (recorded freq) allowed acts s) : OwnsTimers s.1 s.2 := by
  have inv : TimerInv s.1 ∧ OwnsTimers s.1 s.2 := by
    refine run.observed_invariant (fun s record => TimerInv s ∧ OwnsTimers s record) ?_ ?_
    · exact ⟨timerInv_initial, ownsTimers_initial⟩
    · intro s record a s' before taken
      have inv' := (step_taken taken).timerInv before.1
      exact ⟨inv', before.2.step before.1 inv' taken⟩
  exact inv.2

end Step

/-- A timer is moved and moved over, another could not be made. -/
def movesTimers : List Action :=
  [.user (.construct 0 1000 true false) ⟨1, .osOK⟩, .user (.construct 1 2000 true true) ⟨0, .osOK⟩,
    .user (.construct 1 2000 true true) ⟨2, .osOK⟩, .user (.start 1) ⟨0, .osOK⟩,
    .user (.moveAssign 0 1) ⟨0, .osOK⟩, .expire 2, .dispatch, .check,
    .user (.construct 2 500 true false) ⟨1, .osOK⟩, .user (.swap 2 0) ⟨0, .osOK⟩,
    .user (.destroy 2) ⟨0, .osOK⟩]

theorem movesTimers_owned :
    ∃ s, Run (recorded 1000) Unrestricted movesTimers s ∧ s.2.filterMap createdBy = [1, 2, 1] ∧
      s.2.filterMap deletedBy = [1, 2] ∧ OwnsTimers s.1 s.2 := by
  have run : Run (recorded 1000) Unrestricted _ _ := Run.replayed movesTimers rfl
  exact ⟨_, run, rfl, rfl, run_ownsTimers run⟩

end CmsisCpp.Timer
