import Mathlib.Logic.Function.Basic
import CmsisCpp.Library.ActionSystem
import CmsisCpp.Timer.Impl

/-! # Timers, the OS and the timer thread

Source: `include/Timer.h`, `src/Timer.cpp`.

Any number of `timer` objects own `cmsis_timer` objects through `m_pImplTimer`.
User threads construct, move, start, stop and destroy them; the OS lets running
timers expire; the timer thread dispatches the expiries in order and executes
`cmsis_timer::handler`.  An expiry queues the handler and its argument, a one-shot
timer is stopped by it, and neither `osTimerStop` nor `osTimerDelete` withdraws what is
queued.  The handler may be interrupted between its steps: `running()`, the call
of `m_Callback`, its return, and `stop()`.  Addresses of `cmsis_timer` objects are not
used twice. -/
set_option autoImplicit false

namespace CmsisCpp.Timer

open CallScript

abbrev ObjId := Nat

structure CmsisTimer where
  id : Handle
  usec : Int
  deriving DecidableEq, Repr

structure OsTimer where
  type : TimerType
  argument : ImplId
  running : Bool
  deriving DecidableEq, Repr

abbrev OsTimers := Handle → Option OsTimer

/-- The answers that the OS is free to choose: the identifier of a new timer, `0`
for a failure, and the status of a start. -/
structure Environment where
  newId : Handle
  startStatus : OsStatus
  deriving DecidableEq, Repr

def kernel (env : Environment) : (call : TimerCall) → OsTimers → timerSig.Reply call × OsTimers
  | .osTimerNew type argument, os =>
      if env.newId = 0 ∨ os env.newId ≠ none then ((0 : Handle), os)
      else (env.newId, Function.update os env.newId (some ⟨type, argument, false⟩))
  | .osTimerDelete id, os =>
      match os id with
      | some _ => (OsStatus.osOK, Function.update os id none)
      | none => (OsStatus.osErrorParameter, os)
  | .osTimerStart id _, os =>
      match os id with
      | some timer =>
          if env.startStatus = .osOK then
            (OsStatus.osOK, Function.update os id (some { timer with running := true }))
          else (env.startStatus, os)
      | none => (OsStatus.osErrorParameter, os)
  | .osTimerStop id, os =>
      match os id with
      | some timer =>
          if timer.running = true then
            (OsStatus.osOK, Function.update os id (some { timer with running := false }))
          else (OsStatus.osErrorResource, os)
      | none => (OsStatus.osErrorParameter, os)
  | .osTimerIsRunning id, os => (((os id).map OsTimer.running).getD false, os)

structure Expiry where
  serial : Nat
  argument : ImplId
  deriving DecidableEq, Repr

/-- Where the timer thread is in `cmsis_timer::handler`. -/
inductive HandlerPc
  | idle
  | check (e : Expiry)
  | invoke (e : Expiry)
  | callback (e : Expiry)
  | stop (e : Expiry)
  deriving DecidableEq, Repr

/-- `started` and `stopped` are the successful calls of `osTimerStart` and `osTimerStop`. -/
inductive Event
  | started (i : ImplId)
  | stopped (i : ImplId)
  | expired (e : Expiry)
  | passed (e : Expiry)
  | invoked (e : Expiry)
  | handled (e : Expiry)
  deriving DecidableEq, Repr

structure State where
  status : ProgramStatus
  objs : ObjId → Option (Option ImplId)
  impls : ImplId → Option CmsisTimer
  osTimers : OsTimers
  allocated : Nat
  queue : List Expiry
  expiries : Nat
  handler : HandlerPc
  log : List Event

def State.initial : State where
  status := .running
  objs _ := none
  impls _ := none
  osTimers _ := none
  allocated := 0
  queue := []
  expiries := 0
  handler := .idle
  log := []

inductive Operation
  | default (o : ObjId)
  | construct (o : ObjId) (usec : Int) (hasCallback once : Bool)
  | moveConstruct (o source : ObjId)
  | moveAssign (o source : ObjId)
  | swap (o other : ObjId)
  | start (o : ObjId)
  | stop (o : ObjId)
  | destroy (o : ObjId)
  deriving DecidableEq, Repr

inductive Action
  | user (op : Operation) (env : Environment)
  | expire (id : Handle)
  | dispatch
  | check
  | invoke
  | callback (result : Bool)
  | handlerStop
  deriving DecidableEq, Repr

namespace State

def record (s : State) (events : List Event) : State := { s with log := s.log ++ events }

def setObj (s : State) (o : ObjId) (obj : Option (Option ImplId)) : State :=
  { s with objs := Function.update s.objs o obj }

def call {Val : Type} (s : State) (env : Environment) (script : Script timerSig SystemError Val) :
    Except SystemError Val × State :=
  let answered := script.run (kernel env) s.osTimers
  (answered.1, { s with osTimers := answered.2 })

def deleteImpl (s : State) (env : Environment) : Option ImplId → State
  | none => s
  | some i =>
      match s.impls i with
      | none => s
      | some timer =>
          { (s.call env (destroy timer.id)).2 with impls := Function.update s.impls i none }

/-- `timer::timer(usec, function, type)`; a constructor that throws leaves nothing. -/
def construct (s : State) (env : Environment) (o : ObjId) (usec : Int) (hasCallback once : Bool) :
    Option State :=
  if s.objs o = none then
    let called := s.call env (cmsisTimer s.allocated usec hasCallback once)
    match called.1 with
    | .error _ => some called.2
    | .ok id =>
        some { called.2 with
          objs := Function.update s.objs o (some (some s.allocated))
          impls := Function.update s.impls s.allocated (some ⟨id, usec⟩)
          allocated := s.allocated + 1 }
  else none

/-- `timer::start` and `timer::stop`: an exception on an empty `timer`, otherwise
the same of its `cmsis_timer`.  Exceptions go to the caller. -/
def onImpl (s : State) (env : Environment) (o : ObjId)
    (script : CmsisTimer → Script timerSig SystemError Unit) (event : ImplId → Event) :
    Option State :=
  match s.objs o with
  | none => none
  | some none => some s
  | some (some i) =>
      match s.impls i with
      | none => none
      | some timer =>
          let called := s.call env (script timer)
          match called.1 with
          | .ok () => some (called.2.record [event i])
          | .error _ => some called.2

def userStep (freq : Int) (s : State) (env : Environment) : Operation → Option State
  | .default o => if s.objs o = none then some (s.setObj o (some none)) else none
  | .construct o usec hasCallback once => s.construct env o usec hasCallback once
  | .moveConstruct o source =>
      match s.objs o, s.objs source with
      | none, some impl => some ((s.setObj source (some none)).setObj o (some impl))
      | _, _ => none
  | .moveAssign o source =>
      match s.objs o, s.objs source with
      | some old, some impl =>
          if o = source then some s
          else some (((s.setObj source (some none)).setObj o (some impl)).deleteImpl env old)
      | _, _ => none
  | .swap o other =>
      match s.objs o, s.objs other with
      | some impl, some impl' => some ((s.setObj o (some impl')).setObj other (some impl))
      | _, _ => none
  | .start o => s.onImpl env o (fun timer => start freq timer.id timer.usec) .started
  | .stop o => s.onImpl env o (fun timer => stop timer.id) .stopped
  | .destroy o =>
      match s.objs o with
      | some impl => some ((s.setObj o none).deleteImpl env impl)
      | none => none

def expire (s : State) (id : Handle) : Option State :=
  match s.osTimers id with
  | some timer =>
      if timer.running = true then
        let e : Expiry := ⟨s.expiries, timer.argument⟩
        some { s with
          osTimers := Function.update s.osTimers id
            (some { timer with running := timer.type = .osTimerPeriodic })
          queue := s.queue ++ [e]
          expiries := s.expiries + 1
          log := s.log ++ [.expired e] }
      else none
  | none => none

def handled (s : State) (e : Expiry) : State :=
  { s with handler := .idle }.record [.handled e]

/-- What the handler's own calls may be answered with: they choose nothing. -/
def handlerEnv : Environment := ⟨0, .osOK⟩

/-- `pTimer->running()` decides whether the handler goes on to the callback. -/
def checkRunning (s : State) (e : Expiry) (timer : CmsisTimer) : State :=
  let called := s.call handlerEnv (running timer.id)
  match called.1 with
  | .ok true => { called.2 with handler := .invoke e }.record [.passed e]
  | .ok false => called.2.handled e
  | .error _ => { called.2 with status := .terminated }

/-- `pTimer->stop()`; its exception leaves the handler of the timer thread. -/
def handlerStop (s : State) (e : Expiry) (timer : CmsisTimer) : State :=
  let called := s.call handlerEnv (stop timer.id)
  match called.1 with
  | .ok () => (called.2.record [.stopped e.argument]).handled e
  | .error _ => { called.2 with status := .terminated }

/-- The steps of the timer thread.  The handler uses its argument without knowing
whether the object is still there. -/
def handlerStep (s : State) (a : Action) : Option State :=
  match s.handler, a with
  | .idle, .dispatch =>
      match s.queue with
      | [] => none
      | e :: rest => some { s with queue := rest, handler := .check e }
  | .check e, .check =>
      match s.impls e.argument with
      | none => some { s with status := .undefined }
      | some timer => some (s.checkRunning e timer)
  | .invoke e, .invoke =>
      match s.impls e.argument with
      | none => some { s with status := .undefined }
      | some _ => some ({ s with handler := .callback e }.record [.invoked e])
  | .callback e, .callback result =>
      if result = true then some (s.handled e) else some { s with handler := .stop e }
  | .stop e, .handlerStop =>
      match s.impls e.argument with
      | none => some { s with status := .undefined }
      | some timer => some (s.handlerStop e timer)
  | _, _ => none

def step (freq : Int) (s : State) (a : Action) : Option State :=
  if s.status = .running then
    match a with
    | .user op env => s.userStep freq env op
    | .expire id => s.expire id
    | a => s.handlerStep a
  else none

end State

def system (freq : Int) : ActionSystem State Action where
  initial := .initial
  step := State.step freq

end CmsisCpp.Timer
