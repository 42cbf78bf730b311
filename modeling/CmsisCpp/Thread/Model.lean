import Mathlib.Logic.Function.Basic
import CmsisCpp.Library.ActionSystem
import CmsisCpp.Thread.Impl

/-! # `thread` objects and OS threads

Any number of `thread` objects are constructed, moved, swapped, joined, detached and
destroyed while the OS runs their threads.  The OS gives each thread an identifier
that no other thread has at that time; the identifier is free again when the
thread was joined or has ended detached.  A join takes its step when it
returns. -/
set_option autoImplicit false

namespace CmsisCpp.Thread

open CallScript

abbrev ObjId := Nat

/-- One OS thread; `serial` tells apart the threads that share an identifier. -/
structure OsThread where
  serial : Nat
  argument : ImplId
  running : Bool
  detached : Bool
  deriving DecidableEq, Repr

structure OsState where
  threads : Handle → Option OsThread
  created : Nat

/-- The answers that the OS is free to choose: the identifier of a new thread, the
status of a join or detach, and which thread makes the call. -/
structure Environment where
  newId : Handle
  status : OsStatus
  caller : Handle
  deriving DecidableEq, Repr

def OsState.set (os : OsState) (id : Handle) (thread : Option OsThread) : OsState :=
  { os with threads := Function.update os.threads id thread }

/-- A thread that ends keeps its identifier until it is joined, unless it is detached. -/
def OsThread.ended (thread : OsThread) : Option OsThread :=
  if thread.detached = true then none else some { thread with running := false }

def kernel (env : Environment) : (call : ThreadCall) → OsState → threadSig.Reply call × OsState
  | .osThreadNew argument _, os =>
      if env.newId = 0 ∨ os.threads env.newId ≠ none then ((0 : Handle), os)
      else
        (env.newId, { os.set env.newId (some ⟨os.created, argument, true, false⟩) with
          created := os.created + 1 })
  | .osThreadTerminate id, os =>
      match os.threads id with
      | none => (OsStatus.osErrorParameter, os)
      | some thread =>
          if thread.running = true then (OsStatus.osOK, os.set id thread.ended)
          else (OsStatus.osErrorResource, os)
  | .osThreadJoin id, os =>
      match os.threads id with
      | none => (OsStatus.osErrorParameter, os)
      | some thread =>
          if env.status ≠ .osOK then (env.status, os)
          else if thread.detached = true ∨ thread.running = true then (OsStatus.osErrorResource, os)
          else (OsStatus.osOK, os.set id none)
  | .osThreadDetach id, os =>
      match os.threads id with
      | none => (OsStatus.osErrorParameter, os)
      | some thread =>
          if env.status ≠ .osOK then (env.status, os)
          else if thread.detached = true then (OsStatus.osErrorResource, os)
          else if thread.running = true then
            (OsStatus.osOK, os.set id (some { thread with detached := true }))
          else (OsStatus.osOK, os.set id none)
  | .osThreadGetId, os => (env.caller, os)

/-- The history of a run; a termination names the object whose destructor asked
for it. -/
inductive Event
  | created (serial : Nat) (impl : ImplId)
  | joined (impl : ImplId)
  | detached (serial : Nat)
  | finished (serial : Nat)
  | terminated (serial : Nat) (destroyer : ImplId)
  | destroyed (impl : ImplId)
  deriving DecidableEq, Repr

structure State where
  status : ProgramStatus
  objs : ObjId → Option (Option ImplId)
  impls : ImplId → Option ThreadImpl
  allocated : Nat
  os : OsState
  log : List Event

def State.initial : State where
  status := .running
  objs _ := none
  impls _ := none
  allocated := 0
  os := ⟨fun _ => none, 0⟩
  log := []

inductive Operation
  | default (o : ObjId)
  | construct (o : ObjId) (attr : Attributes)
  | moveConstruct (o source : ObjId)
  | moveAssign (o source : ObjId)
  | swap (o other : ObjId)
  | join (o : ObjId)
  | detach (o : ObjId)
  | destroy (o : ObjId)
  deriving DecidableEq, Repr

inductive Action
  | user (op : Operation) (env : Environment)
  | finish (id : Handle)
  deriving DecidableEq, Repr

namespace State

def setObj (s : State) (o : ObjId) (obj : Option (Option ImplId)) : State :=
  { s with objs := Function.update s.objs o obj }

def setImpl (s : State) (i : ImplId) (impl : Option ThreadImpl) : State :=
  { s with impls := Function.update s.impls i impl }

def record (s : State) (events : List Event) : State := { s with log := s.log ++ events }

def pThread (s : State) (obj : Option ImplId) : Option ThreadImpl := obj.bind s.impls

def call {Val : Type} (s : State) (env : Environment) (script : Script threadSig SystemError Val) :
    Except SystemError Val × State :=
  let answered := script.run (kernel env) s.os
  (answered.1, { s with os := answered.2 })

def terminations (s : State) (id : Handle) (destroyer : ImplId) : List Event :=
  match s.os.threads id with
  | none => []
  | some thread => if thread.running = true then [.terminated thread.serial destroyer] else []

/-- The end of a `thread_impl` and, with it, of the callable. -/
def deleteImpl (s : State) (env : Environment) (i : ImplId) (impl : ThreadImpl) : State :=
  ((s.call env impl.destroy).2.setImpl i none).record
    (s.terminations impl.id i ++ [.destroyed i])

/-- `thread::thread(attr, f)`; a constructor that throws leaves nothing. -/
def construct (s : State) (env : Environment) (o : ObjId) (attr : Attributes) : Option State :=
  if s.objs o = none then
    let called := s.call env (threadImpl s.allocated attr)
    match called.1 with
    | .error _ => some called.2
    | .ok impl =>
        some (({ called.2 with allocated := s.allocated + 1 }.setImpl s.allocated (some impl)).setObj
          o (some (some s.allocated)) |>.record [.created s.os.created s.allocated])
  else none

def joinObj (s : State) (env : Environment) (obj : Option ImplId) : State :=
  let called := s.call env (join (s.pThread obj))
  match called.1, obj with
  | .ok impl, some i => (called.2.setImpl i (some impl)).record [.joined i]
  | _, _ => called.2

def serials (s : State) (id : Handle) : List Nat :=
  match s.os.threads id with
  | none => []
  | some thread => [thread.serial]

def detachObj (s : State) (env : Environment) (obj : Option ImplId) : State :=
  let called := s.call env (detach (s.pThread obj))
  match called.1, obj with
  | .ok impl, some i =>
      (called.2.setImpl i (some impl)).record ((s.serials impl.id).map .detached)
  | _, _ => called.2

def userStep (s : State) (env : Environment) : Operation → Option State
  | .default o => if s.objs o = none then some (s.setObj o (some none)) else none
  | .construct o attr => s.construct env o attr
  | .moveConstruct o source =>
      match s.objs o, s.objs source with
      | none, some obj => some ((s.setObj source (some none)).setObj o (some obj))
      | _, _ => none
  | .moveAssign o source =>
      match s.objs o, s.objs source with
      | some obj, some obj' =>
          if joinable (s.pThread obj) = true then some { s with status := .terminated }
          else some ((s.setObj o (some obj')).setObj source (some obj))
      | _, _ => none
  | .swap o other =>
      match s.objs o, s.objs other with
      | some obj, some obj' => some ((s.setObj o (some obj')).setObj other (some obj))
      | _, _ => none
  | .join o => (s.objs o).map (s.joinObj env)
  | .detach o => (s.objs o).map (s.detachObj env)
  | .destroy o =>
      match s.objs o with
      | none => none
      | some none => some (s.setObj o none)
      | some (some i) =>
          match s.impls i with
          | none => none
          | some impl =>
              if impl.joinable = true then some { s with status := .terminated }
              else some ((s.setObj o none).deleteImpl env i impl)

def finish (s : State) (id : Handle) : Option State :=
  match s.os.threads id with
  | none => none
  | some thread =>
      if thread.running = true then
        some ({ s with os := s.os.set id thread.ended }.record [.finished thread.serial])
      else none

def step (s : State) (a : Action) : Option State :=
  if s.status = .running then
    match a with
    | .user op env => s.userStep env op
    | .finish id => s.finish id
  else none

end State

def system : ActionSystem State Action where
  initial := .initial
  step := State.step

end CmsisCpp.Thread
