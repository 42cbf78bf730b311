import Mathlib.Logic.Function.Basic
import CmsisCpp.Library.ActionSystem
import CmsisCpp.Semaphore

/-! # The condition variable as a system of threads

Source: `include/ConditionVariable.h`, `src/ConditionVariable.cpp`.

Any number of threads call `wait`, `wait_for`, `wait_until`, `notify_one` and
`notify_all` on one condition variable and lock and unlock their own mutexes in
between.  A thread is at a program counter `Pc`; one step executes the
instruction there, which is one OS call or one access to `m_wait`.  A call of
`wait_for_usec` is named by its thread and a sequence number, and stands for the
address of its local semaphore, which is what `m_wait` lists.

The operations of the mutexes do not fail and `osSemaphoreDelete` succeeds on
the live local semaphore.  `m_wait.erase(it)` on a node that is no longer in the
list and a `release` of a destroyed semaphore are undefined: the run ends. -/
set_option autoImplicit false

namespace CmsisCpp.ConditionVariable

open CallScript CmsisCpp.Semaphore

abbrev ThreadId := Nat
abbrev LockId := Nat

inductive CvStatus
  | noTimeout
  | timeout
  deriving DecidableEq, Repr

/-- One call of `wait_for_usec`, and the address of its local `sema`. -/
structure Call where
  thread : ThreadId
  seq : Nat
  deriving DecidableEq, Repr

inductive Exn
  | system (error : SystemError)
  | badAlloc
  deriving DecidableEq, Repr

inductive Exit
  | returned (status : CvStatus)
  | threw (exn : Exn)
  deriving DecidableEq, Repr

inductive Pc
  | idle
  -- wait_for_usec
  | semaphoreNew
  | lockRegister
  | insert
  | unlockRegister
  | unlockInsertFailed
  | unlockUser
  | acquire
  | relock (st : Bool)
  | lockErase
  | erase
  | unlockErase
  | leave (exit : Exit)
  -- notify_one
  | lockNotifyOne
  | front
  | popFront
  -- notify_all; `rest` is what the range-for has still to visit
  | lockNotifyAll
  | releasing (rest : List Call)
  | unlockNotify
  deriving DecidableEq, Repr

/-- The local `sema`: its OS identifier and its tokens (at most one). -/
structure LocalSemaphore where
  id : Handle
  count : Nat
  deriving DecidableEq, Repr

structure WaitArgs where
  lock : LockId
  usec : Int
  deriving DecidableEq, Repr

inductive Event
  | registered (call : Call)
  | released (call : Call)
  | removed (call : Call)
  | left (call : Call) (usec : Int) (exit : Exit) (ownsLock : Bool)
  deriving DecidableEq, Repr

structure State where
  status : ProgramStatus
  owner : LockId → Option ThreadId
  mMutex : Option ThreadId
  mWait : List Call
  sema : Call → Option LocalSemaphore
  calls : ThreadId → Nat
  args : ThreadId → WaitArgs
  pc : ThreadId → Pc
  log : List Event

def State.initial : State where
  status := .running
  owner _ := none
  mMutex := none
  mWait := []
  sema _ := none
  calls _ := 0
  args _ := ⟨0, 0⟩
  pc _ := .idle
  log := []

/-- What an idle thread can start; `wait_until` is given by its `rel_time`. -/
inductive Operation
  | lock (l : LockId)
  | unlock (l : LockId)
  | wait (l : LockId)
  | waitFor (l : LockId) (relTime : Duration)
  | waitUntil (l : LockId) (relTime : Duration)
  | notifyOne
  | notifyAll

/-- The outcome of an instruction that the code does not choose. -/
inductive Answer
  | done
  | handle (id : Handle)
  | allocated (ok : Bool)
  | status (sta : OsStatus)
  deriving DecidableEq, Repr

inductive Action
  | start (t : ThreadId) (op : Operation)
  | next (t : ThreadId) (answer : Answer)

def Action.thread : Action → ThreadId
  | .start t _ => t
  | .next t _ => t

def Action.answer : Action → Answer
  | .start _ _ => .done
  | .next _ answer => answer

namespace State

def current (s : State) (t : ThreadId) : Call := ⟨t, s.calls t⟩

def goto (s : State) (t : ThreadId) (pc : Pc) : State :=
  { s with pc := Function.update s.pc t pc }

def setSema (s : State) (c : Call) (sema : Option LocalSemaphore) : State :=
  { s with sema := Function.update s.sema c sema }

def record (s : State) (events : List Event) : State := { s with log := s.log ++ events }

def ownsLock (s : State) (t : ThreadId) : Bool := s.owner (s.args t).lock = some t

def finish (s : State) (t : ThreadId) (exit : Exit) : State :=
  (s.record [.left (s.current t) (s.args t).usec exit (s.ownsLock t)]).goto t .idle

def waitForUsec (s : State) (t : ThreadId) (l : LockId) (usec : Int) : State :=
  if s.owner l = some t then
    { s with
      calls := Function.update s.calls t (s.calls t + 1)
      args := Function.update s.args t ⟨l, usec⟩
      pc := Function.update s.pc t .semaphoreNew }
  else { s with status := .terminated }

def startOperation (s : State) (t : ThreadId) : Operation → Option State
  | .lock l =>
      if s.owner l = none then some { s with owner := Function.update s.owner l (some t) }
      else none
  | .unlock l =>
      if s.owner l = some t then some { s with owner := Function.update s.owner l none }
      else none
  | .wait l => some (s.waitForUsec t l (Duration.microseconds microsecondsMax).toUsec)
  | .waitFor l relTime => some (s.waitForUsec t l relTime.toUsec)
  | .waitUntil l relTime =>
      -- an expired deadline returns `timeout` before the lock is looked at
      if relTime.isNegative then some s else some (s.waitForUsec t l relTime.toUsec)
  | .notifyOne => some (s.goto t .lockNotifyOne)
  | .notifyAll => some (s.goto t .lockNotifyAll)

def lockMutex (s : State) (t : ThreadId) (pc : Pc) : Option State :=
  if s.mMutex = none then some ({ s with mMutex := some t }.goto t pc) else none

def unlockMutex (s : State) (t : ThreadId) (pc : Pc) : State :=
  { s with mMutex := none }.goto t pc

/-- `psema->release()` inside a `noexcept` notifier: a second token does not fit
the binary semaphore, the exception of `base_semaphore::release` terminates. -/
def release (s : State) (t : ThreadId) (c : Call) (pc : Pc) : State :=
  match s.sema c with
  | none => { s with status := .undefined }
  | some sema =>
      if sema.count < 1 then
        ((s.setSema c (some ⟨sema.id, sema.count + 1⟩)).record [.released c]).goto t pc
      else { s with status := .terminated }

/-- `sema.try_acquire_for(usec)`.  When it throws, the unwinding destroys `sema`
and nothing locks `lock` again or takes the node out of `m_wait`. -/
def tryAcquire (freq : Int) (s : State) (t : ThreadId) (sta : OsStatus) : Option State :=
  match s.sema (s.current t) with
  | none => none
  | some sema =>
      let script := tryAcquireForUsec freq sema.id (s.args t).usec
      if ∀ call ∈ script.trace (statusReply sta), AcquireAnswer sema.count call sta then
        match script.eval (statusReply sta) with
        | .error error => some (s.goto t (.leave (.threw (.system error))))
        | .ok true =>
            some ((s.setSema (s.current t) (some ⟨sema.id, sema.count - 1⟩)).goto t (.relock true))
        | .ok false => some (s.goto t (.relock false))
      else none

def instruction (freq : Int) (s : State) (t : ThreadId) (answer : Answer) : Option State :=
  match s.pc t, answer with
  | .semaphoreNew, .handle id =>
      if id = 0 then
        some (s.finish t (.threw (.system (osFailure .osError "osSemaphoreNew"))))
      else some ((s.setSema (s.current t) (some ⟨id, 0⟩)).goto t .lockRegister)
  | .lockRegister, .done => s.lockMutex t .insert
  | .insert, .allocated true =>
      some (({ s with mWait := s.mWait ++ [s.current t] }.record
        [.registered (s.current t)]).goto t .unlockRegister)
  | .insert, .allocated false => some (s.goto t .unlockInsertFailed)
  | .unlockRegister, .done => some (s.unlockMutex t .unlockUser)
  | .unlockInsertFailed, .done => some (s.unlockMutex t (.leave (.threw .badAlloc)))
  | .unlockUser, .done =>
      some ({ s with owner := Function.update s.owner (s.args t).lock none }.goto t .acquire)
  | .acquire, .status sta => s.tryAcquire freq t sta
  | .relock st, .done =>
      if s.owner (s.args t).lock = none then
        some ({ s with owner := Function.update s.owner (s.args t).lock (some t) }.goto t
          (if st then .leave (.returned .noTimeout) else .lockErase))
      else none
  | .lockErase, .done => s.lockMutex t .erase
  | .erase, .done =>
      if s.current t ∈ s.mWait then
        some (({ s with mWait := s.mWait.erase (s.current t) }.record
          [.removed (s.current t)]).goto t .unlockErase)
      else some ({ s with status := .undefined }.record [.removed (s.current t)])
  | .unlockErase, .done => some (s.unlockMutex t (.leave (.returned .timeout)))
  | .leave exit, .done => some ((s.setSema (s.current t) none).finish t exit)
  | .lockNotifyOne, .done => s.lockMutex t .front
  | .front, .done =>
      match s.mWait with
      | [] => some (s.goto t .unlockNotify)
      | c :: _ => some (s.release t c .popFront)
  | .popFront, .done =>
      match s.mWait with
      | [] => some { s with status := .undefined }
      | c :: rest =>
          some (({ s with mWait := rest }.record [.removed c]).goto t .unlockNotify)
  | .lockNotifyAll, .done => s.lockMutex t (.releasing s.mWait)
  | .releasing (c :: rest), .done => some (s.release t c (.releasing rest))
  | .releasing [], .done =>
      some (({ s with mWait := [] }.record (s.mWait.map .removed)).goto t .unlockNotify)
  | .unlockNotify, .done => some (s.unlockMutex t .idle)
  | _, _ => none

def step (freq : Int) (s : State) (a : Action) : Option State :=
  if s.status = .running then
    match a with
    | .start t op => if s.pc t = .idle then s.startOperation t op else none
    | .next t answer => s.instruction freq t answer
  else none

end State

def system (freq : Int) : ActionSystem State Action where
  initial := .initial
  step := State.step freq

end CmsisCpp.ConditionVariable
