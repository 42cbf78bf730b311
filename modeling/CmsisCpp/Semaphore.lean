import CmsisCpp.TimedCall

/-! # Semaphores

Source: `include/Semaphore.h`, `src/Semaphore.cpp`. -/
set_option autoImplicit false

namespace CmsisCpp.Semaphore

open CallScript

inductive SemaphoreCall
  | osSemaphoreAcquire (id : Handle) (timeout : Int)
  deriving DecidableEq, Repr

abbrev semaphoreSig : Signature where
  Call := SemaphoreCall
  Reply
    | .osSemaphoreAcquire _ _ => OsStatus

def tryAcquireForUsec (freq : Int) (id : Handle) (usec : Int) :
    Script semaphoreSig SystemError Bool :=
  withTimeout freq usec "semaphore: negative timer" fun timeout =>
    .ask (.osSemaphoreAcquire id timeout) fun (sta : OsStatus) =>
      readStatus timeout sta (strError "osSemaphoreAcquire" id) false (sta == .osOK)

def tryAcquireFor (freq : Int) (id : Handle) (relTime : Duration) :
    Script semaphoreSig SystemError Bool :=
  tryAcquireForUsec freq id relTime.toUsec

/-- `base_semaphore::try_acquire_until`, where `Clock::now()` answers `now`. -/
def tryAcquireUntil (freq : Int) (id : Handle) (absTime now : Duration) :
    Script semaphoreSig SystemError Bool :=
  withTimeLeft (absTime.sub now) (tryAcquireFor freq id)

def tryAcquire (id : Handle) : Script semaphoreSig SystemError Bool :=
  .ask (.osSemaphoreAcquire id 0) fun (sta : OsStatus) => .done (sta == .osOK)

/-- The answers `osSemaphoreAcquire` may give at a semaphore holding `count`
tokens: `osOK` takes a token; without one a zero timeout reports
`osErrorResource` at once and a finite timeout may expire at any moment.  Any
other status is a failure of the OS. -/
def AcquireAnswer (count : Nat) : SemaphoreCall → OsStatus → Prop
  | .osSemaphoreAcquire _ _, .osOK => 0 < count
  | .osSemaphoreAcquire _ timeout, .osErrorResource => count = 0 ∧ timeout = 0
  | .osSemaphoreAcquire _ timeout, .osErrorTimeout =>
      count = 0 ∧ timeout ≠ 0 ∧ timeout ≠ osWaitForever
  | .osSemaphoreAcquire _ _, _ => True

instance (count : Nat) (call : SemaphoreCall) (sta : OsStatus) :
    Decidable (AcquireAnswer count call sta) := by
  cases call
  cases sta <;> unfold AcquireAnswer <;> infer_instance

def statusReply (sta : OsStatus) : (call : SemaphoreCall) → semaphoreSig.Reply call
  | .osSemaphoreAcquire _ _ => sta

theorem tryAcquireForUsec_negative {freq usec : Int} (id : Handle) (negative : usec < 0) :
    tryAcquireForUsec freq id usec =
      .throw (osFailure .osErrorParameter "semaphore: negative timer") :=
  withTimeout_negative negative

theorem tryAcquireForUsec_trace {freq usec : Int} (id : Handle) (nonneg : 0 ≤ usec)
    (reply : (call : SemaphoreCall) → semaphoreSig.Reply call) :
    (tryAcquireForUsec freq id usec).trace reply =
      [.osSemaphoreAcquire id (timeoutTicks freq usec)] := by
  rw [tryAcquireForUsec, withTimeout_nonneg nonneg, Script.trace_ask, readStatus_trace]

/-- What each answer becomes: a token, no token, or an exception. -/
theorem tryAcquireForUsec_eval {freq usec : Int} (id : Handle) (nonneg : 0 ≤ usec)
    (sta : OsStatus) :
    (tryAcquireForUsec freq id usec).eval (statusReply sta) =
      if sta = .osOK then .ok true
      else if sta = .osErrorTimeout ∨ (timeoutTicks freq usec = 0 ∧ sta = .osErrorResource) then
        .ok false
      else .error (osFailure sta (strError "osSemaphoreAcquire" id)) := by
  rw [tryAcquireForUsec, withTimeout_nonneg nonneg]
  by_cases immediate : timeoutTicks freq usec = 0 <;>
    cases sta <;> simp [statusReply, readStatus, immediate]

/-! ## The kernel -/

/-- The kernel's side of a semaphore never holds more tokens than its maximum. -/
structure OsSemaphore where
  max : Nat
  count : Nat
  bounded : count ≤ max
  deriving DecidableEq, Repr

namespace OsSemaphore

def take (s : OsSemaphore) : Option OsSemaphore :=
  if 0 < s.count then some ⟨s.max, s.count - 1, (Nat.sub_le ..).trans s.bounded⟩ else none

def give (s : OsSemaphore) : Option OsSemaphore :=
  if fits : s.count < s.max then some ⟨s.max, s.count + 1, fits⟩ else none

theorem take_isSome_iff (s : OsSemaphore) : s.take.isSome ↔ 0 < s.count := by
  rw [take]
  split
  · exact iff_of_true rfl ‹_›
  · exact iff_of_false Bool.false_ne_true ‹_›

theorem give_of_lt {s : OsSemaphore} (fits : s.count < s.max) :
    s.give = some ⟨s.max, s.count + 1, fits⟩ := dif_pos fits

theorem give_of_full {s : OsSemaphore} (full : s.count = s.max) : s.give = none :=
  dif_neg (by omega)

end OsSemaphore

/-- The kernel's answer; `wait` is what an acquisition that has to wait ends in. -/
def kernel (wait : OsSemaphore → OsStatus × OsSemaphore) :
    (call : SemaphoreCall) → OsSemaphore → semaphoreSig.Reply call × OsSemaphore
  | .osSemaphoreAcquire _ timeout, s =>
      match s.take with
      | some taken => (OsStatus.osOK, taken)
      | none => if timeout = 0 then (OsStatus.osErrorResource, s) else wait s

end CmsisCpp.Semaphore
