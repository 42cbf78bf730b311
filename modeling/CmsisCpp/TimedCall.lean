import CmsisCpp.Duration
import CmsisCpp.Library.CallScript

/-! # The common part of the timed operations

Every timed operation rejects a negative time, turns the time into ticks, makes
one OS call with that timeout and reads the answer.  Those whose call answers
with an `osStatus_t` also read it alike: nothing obtained at once or in time is a
plain result, every other failure an exception. -/
set_option autoImplicit false

namespace CmsisCpp

open CallScript

section Timed
variable {sig : Signature} {Val : Type}

/-- The check of the time and the conversion, in front of `body`. -/
def withTimeout (freq usec : Int) (negative : String) (body : Int → Script sig SystemError Val) :
    Script sig SystemError Val :=
  if usec < 0 then .throw (osFailure .osErrorParameter negative)
  else body (timeoutTicks freq usec)

/-- The reading of the answer: `refused` when a call without waiting got nothing,
`value` when it got something or the time is over. -/
def readStatus (timeout : Int) (sta : OsStatus) (what : String) (refused value : Val) :
    Script sig SystemError Val :=
  if timeout = 0 ∧ sta = .osErrorResource then .done refused
  else if sta ≠ .osOK ∧ sta ≠ .osErrorTimeout then .throw (osFailure sta what)
  else .done value

def expectOk (sta : OsStatus) (what : String) : Script sig SystemError Unit :=
  if sta ≠ .osOK then .throw (osFailure sta what) else .done ()

/-- The body of the `*_until` overloads, given `abs_time - Clock::now()`. -/
def withTimeLeft (relTime : Duration) (forTime : Duration → Script sig SystemError Bool) :
    Script sig SystemError Bool :=
  if relTime.isNegative then .done false else forTime relTime

variable {freq usec : Int} {negative : String} {body : Int → Script sig SystemError Val}

theorem withTimeout_negative (isNegative : usec < 0) :
    withTimeout freq usec negative body = .throw (osFailure .osErrorParameter negative) := by
  rw [withTimeout, if_pos isNegative]

theorem withTimeout_nonneg (nonneg : 0 ≤ usec) :
    withTimeout freq usec negative body = body (timeoutTicks freq usec) := by
  rw [withTimeout, if_neg (by omega)]

@[simp] theorem readStatus_trace (reply : (call : sig.Call) → sig.Reply call) (timeout : Int)
    (sta : OsStatus) (what : String) (refused value : Val) :
    (readStatus timeout sta what refused value : Script sig SystemError Val).trace reply = [] := by
  unfold readStatus
  split
  · rfl
  · split <;> rfl

@[simp] theorem expectOk_trace (reply : (call : sig.Call) → sig.Reply call) (sta : OsStatus)
    (what : String) : (expectOk sta what : Script sig SystemError Unit).trace reply = [] := by
  unfold expectOk
  split <;> rfl

end Timed

end CmsisCpp
