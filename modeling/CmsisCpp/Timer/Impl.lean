import CmsisCpp.TimedCall

/-! # `cmsis_timer`

Source: `src/Timer.cpp`.  The class behind `timer`: one OS timer, its period and
the callback that the handler invokes.  The callback itself is user code. -/
set_option autoImplicit false

namespace CmsisCpp.Timer

open CallScript

inductive TimerType
  | osTimerOnce
  | osTimerPeriodic
  deriving DecidableEq, Repr

/-- The address of a `cmsis_timer`, which is the argument of its handler. -/
abbrev ImplId := Nat

inductive TimerCall
  | osTimerNew (type : TimerType) (argument : ImplId)
  | osTimerDelete (id : Handle)
  | osTimerStart (id : Handle) (ticks : Int)
  | osTimerStop (id : Handle)
  | osTimerIsRunning (id : Handle)
  deriving DecidableEq, Repr

abbrev timerSig : Signature where
  Call := TimerCall
  Reply
    | .osTimerNew _ _ => Handle
    | .osTimerDelete _ => OsStatus
    | .osTimerStart _ _ => OsStatus
    | .osTimerStop _ => OsStatus
    | .osTimerIsRunning _ => Bool

/-- The constructor, for an object at the address `argument`; its value is `m_id`.
The second text is the source's. -/
def cmsisTimer (argument : ImplId) (usec : Int) (hasCallback once : Bool) :
    Script timerSig SystemError Handle :=
  if hasCallback = false then
    .throw (osFailure .osErrorParameter "timer: missing callback")
  else if usec < 0 then
    .throw (osFailure .osErrorParameter "base_timed_mutex: negative timer")
  else
    .ask (.osTimerNew (if once then .osTimerOnce else .osTimerPeriodic) argument)
      fun (id : Handle) =>
        if id = 0 then .throw (osFailure .osError "osTimerNew") else .done id

def destroy (id : Handle) : Script timerSig SystemError Unit :=
  .ask (.osTimerDelete id) fun (sta : OsStatus) => expectOk sta (strError "osTimerDelete" id)

def start (freq : Int) (id : Handle) (usec : Int) : Script timerSig SystemError Unit :=
  .ask (.osTimerStart id (timeoutTicks freq usec)) fun (sta : OsStatus) =>
    expectOk sta (strError "osTimerStart" id)

def stop (id : Handle) : Script timerSig SystemError Unit :=
  .ask (.osTimerStop id) fun (sta : OsStatus) => expectOk sta (strError "osTimerStop" id)

def running (id : Handle) : Script timerSig SystemError Bool :=
  .ask (.osTimerIsRunning id) fun (isRunning : Bool) => .done isRunning

end CmsisCpp.Timer
