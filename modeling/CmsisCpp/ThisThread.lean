import CmsisCpp.TimedCall

/-! # `this_thread::sleep_for`

Source: `include/Thread.h`, `src/Thread.cpp`. -/
set_option autoImplicit false

namespace CmsisCpp.ThisThread

open CallScript

inductive DelayCall
  | osDelay (ticks : Int)
  deriving DecidableEq, Repr

abbrev delaySig : Signature where
  Call := DelayCall
  Reply
    | .osDelay _ => OsStatus

/-- `this_thread::internal::sleep_for_usec`; a time that is not positive is no
exception here and makes no call. -/
def sleepForUsec (freq usec : Int) : Script delaySig SystemError Unit :=
  if 0 < usec then
    .ask (.osDelay (timeoutTicks freq usec)) fun (sta : OsStatus) => expectOk sta "osDelay"
  else .done ()

def sleepFor (freq : Int) (sleepDuration : Duration) : Script delaySig SystemError Unit :=
  sleepForUsec freq sleepDuration.toUsec

end CmsisCpp.ThisThread
