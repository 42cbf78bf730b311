import CmsisCpp.WaitFlag

/-! # Waiting for event flags

Source: `include/EventFlag.h`, `src/EventFlag.cpp`. -/
set_option autoImplicit false

namespace CmsisCpp.EventFlag

open CallScript

inductive EventCall
  | osEventFlagsWait (id : Handle) (mask option : UInt32) (timeout : Int)
  deriving DecidableEq, Repr

abbrev eventSig : Signature where
  Call := EventCall
  Reply
    | .osEventFlagsWait _ _ _ _ => UInt32

def wait (id : Handle) (mask : UInt32) (flg : WaitFlag) : Script eventSig SystemError UInt32 :=
  .ask (.osEventFlagsWait id mask (waitOption flg) osWaitForever) fun (flags : UInt32) =>
    readFlags flags (strError "osEventFlagsWait" id)

def waitForUsec (freq : Int) (id : Handle) (mask : UInt32) (flg : WaitFlag) (usec : Int) :
    Script eventSig SystemError (FlagStatus × UInt32) :=
  withTimeout freq usec "event: negative timer" fun timeout =>
    .ask (.osEventFlagsWait id mask (waitOption flg) timeout) fun (flagValue : UInt32) =>
      readTimedFlags timeout flagValue (strError "osEventFlagsWait" id)

end CmsisCpp.EventFlag
