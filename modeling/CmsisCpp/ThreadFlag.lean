import CmsisCpp.WaitFlag

/-! # Waiting for the flags of the running thread

Source: `include/ThreadFlag.h`, `src/ThreadFlag.cpp`. -/
set_option autoImplicit false

namespace CmsisCpp.ThreadFlag

open CallScript

inductive ThreadFlagCall
  | osThreadFlagsWait (mask option : UInt32) (timeout : Int)
  deriving DecidableEq, Repr

abbrev threadFlagSig : Signature where
  Call := ThreadFlagCall
  Reply
    | .osThreadFlagsWait _ _ _ => UInt32

def wait (mask : UInt32) (flg : WaitFlag) : Script threadFlagSig SystemError UInt32 :=
  .ask (.osThreadFlagsWait mask (waitOption flg) osWaitForever) fun (flags : UInt32) =>
    readFlags flags "osThreadFlagsWait"

def waitForUsec (freq : Int) (mask : UInt32) (flg : WaitFlag) (usec : Int) :
    Script threadFlagSig SystemError (FlagStatus × UInt32) :=
  withTimeout freq usec "thread_flag: negative timer" fun timeout =>
    .ask (.osThreadFlagsWait mask (waitOption flg) timeout) fun (flagValue : UInt32) =>
      readTimedFlags timeout flagValue "osThreadFlagsWait"

end CmsisCpp.ThreadFlag
