import CmsisCpp.TimedCall

/-! # Waiting for flags

Source: `include/WaitFlag.h`, and what `src/EventFlag.cpp` and `src/ThreadFlag.cpp`
have in common: the options a `wait_flag` stands for and the reading of the flags
that the OS answers with, of which bit 31 marks an error. -/
set_option autoImplicit false

namespace CmsisCpp

open CallScript FixedWidth

/-- `wait_flag`, an enumeration over `uint32_t` that is also used as a set of bits. -/
structure WaitFlag where
  bits : UInt32
  deriving DecidableEq, Repr

namespace WaitFlag

def any : WaitFlag := ⟨0⟩
def all : WaitFlag := ⟨1⟩
def noClear : WaitFlag := ⟨2⟩

/-- `operator|` and `operator&`. -/
def or (left right : WaitFlag) : WaitFlag := ⟨left.bits ||| right.bits⟩
def and (left right : WaitFlag) : WaitFlag := ⟨left.bits &&& right.bits⟩

/-- `operator|=`, which takes its left operand by value and returns the copy. -/
def orAssign (left right : WaitFlag) : WaitFlag :=
  let left := left.or right
  left

def andAssign (left right : WaitFlag) : WaitFlag :=
  let left := left.and right
  left

end WaitFlag

def osFlagsWaitAny : UInt32 := 0x00000000
def osFlagsWaitAll : UInt32 := 0x00000001
def osFlagsNoClear : UInt32 := 0x00000002

def osFlagsError : UInt32 := 0x80000000
def osFlagsErrorTimeout : UInt32 := 0xFFFFFFFE
def osFlagsErrorResource : UInt32 := 0xFFFFFFFD

inductive FlagStatus
  | noTimeout
  | timeout
  deriving DecidableEq, Repr

def waitOption (flg : WaitFlag) : UInt32 :=
  let option := if flg.and .all = .all then osFlagsWaitAll else osFlagsWaitAny
  if flg.and .noClear = .noClear then option ||| osFlagsNoClear else option

def toInt32 (flags : UInt32) : Int := signed 32 flags.toNat

theorem toInt32_neg_iff (flags : UInt32) :
    toInt32 flags < 0 ↔ flags.toNat.testBit 31 = true := by
  have bound := flags.toNat_lt
  have unfolded : toInt32 flags = ((flags.toNat : Int) + 2147483648) % 4294967296 - 2147483648 :=
    rfl
  rw [Nat.testBit_eq_decide_div_mod_eq, decide_eq_true_eq]
  omega

section Reading
variable {sig : Signature}

def readFlags (flags : UInt32) (what : String) : Script sig SystemError UInt32 :=
  if toInt32 flags < 0 then .throw (flagsFailure (toInt32 flags) what) else .done flags

/-- The answer to a timed wait; the flags are also what `flagValue` is set to. -/
def readTimedFlags (timeout : Int) (flagValue : UInt32) (what : String) :
    Script sig SystemError (FlagStatus × UInt32) :=
  if timeout = 0 ∧ flagValue = osFlagsErrorResource then .done (.timeout, flagValue)
  else if flagValue &&& osFlagsError ≠ 0 ∧ flagValue ≠ osFlagsErrorTimeout then
    .throw (flagsFailure (toInt32 flagValue) what)
  else .done (if flagValue = osFlagsErrorTimeout then .timeout else .noTimeout, flagValue)

theorem readFlags_run {State : Type}
    (handler : (call : sig.Call) → State → sig.Reply call × State) (flags : UInt32)
    (what : String) (s : State) :
    ((readFlags flags what : Script sig SystemError UInt32).run handler s).2 = s := by
  unfold readFlags
  split <;> rfl

@[simp] theorem readFlags_trace (reply : (call : sig.Call) → sig.Reply call) (flags : UInt32)
    (what : String) :
    (readFlags flags what : Script sig SystemError UInt32).trace reply = [] := by
  unfold readFlags
  split <;> rfl

@[simp] theorem readTimedFlags_trace (reply : (call : sig.Call) → sig.Reply call) (timeout : Int)
    (flagValue : UInt32) (what : String) :
    (readTimedFlags timeout flagValue what : Script sig SystemError _).trace reply = [] := by
  unfold readTimedFlags
  split
  · rfl
  · split <;> rfl

end Reading

end CmsisCpp
