import CmsisCpp.EventFlag
import CmsisCpp.MessageQueue
import CmsisCpp.Mutex
import CmsisCpp.Semaphore
import CmsisCpp.ThisThread
import CmsisCpp.ThreadFlag
import CmsisCpp.Timer.Impl

/-! # The ticks that the timed operations hand to the OS

The eight timed operations compute their timeout with one expression, so each
hands `timeoutTicks` to its OS call, whatever the OS answers.  That is the
duration exactly as long as it fits 32 bits of ticks; past it, the cast to
`uint32_t` in front of the saturation test wraps the duration to an arbitrary
short one. -/
set_option autoImplicit false

namespace CmsisCpp.TimedOperations

open CallScript

inductive TimedOperation
  | semaphoreTryAcquireFor
  | mutexTryLockFor
  | messageQueuePut
  | messageQueueGet
  | eventWaitFor
  | threadFlagsWaitFor
  | timerStart
  | sleepFor
  deriving DecidableEq, Repr

structure Replies where
  semaphore : (call : Semaphore.SemaphoreCall) → Semaphore.semaphoreSig.Reply call
  mutex : (call : Mutex.MutexCall) → Mutex.mutexSig.Reply call
  queue : (call : MessageQueue.QueueCall Handle) → (MessageQueue.queueSig Handle).Reply call
  event : (call : EventFlag.EventCall) → EventFlag.eventSig.Reply call
  threadFlag : (call : ThreadFlag.ThreadFlagCall) → ThreadFlag.threadFlagSig.Reply call
  timer : (call : Timer.TimerCall) → Timer.timerSig.Reply call
  delay : (call : ThisThread.DelayCall) → ThisThread.delaySig.Reply call

def semaphoreTicks : Semaphore.SemaphoreCall → Option Int
  | .osSemaphoreAcquire _ timeout => some timeout

def mutexTicks : Mutex.MutexCall → Option Int
  | .osMutexAcquire _ timeout => some timeout
  | _ => none

def queueTicks : MessageQueue.QueueCall Handle → Option Int
  | .osMessageQueuePut _ _ _ timeout => some timeout
  | .osMessageQueueGet _ timeout => some timeout

def eventTicks : EventFlag.EventCall → Option Int
  | .osEventFlagsWait _ _ _ timeout => some timeout

def threadFlagTicks : ThreadFlag.ThreadFlagCall → Option Int
  | .osThreadFlagsWait _ _ timeout => some timeout

def timerTicks : Timer.TimerCall → Option Int
  | .osTimerStart _ ticks => some ticks
  | _ => none

def delayTicks : ThisThread.DelayCall → Option Int
  | .osDelay ticks => some ticks

structure Arguments where
  id : Handle
  message : Handle
  priority : UInt8
  mask : UInt32
  flag : WaitFlag

/-- The tick counts that one call of an operation hands to the OS. -/
def ticksHanded (freq : Int) (args : Arguments) (replies : Replies) (usec : Int) :
    TimedOperation → List Int
  | .semaphoreTryAcquireFor =>
      ((Semaphore.tryAcquireForUsec freq args.id usec).trace replies.semaphore).filterMap
        semaphoreTicks
  | .mutexTryLockFor =>
      ((Mutex.tryLockForUsec freq args.id usec).trace replies.mutex).filterMap mutexTicks
  | .messageQueuePut =>
      ((MessageQueue.putUsec freq args.id args.message args.priority usec).trace
        replies.queue).filterMap queueTicks
  | .messageQueueGet =>
      ((MessageQueue.getUsec freq args.id args.message usec).trace replies.queue).filterMap
        queueTicks
  | .eventWaitFor =>
      ((EventFlag.waitForUsec freq args.id args.mask args.flag usec).trace
        replies.event).filterMap eventTicks
  | .threadFlagsWaitFor =>
      ((ThreadFlag.waitForUsec freq args.mask args.flag usec).trace
        replies.threadFlag).filterMap threadFlagTicks
  | .timerStart => ((Timer.start freq args.id usec).trace replies.timer).filterMap timerTicks
  | .sleepFor => ((ThisThread.sleepForUsec freq usec).trace replies.delay).filterMap delayTicks

section Ticks
variable {freq : Int} {args : Arguments} {replies : Replies} {usec : Int}

/-- Every operation hands over `timeoutTicks`; `sleep_for` makes no call for a
zero time. -/
theorem ticksHanded_eq (op : TimedOperation) (nonneg : 0 ≤ usec) :
    ticksHanded freq args replies usec op =
      if op = .sleepFor ∧ usec = 0 then [] else [timeoutTicks freq usec] := by
  cases op with
  | semaphoreTryAcquireFor =>
      simp [ticksHanded, Semaphore.tryAcquireForUsec_trace args.id nonneg, semaphoreTicks]
  | mutexTryLockFor =>
      simp [ticksHanded, Mutex.tryLockForUsec, withTimeout_nonneg nonneg, mutexTicks]
  | messageQueuePut =>
      simp [ticksHanded, MessageQueue.putUsec, withTimeout_nonneg nonneg, queueTicks]
  | messageQueueGet =>
      simp [ticksHanded, MessageQueue.getUsec, withTimeout_nonneg nonneg, queueTicks]
  | eventWaitFor =>
      simp [ticksHanded, EventFlag.waitForUsec, withTimeout_nonneg nonneg, eventTicks]
  | threadFlagsWaitFor =>
      simp [ticksHanded, ThreadFlag.waitForUsec, withTimeout_nonneg nonneg, threadFlagTicks]
  | timerStart => simp [ticksHanded, Timer.start, timerTicks]
  | sleepFor =>
      rcases Int.lt_or_eq_of_le nonneg with positive | zero
      · have notZero : usec ≠ 0 := by omega
        simp [ticksHanded, ThisThread.sleepForUsec, positive, notZero, delayTicks]
      · simp [ticksHanded, ThisThread.sleepForUsec, ← zero]

def Representable (freq usec : Int) : Prop :=
  usec * freq < 4294967296000000 ∨ AliasesForever (usec * freq)

theorem faithful_iff (op : TimedOperation) (nonneg : 0 ≤ usec) (freqPos : 1 ≤ freq) :
    (∀ ticks ∈ ticksHanded freq args replies usec op, TicksFaithful freq usec ticks) ↔
      Representable freq usec := by
  rw [ticksHanded_eq op nonneg, Representable]
  split
  · rename_i silent
    simp [silent.2]
  · rw [List.forall_mem_singleton]
    exact timeoutTicks_faithful_iff nonneg freqPos

/-- Faithful tick counts keep the order of the durations up to one tick. -/
theorem faithful_mono {longer ticks ticks' : Int} (freqPos : 1 ≤ freq) (ordered : usec ≤ longer)
    (bounded : ticks ≤ osWaitForever) (faithful : TicksFaithful freq usec ticks)
    (faithful' : TicksFaithful freq longer ticks') : ticks ≤ ticks' + 1 := by
  have products : usec * freq ≤ longer * freq :=
    Int.mul_le_mul_of_nonneg_right ordered (by omega)
  rcases lt_or_ge (longer * freq) (4294967295 * 1000000) with below | saturated
  · have near := faithful.2 (lt_of_le_of_lt products below)
    have near' := faithful'.2 below
    omega
  · have forever := faithful'.1 saturated
    omega

/-- The ticks of a timed operation are its duration exactly when they fit, and
then a longer duration gets no shorter wait, up to one tick. -/
theorem ticksHanded_faithful_iff (op : TimedOperation) (nonneg : 0 ≤ usec) (freqPos : 1 ≤ freq) :
    ((∀ ticks ∈ ticksHanded freq args replies usec op, TicksFaithful freq usec ticks) ↔
        Representable freq usec) ∧
      ∀ longer, usec ≤ longer → Representable freq usec → Representable freq longer →
        ∀ ticks ∈ ticksHanded freq args replies usec op,
          ∀ ticks' ∈ ticksHanded freq args replies longer op, ticks ≤ ticks' + 1 := by
  refine ⟨faithful_iff op nonneg freqPos, ?_⟩
  intro longer ordered fits fits' ticks handed ticks' handed'
  have bounded : ticks ≤ osWaitForever := by
    rw [ticksHanded_eq op nonneg] at handed
    split at handed
    · contradiction
    · rw [List.mem_singleton.mp handed]
      exact (timeoutTicks_range freq usec).2
  exact faithful_mono freqPos ordered bounded ((faithful_iff op nonneg freqPos).mpr fits _ handed)
    ((faithful_iff op (by omega) freqPos).mpr fits' _ handed')

end Ticks

def successful : Replies where
  semaphore := fun | .osSemaphoreAcquire _ _ => OsStatus.osOK
  mutex := fun
    | .osMutexNew _ => (1 : Handle)
    | .osMutexDelete _ => OsStatus.osOK
    | .osMutexAcquire _ _ => OsStatus.osOK
    | .osMutexRelease _ => OsStatus.osOK
  queue := fun
    | .osMessageQueuePut _ _ _ _ => OsStatus.osOK
    | .osMessageQueueGet _ _ => (OsStatus.osOK, some (1 : Handle))
  event := fun | .osEventFlagsWait _ _ _ _ => (1 : UInt32)
  threadFlag := fun | .osThreadFlagsWait _ _ _ => (1 : UInt32)
  timer := fun
    | .osTimerNew _ _ => (1 : Handle)
    | .osTimerDelete _ => OsStatus.osOK
    | .osTimerStart _ _ => OsStatus.osOK
    | .osTimerStop _ => OsStatus.osOK
    | .osTimerIsRunning _ => true
  delay := fun | .osDelay _ => OsStatus.osOK

theorem ticksHanded_faithful_at :
    ticksHanded 1000 ⟨1, 1, 0, 1, .any⟩ successful 1500000 .timerStart = [1500] ∧
      TicksFaithful 1000 1500000 1500 := by
  have handed : ticksHanded 1000 ⟨1, 1, 0, 1, .any⟩ successful 1500000 .timerStart = [1500] := by
    decide
  have faithful : ∀ ticks ∈ ticksHanded 1000 ⟨1, 1, 0, 1, .any⟩ successful 1500000 .timerStart,
      TicksFaithful 1000 1500000 ticks :=
    (ticksHanded_faithful_iff .timerStart (by decide) (by decide)).1.mpr (.inl (by decide))
  rw [handed] at faithful
  exact ⟨handed, faithful 1500 (List.mem_singleton_self _)⟩

/-- At a tick of a millisecond a time of `2 ^ 32` milliseconds is no time. -/
theorem ticksHanded_wraps :
    ¬ ∀ (op : TimedOperation) (freq usec : Int) (args : Arguments) (replies : Replies),
      0 ≤ usec → usec < 9223372036854775808 → 1 ≤ freq → freq < 4294967296 →
        ∀ ticks ∈ ticksHanded freq args replies usec op, TicksFaithful freq usec ticks := by
  intro claimed
  have faithful := claimed .semaphoreTryAcquireFor 1000 4294967296000 ⟨1, 1, 0, 1, .any⟩ successful
    (by decide) (by decide) (by decide) (by decide) 0 (by decide)
  exact absurd (faithful.1 (by decide)) (by decide)

end CmsisCpp.TimedOperations
