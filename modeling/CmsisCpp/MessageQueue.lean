import CmsisCpp.TimedCall

/-! # Message queues

Source: `include/MessageQueue.h`, `src/MessageQueue.cpp`.

`message_queue_impl` copies messages of a type `Msg` in and out of an OS queue.
The specialisation for `std::unique_ptr` sends bare pointers: its `put` takes the
pointer out of the caller's `unique_ptr` before it knows whether the queue
accepts it. -/
set_option autoImplicit false

namespace CmsisCpp.MessageQueue

open CallScript

inductive MqStatus
  | noTimeout
  | timeout
  | full
  | empty
  deriving DecidableEq, Repr

inductive QueueCall (Msg : Type)
  | osMessageQueuePut (id : Handle) (msg : Msg) (priority : UInt8) (timeout : Int)
  | osMessageQueueGet (id : Handle) (timeout : Int)
  deriving DecidableEq, Repr

/-- A get answers with its status and what it wrote to the caller's buffer. -/
abbrev queueSig (Msg : Type) : Signature where
  Call := QueueCall Msg
  Reply
    | .osMessageQueuePut _ _ _ _ => OsStatus
    | .osMessageQueueGet _ _ => OsStatus × Option Msg

/-! ## `message_queue_impl` -/

section Impl
variable {Msg : Type}

def put (id : Handle) (data : Msg) (priority : UInt8) : Script (queueSig Msg) SystemError Unit :=
  .ask (.osMessageQueuePut id data priority osWaitForever) fun (sta : OsStatus) =>
    expectOk sta (strError "osMessageQueuePut" id)

def putUsec (freq : Int) (id : Handle) (data : Msg) (priority : UInt8) (usec : Int) :
    Script (queueSig Msg) SystemError MqStatus :=
  withTimeout freq usec "Data queue: negative timer" fun timeout =>
    .ask (.osMessageQueuePut id data priority timeout) fun (sta : OsStatus) =>
      readStatus timeout sta (strError "osMessageQueuePut" id) .full
        (if sta = .osOK then .noTimeout else .timeout)

/-- The value is what the buffer holds after the call. -/
def get (id : Handle) (data : Msg) : Script (queueSig Msg) SystemError Msg :=
  .ask (.osMessageQueueGet id osWaitForever) fun (reply : OsStatus × Option Msg) =>
    if reply.1 ≠ .osOK then .throw (osFailure reply.1 (strError "osMessageQueueGet" id))
    else .done (reply.2.getD data)

def getUsec (freq : Int) (id : Handle) (data : Msg) (usec : Int) :
    Script (queueSig Msg) SystemError (MqStatus × Msg) :=
  withTimeout freq usec "Data queue: negative timer" fun timeout =>
    .ask (.osMessageQueueGet id timeout) fun (reply : OsStatus × Option Msg) =>
      let buffer := reply.2.getD data
      readStatus timeout reply.1 (strError "osMessageQueueGet" id) (.empty, buffer)
        (if reply.1 = .osOK then .noTimeout else .timeout, buffer)

end Impl

/-! ## The OS queue -/

section Queue
variable {Msg : Type}

/-- The messages of an OS queue in the order in which they will be received. -/
abbrev OsQueue (Msg : Type) := List (Msg × UInt8)

/-- A message goes behind the messages of its own and of higher priority. -/
def OsQueue.insert (queue : OsQueue Msg) (msg : Msg) (priority : UInt8) : OsQueue Msg :=
  match queue with
  | [] => [(msg, priority)]
  | head :: rest =>
      if head.2 < priority then (msg, priority) :: head :: rest
      else head :: OsQueue.insert rest msg priority

/-- The OS queue under a call that is answered with `answer`; `osOK` is the only
answer that changes it. -/
def kernel (answer : OsStatus) :
    (call : QueueCall Msg) → OsQueue Msg → (queueSig Msg).Reply call × OsQueue Msg
  | .osMessageQueuePut _ msg priority _, queue =>
      (answer, if answer = .osOK then OsQueue.insert queue msg priority else queue)
  | .osMessageQueueGet _ _, [] => ((answer, none), [])
  | .osMessageQueueGet _ _, head :: rest =>
      if answer = .osOK then ((answer, some head.1), rest) else ((answer, none), head :: rest)

def PutAnswer (capacity : Nat) (queue : OsQueue Msg) (timeout : Int) : OsStatus → Prop
  | .osOK => queue.length < capacity ∨ timeout ≠ 0
  | .osErrorResource => queue.length = capacity ∧ timeout = 0
  | .osErrorTimeout => queue.length = capacity ∧ timeout ≠ 0 ∧ timeout ≠ osWaitForever
  | _ => True

end Queue

/-! ## `message_queue<std::unique_ptr<T>>` -/

/-- `std::unique_ptr<T>`; the pointer is null when it owns nothing. -/
structure UniquePtr where
  ptr : Handle
  deriving DecidableEq, Repr

def UniquePtr.null : UniquePtr := ⟨0⟩

def UniquePtr.release (p : UniquePtr) : Handle × UniquePtr := (p.ptr, .null)

/-- An operation on the caller's `unique_ptr`: what is still to run, and the
`unique_ptr` as every outcome of it leaves it. -/
structure OnUniquePtr (Val : Type) where
  rest : Script (queueSig Handle) SystemError Val
  data : UniquePtr

def putUnique (id : Handle) (data : UniquePtr) (priority : UInt8) : OnUniquePtr Unit :=
  let (ptr, data) := data.release
  ⟨put id ptr priority, data⟩

def putUniqueFor (freq : Int) (id : Handle) (data : UniquePtr) (priority : UInt8)
    (waitTime : Duration) : OnUniquePtr MqStatus :=
  let (ptr, data) := data.release
  ⟨putUsec freq id ptr priority waitTime.toUsec, data⟩

def putUniqueForDefault (freq : Int) (id : Handle) (data : UniquePtr) (waitTime : Duration) :
    OnUniquePtr MqStatus :=
  let (ptr, data) := data.release
  ⟨putUsec freq id ptr 0 waitTime.toUsec, data⟩

/-! ## All or nothing -/

/-- Either the call reports acceptance, the message is in the queue and the caller
owns nothing, or it reports none, the queue and the caller's `unique_ptr` are as
they were. -/
def AllOrNothing {Val : Type} (accepted : Val) (priority : UInt8) (answer : OsStatus)
    (queue : OsQueue Handle) (data : UniquePtr) (op : OnUniquePtr Val) : Prop :=
  (op.rest.run (kernel answer) queue = (.ok accepted, OsQueue.insert queue data.ptr priority) ∧
      op.data = .null) ∨
    ((op.rest.run (kernel answer) queue).1 ≠ .ok accepted ∧
      (op.rest.run (kernel answer) queue).2 = queue ∧ op.data = data)

section AllOrNothing
variable (freq : Int) (id : Handle) (data : UniquePtr) (priority : UInt8) (answer : OsStatus)
  (queue : OsQueue Handle)

theorem put_run : (put id data.ptr priority).run (kernel answer) queue =
    if answer = .osOK then (.ok (), OsQueue.insert queue data.ptr priority)
    else (.error (osFailure answer (strError "osMessageQueuePut" id)), queue) := by
  by_cases ok : answer = .osOK <;> simp [put, expectOk, kernel, ok]

/-- A timed put that is not answered with `osOK` leaves the queue alone and does
not report acceptance. -/
theorem putUsec_run_refused {usec : Int} (refused : usec < 0 ∨ answer ≠ .osOK) :
    ((putUsec freq id data.ptr priority usec).run (kernel answer) queue).1 ≠ .ok .noTimeout ∧
      ((putUsec freq id data.ptr priority usec).run (kernel answer) queue).2 = queue := by
  rcases lt_or_ge usec 0 with negative | nonneg
  · rw [putUsec, withTimeout_negative negative]
    simp
  · have notOk : answer ≠ .osOK := refused.resolve_left (by omega)
    rw [putUsec, withTimeout_nonneg nonneg]
    by_cases immediate : timeoutTicks freq usec = 0 <;>
      cases answer <;> simp_all [kernel, readStatus]

theorem putUsec_run_accepted {usec : Int} (nonneg : 0 ≤ usec) :
    (putUsec freq id data.ptr priority usec).run (kernel .osOK) queue =
      (.ok .noTimeout, OsQueue.insert queue data.ptr priority) := by
  rw [putUsec, withTimeout_nonneg nonneg]
  simp [kernel, readStatus]

/-- An operation that has given the pointer away is all or nothing exactly when
there was no object or the queue accepts it. -/
theorem allOrNothing_iff_of_released {Val : Type} {accepted : Val} {op : OnUniquePtr Val}
    {cond : Prop} (released : op.data = .null)
    (accepts : cond →
      op.rest.run (kernel answer) queue = (.ok accepted, OsQueue.insert queue data.ptr priority))
    (refuses : ¬ cond → (op.rest.run (kernel answer) queue).1 ≠ .ok accepted ∧
      (op.rest.run (kernel answer) queue).2 = queue) :
    AllOrNothing accepted priority answer queue data op ↔ data = .null ∨ cond := by
  rw [AllOrNothing]
  by_cases met : cond
  · exact iff_of_true (.inl ⟨accepts met, released⟩) (.inr met)
  · obtain ⟨notAccepted, unchanged⟩ := refuses met
    constructor
    · rintro (⟨ran, _⟩ | ⟨_, _, kept⟩)
      · exact absurd (by rw [ran]) notAccepted
      · exact .inl (kept.symm.trans released)
    · rintro (null | contrary)
      · exact .inr ⟨notAccepted, unchanged, by rw [released, null]⟩
      · exact absurd contrary met

theorem putUsec_iff {usec : Int} {op : OnUniquePtr MqStatus} (released : op.data = .null)
    (rest : op.rest = putUsec freq id data.ptr priority usec) :
    AllOrNothing .noTimeout priority answer queue data op ↔
      data = .null ∨ (0 ≤ usec ∧ answer = .osOK) := by
  apply allOrNothing_iff_of_released data priority answer queue released
  · rintro ⟨nonneg, rfl⟩
    rw [rest]
    exact putUsec_run_accepted freq id data priority queue nonneg
  · intro notMet
    have refused : usec < 0 ∨ answer ≠ .osOK := by
      by_cases nonneg : 0 ≤ usec
      · exact .inr fun ok => notMet ⟨nonneg, ok⟩
      · exact .inl (by omega)
    rw [rest]
    exact putUsec_run_refused freq id data priority answer queue refused

/-- The three overloads of `put` transfer an object all or nothing exactly when
the OS answers `osOK`, after a time that is not negative for the timed ones. -/
theorem putUnique_allOrNothing_iff :
    (AllOrNothing () priority answer queue data (putUnique id data priority) ↔
        data = .null ∨ answer = .osOK) ∧
      (∀ waitTime : Duration,
        (AllOrNothing .noTimeout priority answer queue data
            (putUniqueFor freq id data priority waitTime) ↔
          data = .null ∨ (0 ≤ waitTime.toUsec ∧ answer = .osOK)) ∧
        (AllOrNothing .noTimeout 0 answer queue data (putUniqueForDefault freq id data waitTime) ↔
          data = .null ∨ (0 ≤ waitTime.toUsec ∧ answer = .osOK))) := by
  refine ⟨?_, fun waitTime => ⟨?_, ?_⟩⟩
  · apply allOrNothing_iff_of_released data priority answer queue rfl
    · intro ok
      exact (put_run id data priority answer queue).trans (if_pos ok)
    · intro notOk
      have ran := put_run id data priority answer queue
      rw [if_neg notOk] at ran
      change ((put id data.ptr priority).run (kernel answer) queue).1 ≠ _ ∧
        ((put id data.ptr priority).run (kernel answer) queue).2 = queue
      simp [ran]
  · exact putUsec_iff freq id data priority answer queue rfl rfl
  · exact putUsec_iff freq id data 0 answer queue rfl rfl

end AllOrNothing

theorem putUnique_full_losesObject :
    ¬ ∀ (capacity : Nat) (queue : OsQueue Handle) (data : UniquePtr) (answer : OsStatus),
      PutAnswer capacity queue (timeoutTicks 1000 0) answer →
        AllOrNothing .noTimeout 0 answer queue data
          (putUniqueFor 1000 1 data 0 (.microseconds 0)) := by
  intro claimed
  have answer : PutAnswer 1 [((7 : Handle), (0 : UInt8))] (timeoutTicks 1000 0) .osErrorResource :=
    ⟨rfl, rfl⟩
  rcases claimed 1 _ ⟨9⟩ _ answer with ⟨ran, _⟩ | ⟨_, _, kept⟩
  · exact absurd (congrArg Prod.snd ran) (by decide)
  · exact absurd kept (by decide)

end CmsisCpp.MessageQueue
