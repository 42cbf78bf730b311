import CmsisCpp.MessageQueue

/-! # The timed get of the three specialisations

Source: `include/MessageQueue.h`.  The generic `message_queue<T>` hands the caller's
variable to `message_queue_impl::get` as its buffer.  The specialisations for `T*` and
`std::unique_ptr<T>` receive into a local pointer, null before the call, and give it to
the caller's variable whenever the call returns. -/
set_option autoImplicit false

namespace CmsisCpp.MessageQueue

open CallScript

/-! ## The buffer -/

section Buffer
variable {Msg : Type}

/-- The OS queue and the buffer that a get is given; a message is written to it. -/
def kernelInto (answer : OsStatus) :
    (call : QueueCall Msg) → OsQueue Msg × Msg → (queueSig Msg).Reply call × (OsQueue Msg × Msg)
  | .osMessageQueuePut id msg priority timeout, s =>
      let ended := kernel answer (.osMessageQueuePut id msg priority timeout) s.1
      (ended.1, ended.2, s.2)
  | .osMessageQueueGet id timeout, s =>
      let ended := kernel answer (.osMessageQueueGet id timeout) s.1
      (ended.1, ended.2, ended.1.2.getD s.2)

def GetAnswer (queue : OsQueue Msg) (answer : OsStatus) : Prop := answer = .osOK → queue ≠ []

/-- The OS ends the call without a message, in a way that is no failure. -/
def GivesUp (freq usec : Int) (answer : OsStatus) : Prop :=
  0 ≤ usec ∧
    (answer = .osErrorTimeout ∨ (timeoutTicks freq usec = 0 ∧ answer = .osErrorResource))

instance (freq usec : Int) (answer : OsStatus) : Decidable (GivesUp freq usec answer) :=
  inferInstanceAs (Decidable (_ ∧ _))

end Buffer

/-! ## The specialisations -/

/-- What a timed get leaves: its status or exception, the queue, and the caller's
variable. -/
structure GetExit (Msg Var : Type) where
  outcome : Except SystemError MqStatus
  queue : OsQueue Msg
  data : Var

def getFor {Msg : Type} (freq : Int) (id : Handle) (answer : OsStatus) (queue : OsQueue Msg)
    (data : Msg) (waitTime : Duration) : GetExit Msg Msg :=
  let ended := (getUsec freq id data waitTime.toUsec).run (kernelInto answer) (queue, data)
  ⟨ended.1.map Prod.fst, ended.2.1, ended.2.2⟩

/-- `message_queue<T*>::get(data, wait_time)`. -/
def getPointerFor (freq : Int) (id : Handle) (answer : OsStatus) (queue : OsQueue Handle)
    (data : Handle) (waitTime : Duration) : GetExit Handle Handle :=
  let ptr : Handle := 0
  match (getUsec freq id ptr waitTime.toUsec).run (kernelInto answer) (queue, ptr) with
  | (.error error, queue, _) => ⟨.error error, queue, data⟩
  | (.ok ret, queue, ptr) => ⟨.ok ret.1, queue, ptr⟩

/-- `reset`: the objects it deletes, and the `unique_ptr` it leaves. -/
def UniquePtr.reset (data : UniquePtr) (ptr : Handle) : List Handle × UniquePtr :=
  (if data.ptr = 0 then [] else [data.ptr], ⟨ptr⟩)

structure UniqueExit extends GetExit Handle UniquePtr where
  deleted : List Handle

/-- `message_queue<std::unique_ptr<T>>::get(data, wait_time)`. -/
def getUniqueFor (freq : Int) (id : Handle) (answer : OsStatus) (queue : OsQueue Handle)
    (data : UniquePtr) (waitTime : Duration) : UniqueExit :=
  let ptr : Handle := 0
  match (getUsec freq id ptr waitTime.toUsec).run (kernelInto answer) (queue, ptr) with
  | (.error error, queue, _) => ⟨⟨.error error, queue, data⟩, []⟩
  | (.ok ret, queue, ptr) => ⟨⟨.ok ret.1, queue, (data.reset ptr).2⟩, (data.reset ptr).1⟩

/-! ## The runs of `message_queue_impl::get` -/

section Runs
variable {Msg : Type} {freq usec : Int} (id : Handle) {answer : OsStatus} (queue : OsQueue Msg)

theorem getUsec_run_received (nonneg : 0 ≤ usec) (head : Msg × UInt8) (rest : OsQueue Msg)
    (data : Msg) :
    (getUsec freq id data usec).run (kernelInto .osOK) (head :: rest, data) =
      (.ok (.noTimeout, head.1), rest, head.1) := by
  rw [getUsec, withTimeout_nonneg nonneg]
  simp [kernelInto, kernel, readStatus]

theorem kernelInto_get_refused (refused : answer ≠ .osOK) (timeout : Int) (data : Msg) :
    kernelInto answer (.osMessageQueueGet id timeout) (queue, data) =
      ((answer, none), queue, data) := by
  cases queue with
  | nil => rfl
  | cons head rest => simp [kernelInto, kernel, refused]

theorem getUsec_run_givesUp (givesUp : GivesUp freq usec answer) :
    ∃ status, status ≠ MqStatus.noTimeout ∧ ∀ data : Msg,
      (getUsec freq id data usec).run (kernelInto answer) (queue, data) =
        (.ok (status, data), queue, data) := by
  obtain ⟨nonneg, ending⟩ := givesUp
  have refused : answer ≠ .osOK := by
    rcases ending with rfl | ⟨_, rfl⟩
    · decide
    · decide
  by_cases immediate : timeoutTicks freq usec = 0 ∧ answer = .osErrorResource
  · refine ⟨.empty, by decide, ?_⟩
    intro data
    rw [getUsec, withTimeout_nonneg nonneg, Script.run_ask, kernelInto_get_refused id queue refused]
    simp [readStatus, immediate]
  · have late : answer = .osErrorTimeout := ending.resolve_right immediate
    refine ⟨.timeout, by decide, ?_⟩
    intro data
    rw [getUsec, withTimeout_nonneg nonneg, Script.run_ask, kernelInto_get_refused id queue refused]
    simp [readStatus, late]

theorem getUsec_run_throws (noMessage : ¬ (0 ≤ usec ∧ answer = .osOK))
    (failure : ¬ GivesUp freq usec answer) :
    ∃ error, ∀ data : Msg,
      (getUsec freq id data usec).run (kernelInto answer) (queue, data) =
        (.error error, queue, data) := by
  by_cases nonneg : 0 ≤ usec
  · have refused : answer ≠ .osOK := fun ok => noMessage ⟨nonneg, ok⟩
    have notLate : answer ≠ .osErrorTimeout := fun late => failure ⟨nonneg, .inl late⟩
    have notImmediate : ¬ (timeoutTicks freq usec = 0 ∧ answer = .osErrorResource) :=
      fun immediate => failure ⟨nonneg, .inr immediate⟩
    refine ⟨osFailure answer (strError "osMessageQueueGet" id), ?_⟩
    intro data
    rw [getUsec, withTimeout_nonneg nonneg, Script.run_ask, kernelInto_get_refused id queue refused]
    simp only
    rw [readStatus, if_neg notImmediate, if_pos ⟨refused, notLate⟩, Script.run_throw]
  · refine ⟨osFailure .osErrorParameter "Data queue: negative timer", ?_⟩
    intro data
    rw [getUsec, withTimeout_negative (by omega), Script.run_throw]

end Runs

/-! ## The caller's variable -/

def KeepsVariable {Msg Var : Type} (exit : GetExit Msg Var) (data : Var) : Prop :=
  exit.outcome ≠ .ok .noTimeout → exit.data = data

structure PointerLaw (freq : Int) (id : Handle) (answer : OsStatus) (queue : OsQueue Handle)
    (data : Handle) (waitTime : Duration) : Prop where
  keeps : KeepsVariable (getPointerFor freq id answer queue data waitTime) data
  generic : getPointerFor freq id answer queue data waitTime =
    getFor freq id answer queue data waitTime

def GetExit.asPointer (exit : GetExit Handle UniquePtr) : GetExit Handle Handle :=
  ⟨exit.outcome, exit.queue, exit.data.ptr⟩

structure UniqueLaw (freq : Int) (id : Handle) (answer : OsStatus) (queue : OsQueue Handle)
    (data : UniquePtr) (waitTime : Duration) : Prop where
  keeps : KeepsVariable (getUniqueFor freq id answer queue data waitTime).toGetExit data
  keepsObject : (getUniqueFor freq id answer queue data waitTime).outcome ≠ .ok .noTimeout →
    (getUniqueFor freq id answer queue data waitTime).deleted = []
  generic : (getUniqueFor freq id answer queue data waitTime).toGetExit.asPointer =
    getFor freq id answer queue data.ptr waitTime

section Law
variable {freq : Int} {id : Handle} {answer : OsStatus} {waitTime : Duration}

theorem getFor_keeps {Msg : Type} (queue : OsQueue Msg) (data : Msg) :
    KeepsVariable (getFor freq id answer queue data waitTime) data := by
  intro notReceived
  by_cases message : 0 ≤ waitTime.toUsec ∧ answer = .osOK
  · obtain ⟨nonneg, rfl⟩ := message
    cases queue with
    | nil =>
        rw [getFor, getUsec, withTimeout_nonneg nonneg]
        simp [kernelInto, kernel, readStatus]
    | cons head rest =>
        rw [getFor, getUsec_run_received id nonneg] at notReceived
        exact absurd rfl notReceived
  · by_cases givesUp : GivesUp freq waitTime.toUsec answer
    · obtain ⟨status, _, ran⟩ := getUsec_run_givesUp id queue givesUp
      rw [getFor, ran]
    · obtain ⟨error, ran⟩ := getUsec_run_throws id queue message givesUp
      rw [getFor, ran]

variable {queue : OsQueue Handle}

theorem getPointerFor_givesUp (givesUp : GivesUp freq waitTime.toUsec answer) (data : Handle) :
    ∃ status, status ≠ MqStatus.noTimeout ∧
      getPointerFor freq id answer queue data waitTime = ⟨.ok status, queue, 0⟩ ∧
      getFor freq id answer queue data waitTime = ⟨.ok status, queue, data⟩ := by
  obtain ⟨status, notReceived, ran⟩ := getUsec_run_givesUp id queue givesUp
  refine ⟨status, notReceived, ?_, ?_⟩
  · rw [getPointerFor, ran]
  · rw [getFor, ran]
    rfl

/-- A get that does not give up receives or throws, and the pointer specialisation does
then what the generic one does. -/
theorem getPointerFor_eq_getFor (possible : GetAnswer queue answer)
    (goesOn : ¬ GivesUp freq waitTime.toUsec answer) (data : Handle) :
    getPointerFor freq id answer queue data waitTime =
        getFor freq id answer queue data waitTime ∧
      ((getFor freq id answer queue data waitTime).outcome = .ok .noTimeout ∨
        ∃ error, (getFor freq id answer queue data waitTime).outcome = .error error) := by
  by_cases message : 0 ≤ waitTime.toUsec ∧ answer = .osOK
  · obtain ⟨nonneg, rfl⟩ := message
    cases queue with
    | nil => exact absurd rfl (possible rfl)
    | cons head rest =>
        rw [getPointerFor, getFor, getUsec_run_received id nonneg, getUsec_run_received id nonneg]
        exact ⟨rfl, .inl rfl⟩
  · obtain ⟨error, ran⟩ := getUsec_run_throws id queue message goesOn
    rw [getPointerFor, getFor, ran, ran]
    exact ⟨rfl, .inr ⟨error, rfl⟩⟩

theorem pointerLaw_iff (possible : GetAnswer queue answer) (data : Handle) :
    PointerLaw freq id answer queue data waitTime ↔
      ¬ GivesUp freq waitTime.toUsec answer ∨ data = 0 := by
  by_cases givesUp : GivesUp freq waitTime.toUsec answer
  · obtain ⟨status, notReceived, pointer, generic⟩ :=
      @getPointerFor_givesUp freq id answer waitTime queue givesUp data
    constructor
    · intro law
      have kept := law.keeps
      rw [KeepsVariable, pointer] at kept
      refine .inr (kept ?_).symm
      intro received
      exact notReceived (Except.ok.inj received)
    · intro condition
      have null := condition.resolve_left (not_not.mpr givesUp)
      constructor
      · rw [KeepsVariable, pointer]
        exact fun _ => null.symm
      · rw [pointer, generic, null]
  · refine iff_of_true ?_ (.inl givesUp)
    have generic := (@getPointerFor_eq_getFor freq id _ _ _ possible givesUp data).1
    refine ⟨?_, generic⟩
    rw [generic]
    exact getFor_keeps queue data

theorem getUniqueFor_asPointer (data : UniquePtr) :
    (getUniqueFor freq id answer queue data waitTime).toGetExit.asPointer =
      getPointerFor freq id answer queue data.ptr waitTime := by
  rw [getUniqueFor, getPointerFor]
  generalize (getUsec freq id 0 waitTime.toUsec).run (kernelInto answer) (queue, 0) = ended
  obtain ⟨result, left, ptr⟩ := ended
  cases result with
  | error error => rfl
  | ok ret => rfl

/-- The caller's object is deleted whenever the call returns. -/
theorem getUniqueFor_deleted (data : UniquePtr) :
    (getUniqueFor freq id answer queue data waitTime).deleted =
      match (getUniqueFor freq id answer queue data waitTime).outcome with
      | .ok _ => if data.ptr = 0 then [] else [data.ptr]
      | .error _ => [] := by
  rw [getUniqueFor]
  generalize (getUsec freq id 0 waitTime.toUsec).run (kernelInto answer) (queue, 0) = ended
  obtain ⟨result, left, ptr⟩ := ended
  cases result with
  | error error => rfl
  | ok ret => rfl

theorem uniqueLaw_iff (possible : GetAnswer queue answer) (data : UniquePtr) :
    UniqueLaw freq id answer queue data waitTime ↔
      ¬ GivesUp freq waitTime.toUsec answer ∨ data = .null := by
  have null : data.ptr = 0 ↔ data = .null := by
    cases data
    simp [UniquePtr.null]
  have pointer : PointerLaw freq id answer queue data.ptr waitTime ↔ _ :=
    pointerLaw_iff possible data.ptr
  have asPointer : _ = getPointerFor freq id answer queue data.ptr waitTime :=
    getUniqueFor_asPointer data
  rw [← null]
  constructor
  · intro law
    apply pointer.mp
    constructor
    · rw [← asPointer]
      intro notReceived
      exact congrArg UniquePtr.ptr (law.keeps notReceived)
    · rw [← asPointer]
      exact law.generic
  · intro condition
    obtain ⟨keeps, generic⟩ := pointer.mpr condition
    rw [← asPointer] at keeps generic
    refine ⟨?_, ?_, generic⟩
    · intro notReceived
      exact congrArg UniquePtr.mk (keeps notReceived)
    · intro notReceived
      rw [getUniqueFor_deleted]
      cases outcome : (getUniqueFor freq id answer queue data waitTime).outcome with
      | error error => rfl
      | ok status =>
          rcases condition with goesOn | isNull
          · have sameOutcome : (getFor freq id answer queue data.ptr waitTime).outcome =
                .ok status := (congrArg GetExit.outcome generic).symm.trans outcome
            rw [outcome] at notReceived
            rcases (@getPointerFor_eq_getFor freq id _ _ _ possible goesOn data.ptr).2 with
              received | ⟨error, threw⟩
            · exact absurd (sameOutcome.symm.trans received) notReceived
            · cases sameOutcome.symm.trans threw
          · exact if_pos isNull

end Law

/-- A timed get of plain data keeps the variable unless a message is received.  The
pointer specialisations do, and behave as the generic queue at a pointer type, exactly
when the get does not give up or there was nothing to keep. -/
theorem timedGet_keeps_iff (freq : Int) (id : Handle) (waitTime : Duration) (answer : OsStatus)
    {queue : OsQueue Handle} (possible : GetAnswer queue answer) :
    (∀ {Msg : Type} (messages : OsQueue Msg) (data : Msg),
        KeepsVariable (getFor freq id answer messages data waitTime) data) ∧
      (∀ data : Handle, PointerLaw freq id answer queue data waitTime ↔
        ¬ GivesUp freq waitTime.toUsec answer ∨ data = 0) ∧
      ∀ data : UniquePtr, UniqueLaw freq id answer queue data waitTime ↔
        ¬ GivesUp freq waitTime.toUsec answer ∨ data = .null :=
  ⟨fun messages data => getFor_keeps messages data, pointerLaw_iff possible,
    uniqueLaw_iff possible⟩

theorem timedGet_keeps_one :
    (∀ {Msg : Type} (messages : OsQueue Msg) (data : Msg),
        KeepsVariable (getFor 1000 1 .osOK messages data (.microseconds 0)) data) ∧
      (∀ data : Handle, PointerLaw 1000 1 .osOK [(7, 0)] data (.microseconds 0) ↔
        ¬ GivesUp 1000 (Duration.microseconds 0).toUsec .osOK ∨ data = 0) ∧
      ∀ data : UniquePtr, UniqueLaw 1000 1 .osOK [(7, 0)] data (.microseconds 0) ↔
        ¬ GivesUp 1000 (Duration.microseconds 0).toUsec .osOK ∨ data = .null :=
  timedGet_keeps_iff 1000 1 (.microseconds 0) .osOK (fun _ => List.cons_ne_nil _ _)

theorem uniqueLaw_emptyQueue :
    ¬ ∀ (freq : Int) (id : Handle) (answer : OsStatus) (queue : OsQueue Handle)
      (data : UniquePtr) (waitTime : Duration), GetAnswer queue answer →
        UniqueLaw freq id answer queue data waitTime := by
  intro claimed
  have possible : GetAnswer ([] : OsQueue Handle) .osErrorResource := by
    intro ok
    cases ok
  have law := claimed 1000 1 .osErrorResource [] ⟨9⟩ (.microseconds 0) possible
  rcases (uniqueLaw_iff possible _).mp law with goesOn | null
  · apply goesOn
    rw [Duration.toUsec_microseconds_of_range (by decide) (by decide)]
    exact ⟨le_refl 0, .inr ⟨by decide, rfl⟩⟩
  · cases null

end CmsisCpp.MessageQueue
