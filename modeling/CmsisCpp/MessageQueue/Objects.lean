import CmsisCpp.Handles
import CmsisCpp.Library.ActionSystem
import CmsisCpp.MessageQueue

/-! # The life of the queue objects

Source: `include/MessageQueue.h`, `src/MessageQueue.cpp`.

Any number of `message_queue` objects for `std::unique_ptr` are constructed, moved,
swapped and destroyed, and messages are put and got through them.  Every overload
of `put` and `get` makes one OS call; what it makes of an answer other than `osOK` goes
to the caller.  An accepted message carries the number of its put. -/
set_option autoImplicit false

namespace CmsisCpp.MessageQueue

open ActionSystem CallScript Ownership

inductive ObjectCall
  | osMessageQueueNew (maxLen eleLen : Nat)
  | osMessageQueueDelete (id : Handle)
  deriving DecidableEq, Repr

abbrev objectSig : Signature where
  Call := ObjectCall
  Reply
    | .osMessageQueueNew _ _ => Handle
    | .osMessageQueueDelete _ => OsStatus

/-- The constructor; its value is `m_id`. -/
def messageQueueImpl (maxLen eleLen : Nat) : Script objectSig SystemError Handle :=
  .ask (.osMessageQueueNew maxLen eleLen) fun (id : Handle) =>
    if id = 0 then .throw (osFailure .osError "osMessageQueueNew") else .done id

def destroy (id : Handle) : Script objectSig SystemError Unit :=
  .ask (.osMessageQueueDelete id) fun (sta : OsStatus) =>
    expectOk sta (strError "osMessageQueueDelete" id)

structure Message where
  serial : Nat
  ptr : Handle
  deriving DecidableEq, Repr

structure Queue where
  capacity : Nat
  messages : OsQueue Message
  deriving DecidableEq, Repr

/-- `sizeof(pointer)` on the 32-bit targets of the OS. -/
def pointerSize : Nat := 4

def objectKernel (answers : OsAnswers) :
    (call : ObjectCall) → Handles Queue → objectSig.Reply call × Handles Queue
  | .osMessageQueueNew maxLen _, s => s.osNew answers ⟨maxLen, []⟩
  | .osMessageQueueDelete id, s => s.osDelete answers id

/-- The two ghosts count the accepted puts and list the received messages;
`errors` are the exceptions that have left a destructor. -/
structure State where
  handles : Handles Queue
  accepted : Nat
  received : List Nat
  errors : List SystemError

def State.initial : State where
  handles := .initial
  accepted := 0
  received := []
  errors := []

inductive Action
  | construct (o : ObjId) (maxLen : Nat) (answers : OsAnswers)
  | moveConstruct (o source : ObjId)
  | moveAssign (o source : ObjId)
  | swap (o other : ObjId)
  | destroy (o : ObjId) (answers : OsAnswers)
  | put (o : ObjId) (ptr : Handle) (priority : UInt8) (timeout : Int) (answer : OsStatus)
  | get (o : ObjId) (timeout : Int) (answer : OsStatus)
  deriving DecidableEq, Repr

def Action.destroys : Action → Option (ObjId × OsAnswers)
  | .destroy o answers => some (o, answers)
  | _ => none

def errorOf {Val : Type} : Except SystemError Val → List SystemError
  | .ok _ => []
  | .error error => [error]

namespace State

def construct (s : State) (o : ObjId) (maxLen : Nat) (answers : OsAnswers) : Option State :=
  if s.handles.objs o = none then
    let called := (messageQueueImpl maxLen pointerSize).run (objectKernel answers) s.handles
    match called.1 with
    | .ok id => some { s with handles := called.2.setId o (some id) }
    | .error _ => some { s with handles := called.2 }
  else none

/-- `operator=` exchanges the handles, except with itself. -/
def moveAssign (s : State) (o source : ObjId) : Option State :=
  if o = source then (s.handles.objs o).map fun _ => s
  else (s.handles.swapIds o source).map fun handles => { s with handles := handles }

def destroyObject (s : State) (o : ObjId) (answers : OsAnswers) : Option State :=
  match s.handles.objs o with
  | none => none
  | some id =>
      let called := (destroy id).run (objectKernel answers) s.handles
      some { s with
        handles := called.2.setId o none
        errors := s.errors ++ errorOf called.1 }

def setMessages (s : State) (id : Handle) (queue : Queue) (messages : OsQueue Message) : State :=
  { s with handles := s.handles.setOs id { queue with messages := messages } }

def putMessage (s : State) (id : Handle) (queue : Queue) (ptr : Handle) (priority : UInt8)
    (timeout : Int) (answer : OsStatus) : State :=
  let message : Message := ⟨s.accepted, ptr⟩
  let called := kernel answer (.osMessageQueuePut id message priority timeout) queue.messages
  { s.setMessages id queue called.2 with
    accepted := if answer = .osOK then s.accepted + 1 else s.accepted }

def getMessage (s : State) (id : Handle) (queue : Queue) (timeout : Int) (answer : OsStatus) :
    State :=
  let called := kernel answer (.osMessageQueueGet id timeout) queue.messages
  let reply : OsStatus × Option Message := called.1
  { s.setMessages id queue called.2 with
    received := s.received ++ (reply.2.map Message.serial).toList }

/-- A call through a null or stale handle is answered with `osErrorParameter`. -/
def onQueue (s : State) (o : ObjId) (call : Handle → Queue → Option State) : Option State :=
  match s.handles.objs o with
  | none => none
  | some id =>
      match s.handles.os id with
      | none => some s
      | some queue => call id queue

def step (s : State) : Action → Option State
  | .construct o maxLen answers => s.construct o maxLen answers
  | .moveConstruct o source =>
      (s.handles.moveNull o source).map fun handles => { s with handles := handles }
  | .moveAssign o source => s.moveAssign o source
  | .swap o other => (s.handles.swapIds o other).map fun handles => { s with handles := handles }
  | .destroy o answers => s.destroyObject o answers
  | .put o ptr priority timeout answer =>
      s.onQueue o fun id queue =>
        if answer = .osOK → queue.messages.length < queue.capacity then
          some (s.putMessage id queue ptr priority timeout answer)
        else none
  | .get o timeout answer =>
      s.onQueue o fun id queue =>
        if answer = .osOK → queue.messages ≠ [] then
          some (s.getMessage id queue timeout answer)
        else none

end State

def system : ActionSystem State Action where
  initial := .initial
  step := State.step

/-! ## What a step can do -/

inductive Taken (s : State) (a : Action) : State → Prop
  | constructed {o : ObjId} {maxLen : Nat} {answers : OsAnswers} (absent : s.handles.objs o = none)
      (valid : (s.handles.osNew answers ⟨maxLen, []⟩).1 ≠ 0) :
      Taken s a { s with
        handles := (s.handles.osNew answers ⟨maxLen, []⟩).2.setId o
          (some (s.handles.osNew answers ⟨maxLen, []⟩).1) }
  | moved {handles : Handles Queue} (transfers : Transfers s.handles.estate handles.estate)
      (os : handles.os = s.handles.os) : Taken s a { s with handles := handles }
  | destroyed {o : ObjId} {id : Handle} {answers : OsAnswers} {errors : List SystemError}
      (act : a = .destroy o answers) (found : s.handles.objs o = some id)
      (returns : (s.handles.osDelete answers id).1 = .osOK → errors = s.errors) :
      Taken s a { s with
        handles := (s.handles.osDelete answers id).2.setId o none
        errors := errors }
  | put {id : Handle} {queue : Queue} {ptr : Handle} {priority : UInt8} {timeout : Int}
      {answer : OsStatus} (found : s.handles.os id = some queue) :
      Taken s a (s.putMessage id queue ptr priority timeout answer)
  | got {id : Handle} {queue : Queue} {timeout : Int} {answer : OsStatus}
      (found : s.handles.os id = some queue) :
      Taken s a (s.getMessage id queue timeout answer)

section Step
variable {s s' : State} {a : Action} {o source : ObjId}

theorem messageQueueImpl_run (maxLen : Nat) (answers : OsAnswers) (handles : Handles Queue) :
    (messageQueueImpl maxLen pointerSize).run (objectKernel answers) handles =
      (if (handles.osNew answers ⟨maxLen, []⟩).1 = 0 then
        .error (osFailure .osError "osMessageQueueNew")
      else .ok (handles.osNew answers ⟨maxLen, []⟩).1, (handles.osNew answers ⟨maxLen, []⟩).2) := by
  by_cases failed : (handles.osNew answers ⟨maxLen, []⟩).1 = 0 <;>
    simp [messageQueueImpl, objectKernel, failed]

theorem destroy_run (id : Handle) (answers : OsAnswers) (handles : Handles Queue) :
    (destroy id).run (objectKernel answers) handles =
      (if (handles.osDelete answers id).1 = .osOK then .ok ()
      else .error (osFailure (handles.osDelete answers id).1 (strError "osMessageQueueDelete" id)),
        (handles.osDelete answers id).2) := by
  by_cases ok : (handles.osDelete answers id).1 = .osOK <;>
    simp [destroy, expectOk, objectKernel, ok]

theorem construct_taken {maxLen : Nat} {answers : OsAnswers}
    (taken : s.construct o maxLen answers = some s') : Taken s a s' := by
  simp only [State.construct, Option.ite_none_right_eq_some, messageQueueImpl_run] at taken
  obtain ⟨absent, taken⟩ := taken
  by_cases failed : (s.handles.osNew answers ⟨maxLen, []⟩).1 = 0
  · simp only [if_pos failed, Option.some.injEq] at taken
    rw [Handles.osNew_failed failed] at taken
    exact taken ▸ .moved .refl rfl
  · simp only [if_neg failed, Option.some.injEq] at taken
    exact taken ▸ .constructed absent failed

theorem moveNull_taken
    (taken : (s.handles.moveNull o source).map (fun handles => { s with handles := handles }) =
      some s') : Taken s a s' := by
  obtain ⟨handles, moved, rfl⟩ := Option.map_eq_some_iff.mp taken
  have reassigned := Handles.moveNull_reassigned moved
  exact .moved reassigned.transfers reassigned.os

theorem swapIds_taken
    (taken : (s.handles.swapIds o source).map (fun handles => { s with handles := handles }) =
      some s') : Taken s a s' := by
  obtain ⟨handles, swapped, rfl⟩ := Option.map_eq_some_iff.mp taken
  have reassigned := Handles.swapIds_reassigned swapped
  exact .moved reassigned.transfers reassigned.os

theorem moveAssign_taken (taken : s.moveAssign o source = some s') : Taken s a s' := by
  unfold State.moveAssign at taken
  split at taken
  · obtain ⟨_, _, rfl⟩ := Option.map_eq_some_iff.mp taken
    exact .moved .refl rfl
  · exact swapIds_taken taken

theorem onQueue_taken {call : Handle → Queue → Option State}
    (calls : ∀ id queue s', s.handles.os id = some queue → call id queue = some s' → Taken s a s')
    (taken : s.onQueue o call = some s') : Taken s a s' := by
  unfold State.onQueue at taken
  split at taken
  · contradiction
  · split at taken
    · cases taken
      exact .moved .refl rfl
    · rename_i queue found
      exact calls _ queue s' found taken

theorem step_taken (taken : s.step a = some s') : Taken s a s' := by
  cases a with
  | construct o maxLen answers => exact construct_taken taken
  | moveConstruct o source => exact moveNull_taken taken
  | moveAssign o source => exact moveAssign_taken taken
  | swap o other => exact swapIds_taken taken
  | destroy o answers =>
      simp only [State.step, State.destroyObject, destroy_run] at taken
      split at taken
      · contradiction
      · rename_i id found
        cases taken
        refine .destroyed rfl found ?_
        intro ok
        rw [if_pos ok]
        exact List.append_nil _
  | put o ptr priority timeout answer =>
      refine onQueue_taken ?_ taken
      intro id queue s' found accepted
      simp only [Option.ite_none_right_eq_some, Option.some.injEq] at accepted
      exact accepted.2 ▸ .put found
  | get o timeout answer =>
      refine onQueue_taken ?_ taken
      intro id queue s' found received
      simp only [Option.ite_none_right_eq_some, Option.some.injEq] at received
      exact received.2 ▸ .got found

end Step

/-! ## Ownership of the handles -/

def DeletionSucceeds (_ : State) (a : Action) : Prop :=
  ∀ d ∈ a.destroys, d.2.deleteStatus = .osOK

def DestroysOwners (s : State) (a : Action) : Prop :=
  ∀ d ∈ a.destroys, s.handles.objs d.1 ≠ some 0

instance (s : State) (a : Action) : Decidable (DeletionSucceeds s a) :=
  inferInstanceAs (Decidable (∀ d ∈ a.destroys, _))

instance (s : State) (a : Action) : Decidable (DestroysOwners s a) :=
  inferInstanceAs (Decidable (∀ d ∈ a.destroys, _))

structure OwnsQueues (s : State) : Prop where
  sole : Handles.SoleOwners s.handles
  noThrow : s.errors = []

section Ownership
variable {s s' : State} {a : Action}

theorem Taken.owned (taken : Taken s a s') (succeeds : DeletionSucceeds s a)
    (owned : Owned s.handles.estate) : Owned s'.handles.estate := by
  cases taken with
  | constructed absent valid => exact (Handles.osNew_transfers absent valid).owned owned
  | moved transfers os => exact transfers.owned owned
  | @destroyed o id answers errors act found returns =>
      by_cases null : id = 0
      · subst null
        rw [Handles.osDelete_null owned]
        have kept := Handles.setId_empty (x := none)
          (s := { s.handles with deleteCalls := s.handles.deleteCalls ++ [0] }) (o := o)
          (by simp [found, Handles.ownedBy]) rfl
        exact kept ▸ owned
      · have ok := succeeds (o, answers) (by rw [act]; rfl)
        exact (Handles.osDelete_transfers owned found null ok rfl).2.owned owned
  | put found =>
      change Owned (s.handles.setOs _ _).estate
      rwa [Handles.setOs_estate found]
  | got found =>
      change Owned (s.handles.setOs _ _).estate
      rwa [Handles.setOs_estate found]

/-- A destructor throws only for an object that owns nothing. -/
theorem Taken.errors (taken : Taken s a s') (succeeds : DeletionSucceeds s a)
    (owners : DestroysOwners s a) (owned : Owned s.handles.estate) : s'.errors = s.errors := by
  cases taken with
  | @destroyed o id answers errors act found returns =>
      have member : (o, answers) ∈ a.destroys := by
        rw [act]
        rfl
      have valid : id ≠ 0 := by
        rintro rfl
        exact owners _ member found
      have deleted := (Handles.osDelete_transfers (x := none) owned found valid
        (succeeds _ member) rfl).1
      exact returns deleted
  | _ => rfl

end Ownership

theorem run_owned {acts : List Action} {s : State} (run : Run system DeletionSucceeds acts s) :
    Owned s.handles.estate := by
  refine run.invariant (fun s => Owned s.handles.estate) Handles.owned_initial ?_
  intro s a s' owned succeeds stepped
  exact (step_taken stepped).owned succeeds owned

/-- In a run in which every destroyed object owns a queue, every queue has one
owner and is deleted once, and no destructor throws. -/
theorem destroysOwners_ownsQueues {acts : List Action} {s : State}
    (run : Run system (fun s a => DeletionSucceeds s a ∧ DestroysOwners s a) acts s) :
    OwnsQueues s where
  sole := Handles.soleOwners_of_owned (run_owned (run.mono fun _ _ meets => meets.1))
  noThrow := by
    refine run.invariant_under (fun s => Owned s.handles.estate) (fun s => s.errors = [])
      (fun before => run_owned (before.mono fun _ _ meets => meets.1)) rfl ?_
    intro s a s' owned noThrow meets stepped
    rw [(step_taken stepped).errors meets.1 meets.2 owned, noThrow]

def movedFromDestroyed : List Action :=
  [.construct 0 4 ⟨1, .osOK⟩, .moveConstruct 1 0, .destroy 0 ⟨0, .osOK⟩]

theorem movedFromDestroyed_throws :
    ¬ ∀ (acts : List Action) (s : State), Run system DeletionSucceeds acts s → OwnsQueues s := by
  intro claimed
  have run : Run system DeletionSucceeds _ _ := Run.replayed movedFromDestroyed rfl
  have noThrow := (claimed _ _ run).noThrow
  revert noThrow
  decide

def ownersDestroyed : List Action :=
  [.construct 0 4 ⟨1, .osOK⟩, .construct 1 4 ⟨2, .osOK⟩, .moveAssign 0 1, .swap 1 1,
    .destroy 0 ⟨0, .osOK⟩, .destroy 1 ⟨0, .osOK⟩]

theorem ownersDestroyed_ownsQueues :
    ∃ s, Run system (fun s a => DeletionSucceeds s a ∧ DestroysOwners s a) ownersDestroyed s ∧
      OwnsQueues s := by
  have run : Run system (fun s a => DeletionSucceeds s a ∧ DestroysOwners s a) _ _ :=
    Run.replayed ownersDestroyed rfl
  exact ⟨_, run, destroysOwners_ownsQueues run⟩

end CmsisCpp.MessageQueue
