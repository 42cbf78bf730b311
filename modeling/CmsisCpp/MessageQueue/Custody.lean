import CmsisCpp.Library.Custody
import CmsisCpp.MessageQueue.Objects

/-! # Who has the messages

A queue of `std::unique_ptr` owns the objects whose pointers it contains, but its
destructor deletes the OS queue with whatever is in it. -/
set_option autoImplicit false

namespace CmsisCpp.MessageQueue

open ActionSystem

def OsQueue.serials (queue : OsQueue Message) : List Nat := queue.map fun entry => entry.1.serial

def Queue.serials (queue : Queue) : List Nat := queue.messages.serials

namespace State

def serialsAt (s : State) (id : Handle) : List Nat :=
  match s.handles.os id with
  | none => []
  | some queue => queue.serials

def ledger (s : State) : Custody.Ledger Handle where
  kept := s.serialsAt
  issued := s.accepted
  handed := s.received

end State

/-- An accepted message was received, once, or is in one queue, once. -/
structure KeepsMessages (s : State) : Prop where
  receivedOnce : s.received.Nodup
  queuedOnce : ∀ id, (s.serialsAt id).Nodup
  kept : ∀ n < s.accepted, (n ∈ s.received ∧ ∀ id, n ∉ s.serialsAt id) ∨
    (n ∉ s.received ∧ ∃! id, n ∈ s.serialsAt id)

def DestroysDrained (s : State) (a : Action) : Prop :=
  ∀ d ∈ a.destroys, d.2.deleteStatus = .osOK → ∀ id ∈ s.handles.objs d.1, s.serialsAt id = []

instance (s : State) (a : Action) : Decidable (DestroysDrained s a) :=
  inferInstanceAs (Decidable (∀ d ∈ a.destroys, _))

section Kernel
variable (answer : OsStatus) (id : Handle) (timeout : Int)

theorem OsQueue.insert_perm {Msg : Type} (queue : OsQueue Msg) (msg : Msg) (priority : UInt8) :
    (OsQueue.insert queue msg priority).Perm ((msg, priority) :: queue) := by
  induction queue with
  | nil => rfl
  | cons head rest ih =>
      unfold OsQueue.insert
      split
      · rfl
      · exact (ih.cons head).trans (.swap ..)

theorem kernel_put (message : Message) (priority : UInt8) (queue : OsQueue Message) :
    (answer = .osOK ∧ (OsQueue.serials
        (kernel answer (.osMessageQueuePut id message priority timeout) queue).2).Perm
          (message.serial :: queue.serials)) ∨
      (answer ≠ .osOK ∧
        (kernel answer (.osMessageQueuePut id message priority timeout) queue).2 = queue) := by
  by_cases ok : answer = .osOK
  · left
    refine ⟨ok, ?_⟩
    simp only [kernel, if_pos ok]
    exact (OsQueue.insert_perm queue message priority).map _
  · exact .inr ⟨ok, by simp [kernel, ok]⟩

theorem kernel_get (queue : OsQueue Message) :
    (∃ head rest, queue = head :: rest ∧ answer = .osOK ∧
        kernel answer (.osMessageQueueGet id timeout) queue = ((answer, some head.1), rest)) ∨
      kernel answer (.osMessageQueueGet id timeout) queue = ((answer, none), queue) := by
  cases queue with
  | nil => exact .inr rfl
  | cons head rest =>
      by_cases ok : answer = .osOK
      · exact .inl ⟨head, rest, rfl, ok, by simp [kernel, ok]⟩
      · exact .inr (by simp [kernel, ok])

end Kernel

section Step
variable {s s' : State} {a : Action}

theorem serialsAt_setMessages (s : State) (id : Handle) (queue : Queue)
    (messages : OsQueue Message) (x : Handle) :
    (s.setMessages id queue messages).serialsAt x =
      if x = id then messages.serials else s.serialsAt x := by
  by_cases same : x = id <;>
    simp [State.serialsAt, State.setMessages, Handles.setOs, Queue.serials, same]

theorem serialsAt_found {id : Handle} {queue : Queue} (found : s.handles.os id = some queue) :
    s.serialsAt id = queue.messages.serials := by
  rw [State.serialsAt, found]
  rfl

theorem putMessage_change {id : Handle} {queue : Queue} {ptr : Handle} {priority : UInt8}
    {timeout : Int} {answer : OsStatus} (found : s.handles.os id = some queue) :
    Custody.Change s.ledger (s.putMessage id queue ptr priority timeout answer).ledger := by
  have here := serialsAt_found found
  rcases kernel_put answer id timeout ⟨s.accepted, ptr⟩ priority queue.messages with
    ⟨ok, inserted⟩ | ⟨notOk, unchanged⟩
  · refine .intake id ?_ ?_ (if_pos ok) rfl
    · change ((s.setMessages id queue _).serialsAt id).Perm (s.accepted :: s.serialsAt id)
      rw [serialsAt_setMessages, if_pos rfl, here]
      exact inserted
    · intro x other
      exact (serialsAt_setMessages s id queue _ x).trans (if_neg other)
  · refine .same ?_ (if_neg notOk) rfl
    intro x
    change (s.setMessages id queue _).serialsAt x = s.serialsAt x
    rw [unchanged, serialsAt_setMessages]
    by_cases same : x = id
    · rw [if_pos same, same, here]
    · rw [if_neg same]

theorem getMessage_change {id : Handle} {queue : Queue} {timeout : Int} {answer : OsStatus}
    (found : s.handles.os id = some queue) :
    Custody.Change s.ledger (s.getMessage id queue timeout answer).ledger := by
  have here := serialsAt_found found
  rcases kernel_get answer id timeout queue.messages with ⟨head, rest, messages, _, got⟩ | same
  · refine .handover id head.1.serial ?_ ?_ rfl ?_
    · change (s.serialsAt id).Perm (head.1.serial :: (s.setMessages id queue _).serialsAt id)
      rw [serialsAt_setMessages, if_pos rfl, here, got, messages]
      rfl
    · intro x other
      exact (serialsAt_setMessages s id queue _ x).trans (if_neg other)
    · simp [State.ledger, State.getMessage, got]
  · refine .same ?_ rfl ?_
    · intro x
      change (s.setMessages id queue _).serialsAt x = s.serialsAt x
      rw [same, serialsAt_setMessages]
      by_cases isHere : x = id
      · rw [if_pos isHere, isHere, here]
      · rw [if_neg isHere]
    · simp [State.ledger, State.getMessage, same]

theorem Taken.ledger (taken : Taken s a s') (drained : DestroysDrained s a) :
    Custody.Change s.ledger s'.ledger := by
  cases taken with
  | @constructed o maxLen answers absent valid =>
      refine .same ?_ rfl rfl
      intro id
      by_cases refused : answers.newId = 0 ∨ (s.handles.os answers.newId).isSome = true
      · simp [Handles.osNew, refused] at valid
      · rw [not_or, Bool.not_eq_true, Option.isSome_eq_false_iff, Option.isNone_iff_eq_none]
          at refused
        by_cases same : id = answers.newId <;>
          simp [State.ledger, State.serialsAt, Handles.osNew, Handles.setId, Queue.serials,
            OsQueue.serials, refused, same]
  | moved transfers os =>
      refine .same ?_ rfl rfl
      intro id
      simp only [State.ledger, State.serialsAt, os]
  | @destroyed o id answers errors act found returns =>
      refine .same ?_ rfl rfl
      intro x
      change State.serialsAt _ x = s.serialsAt x
      by_cases deleted : (s.handles.os id).isSome = true ∧ answers.deleteStatus = .osOK
      · have empty := drained (o, answers) (by rw [act]; rfl) deleted.2 id found
        by_cases same : x = id
        · rw [same, empty]
          simp [State.serialsAt, Handles.osDelete, Handles.setId, deleted]
        · simp [State.serialsAt, Handles.osDelete, Handles.setId, deleted, same]
      · rw [State.serialsAt, State.serialsAt, Handles.osDelete_os_of_not deleted]
  | put found => exact putMessage_change found
  | got found => exact getMessage_change found

end Step

/-- In a run in which the destructors delete empty queues only, no accepted
message is lost and none is received twice. -/
theorem destroysDrained_keepsMessages {acts : List Action} {s : State}
    (run : Run system DestroysDrained acts s) : KeepsMessages s := by
  have sound : Custody.Sound s.ledger := by
    refine run.invariant (fun s => Custody.Sound s.ledger) Custody.Sound.empty ?_
    intro s a s' sound drained stepped
    exact ((step_taken stepped).ledger drained).sound sound
  constructor
  · exact sound.handedOnce
  · exact sound.keptOnce
  · intro n accepted
    exact sound.whereabouts accepted

def destroyedFull : List Action :=
  [.construct 0 4 ⟨1, .osOK⟩, .put 0 7 0 osWaitForever .osOK, .destroy 0 ⟨0, .osOK⟩]

/-- The message is neither in a queue nor received. -/
theorem destroyedFull_losesMessage :
    ¬ ∀ (acts : List Action) (s : State), Run system Unrestricted acts s → KeepsMessages s := by
  intro claimed
  have run : Run system Unrestricted _ _ := Run.replayed destroyedFull rfl
  have os : ((system.replay Unrestricted destroyedFull system.initial).get rfl).handles.os =
      Function.update (Function.update (Function.update (fun _ => none) 1 (some ⟨4, []⟩)) 1
        (some ⟨4, [(⟨0, 7⟩, 0)]⟩)) 1 none := rfl
  rcases (claimed _ _ run).kept 0 (by decide) with ⟨received, _⟩ | ⟨_, id, queued, _⟩
  · revert received
    decide
  · simp [State.serialsAt, os] at queued

/-- The message moves with the handle and is received from its new owner. -/
def receivedAfterMove : List Action :=
  [.construct 0 4 ⟨1, .osOK⟩, .put 0 7 0 osWaitForever .osOK, .moveConstruct 1 0,
    .get 1 osWaitForever .osOK, .destroy 1 ⟨0, .osOK⟩]

theorem receivedAfterMove_keepsMessages :
    ∃ s, Run system DestroysDrained receivedAfterMove s ∧ KeepsMessages s := by
  have run : Run system DestroysDrained _ _ := Run.replayed receivedAfterMove rfl
  exact ⟨_, run, destroysDrained_keepsMessages run⟩

end CmsisCpp.MessageQueue
