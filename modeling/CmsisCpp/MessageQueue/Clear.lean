import CmsisCpp.MessageQueue.Custody

/-! # `clear` of a queue of `std::unique_ptr`

`clear` gets and deletes the messages one by one until `empty` says that there are
none, and then resets the OS queue, which deletes nothing.  Other threads put and
get in between.  One step is one OS call; `blocked` is the wait inside
`osMessageQueueGet`. -/
set_option autoImplicit false

namespace CmsisCpp.MessageQueue.Clear

open ActionSystem CallScript

inductive ClearCall
  | osMessageQueueGetCount (id : Handle)
  | osMessageQueueReset (id : Handle)
  deriving DecidableEq, Repr

abbrev clearSig : Signature where
  Call := ClearCall
  Reply
    | .osMessageQueueGetCount _ => Nat
    | .osMessageQueueReset _ => OsStatus

def size (id : Handle) : Script clearSig SystemError Nat :=
  .ask (.osMessageQueueGetCount id) fun (count : Nat) => .done count

def empty (id : Handle) : Script clearSig SystemError Bool :=
  (size id).bind fun count => .done (count = 0)

/-- `message_queue_impl::clear`. -/
def reset (id : Handle) : Script clearSig SystemError Unit :=
  .ask (.osMessageQueueReset id) fun (sta : OsStatus) =>
    expectOk sta (strError "osMessageQueueReset" id)

def clearKernel (answer : OsStatus) :
    (call : ClearCall) → OsQueue Message → clearSig.Reply call × OsQueue Message
  | .osMessageQueueGetCount _, queue => (queue.length, queue)
  | .osMessageQueueReset _, queue => (answer, if answer = .osOK then [] else queue)

inductive Pc
  | idle
  | empty
  | get
  | blocked
  | reset
  deriving DecidableEq, Repr

/-- Who got a message; the `unique_ptr` that `clear` gets deletes its object at once. -/
inductive Taker
  | receiver
  | clear
  deriving DecidableEq, Repr

structure State where
  messages : OsQueue Message
  pc : Pc
  accepted : Nat
  taken : List (Taker × Nat)
  discarded : List Nat

def State.initial : State where
  messages := []
  pc := .idle
  accepted := 0
  taken := []
  discarded := []

/-- `put` and `get` are those of the other threads, the rest are the steps of `clear`. -/
inductive Action
  | put (ptr : Handle) (priority : UInt8) (timeout : Int) (answer : OsStatus)
  | get (timeout : Int) (answer : OsStatus)
  | clear
  | clearEmpty
  | clearGet (answer : OsStatus)
  | clearReset (answer : OsStatus)
  deriving DecidableEq, Repr

namespace State

def put (s : State) (id : Handle) (ptr : Handle) (priority : UInt8) (timeout : Int)
    (answer : OsStatus) : State :=
  let message : Message := ⟨s.accepted, ptr⟩
  let called := kernel answer (.osMessageQueuePut id message priority timeout) s.messages
  { s with
    messages := called.2
    accepted := if answer = .osOK then s.accepted + 1 else s.accepted }

def get (s : State) (id : Handle) (timeout : Int) (answer : OsStatus) : State :=
  let called := kernel answer (.osMessageQueueGet id timeout) s.messages
  let reply : OsStatus × Option Message := called.1
  { s with
    messages := called.2
    taken := s.taken ++ (reply.2.map fun message => (Taker.receiver, message.serial)).toList }

/-- The untimed `get` of `clear`: it waits for a message when there is none. -/
def clearGet (s : State) (id : Handle) (answer : OsStatus) : Option State :=
  if answer = .osOK ∧ s.messages = [] then
    if s.pc = .blocked then none else some { s with pc := .blocked }
  else
    let called := (MessageQueue.get id (⟨0, 0⟩ : Message)).run (kernel answer) s.messages
    match called.1 with
    | .ok message =>
        some { s with
          messages := called.2
          taken := s.taken ++ [(.clear, message.serial)]
          pc := .empty }
    | .error _ => some { s with messages := called.2, pc := .idle }

def clearReset (s : State) (id : Handle) (answer : OsStatus) : State :=
  let called := (reset id).run (clearKernel answer) s.messages
  { s with
    messages := called.2
    discarded := s.discarded ++
      s.messages.serials.filter fun serial => serial ∉ OsQueue.serials called.2
    pc := .idle }

def step (id : Handle) (capacity : Nat) (s : State) : Action → Option State
  | .put ptr priority timeout answer =>
      if answer = .osOK → s.messages.length < capacity then
        some (s.put id ptr priority timeout answer)
      else none
  | .get timeout answer =>
      if answer = .osOK → s.messages ≠ [] then some (s.get id timeout answer) else none
  | .clear => if s.pc = .idle then some { s with pc := .empty } else none
  | .clearEmpty =>
      if s.pc = .empty then
        match ((Clear.empty id).run (clearKernel .osOK) s.messages).1 with
        | .ok true => some { s with pc := .reset }
        | .ok false => some { s with pc := .get }
        | .error _ => some { s with pc := .idle }
      else none
  | .clearGet answer =>
      if s.pc = .get ∨ s.pc = .blocked then s.clearGet id answer else none
  | .clearReset answer => if s.pc = .reset then some (s.clearReset id answer) else none

def ledger (s : State) : Custody.Ledger Unit where
  kept _ := s.messages.serials
  issued := s.accepted
  handed := s.taken.map Prod.snd

end State

def system (id : Handle) (capacity : Nat) : ActionSystem State Action where
  initial := .initial
  step := State.step id capacity

/-- `clear` is not about to wait, or waiting, for a message; what it discards it
has deleted; and an accepted message is in the queue or was got, once. -/
structure ClearsSafely (s : State) : Prop where
  nonempty : s.pc = .get → s.messages ≠ []
  notBlocked : s.pc ≠ .blocked
  discarded : ∀ n ∈ s.discarded, (Taker.clear, n) ∈ s.taken
  kept : ∀ n < s.accepted, (n ∈ s.taken.map Prod.snd ∧ n ∉ s.messages.serials) ∨
    (n ∉ s.taken.map Prod.snd ∧ n ∈ s.messages.serials)

/-- Between the last `empty` of `clear` and what it does next, the other threads leave
a message to be got, and put none when the queue is to be reset. -/
def LeavesWindow (s : State) : Action → Prop
  | .get _ answer => s.pc = .get → answer = .osOK → 1 < s.messages.length
  | .put _ _ _ answer => s.pc = .reset → answer ≠ .osOK
  | _ => True

instance (s : State) : (a : Action) → Decidable (LeavesWindow s a)
  | .get _ answer =>
      inferInstanceAs (Decidable (s.pc = .get → answer = .osOK → 1 < s.messages.length))
  | .put _ _ _ answer => inferInstanceAs (Decidable (s.pc = .reset → answer ≠ .osOK))
  | .clear => .isTrue trivial
  | .clearEmpty => .isTrue trivial
  | .clearGet _ => .isTrue trivial
  | .clearReset _ => .isTrue trivial

structure ClearInv (s : State) : Prop where
  nonempty : s.pc = .get → s.messages ≠ []
  notBlocked : s.pc ≠ .blocked
  empty : s.pc = .reset → s.messages = []
  discarded : s.discarded = []
  sound : Custody.Sound s.ledger

section Step
variable {id : Handle} {capacity : Nat} {s s' : State} {timeout : Int} {answer : OsStatus}

theorem put_inv {ptr : Handle} {priority : UInt8} (inv : ClearInv s)
    (window : LeavesWindow s (.put ptr priority timeout answer)) :
    ClearInv (s.put id ptr priority timeout answer) := by
  rcases kernel_put answer id timeout ⟨s.accepted, ptr⟩ priority s.messages with
    ⟨ok, inserted⟩ | ⟨notOk, unchanged⟩
  · constructor
    · intro _ none
      change (kernel _ _ _).2 = [] at none
      rw [none] at inserted
      exact absurd inserted.length_eq (by simp [OsQueue.serials])
    · exact inv.notBlocked
    · intro pc
      exact absurd ok (window pc)
    · exact inv.discarded
    · apply Custody.Change.sound _ inv.sound
      refine .intake () inserted ?_ (if_pos ok) rfl
      intro x other
      exact absurd rfl other
  · have same : s.put id ptr priority timeout answer = s := by
      simp only [State.put, unchanged, if_neg notOk]
    rw [same]
    exact inv

theorem get_inv (inv : ClearInv s) (window : LeavesWindow s (.get timeout answer)) :
    ClearInv (s.get id timeout answer) := by
  rcases kernel_get answer id timeout s.messages with ⟨head, rest, messages, ok, got⟩ | same
  · have after : (s.get id timeout answer).messages = rest := by simp [State.get, got]
    constructor
    · intro pc none
      have left := window pc ok
      rw [after] at none
      simp [messages, none] at left
    · exact inv.notBlocked
    · intro pc
      have before := inv.empty pc
      rw [messages] at before
      contradiction
    · exact inv.discarded
    · apply Custody.Change.sound _ inv.sound
      refine .handover () head.1.serial ?_ ?_ rfl ?_
      · simp [State.ledger, after, messages, OsQueue.serials]
      · intro x other
        exact absurd rfl other
      · simp [State.ledger, State.get, got]
  · have unchanged : s.get id timeout answer = s := by
      simp [State.get, same]
    rw [unchanged]
    exact inv

theorem empty_run (id : Handle) (messages : OsQueue Message) :
    ((empty id).run (clearKernel .osOK) messages).1 = .ok (decide (messages = [])) := by
  cases messages <;> simp [empty, size, Script.bind, clearKernel]

theorem clearGet_inv (inv : ClearInv s) (pc : s.pc = .get)
    (taken : s.clearGet id answer = some s') : ClearInv s' := by
  have nonempty := inv.nonempty pc
  simp only [State.clearGet, nonempty, and_false, if_false] at taken
  cases messages : s.messages with
  | nil => exact absurd messages nonempty
  | cons head rest =>
      by_cases ok : answer = .osOK
      · simp [MessageQueue.get, kernel, messages, ok] at taken
        subst taken
        constructor
        · simp
        · simp
        · simp
        · exact inv.discarded
        · apply Custody.Change.sound _ inv.sound
          refine .handover () head.1.serial ?_ ?_ rfl ?_
          · simp [State.ledger, messages, OsQueue.serials]
          · intro x other
            exact absurd rfl other
          · simp [State.ledger]
      · simp [MessageQueue.get, kernel, messages, ok] at taken
        subst taken
        constructor
        · simp
        · simp
        · simp
        · exact inv.discarded
        · have sound := inv.sound
          simpa [State.ledger, messages] using sound

/-- The reset finds the queue empty. -/
theorem clearReset_inv (inv : ClearInv s) (pc : s.pc = .reset) :
    ClearInv (s.clearReset id answer) := by
  have none := inv.empty pc
  have unchanged : ((reset id).run (clearKernel answer) s.messages).2 = s.messages := by
    by_cases ok : answer = .osOK <;> simp [reset, clearKernel, expectOk, none, ok]
  constructor
  · simp [State.clearReset]
  · simp [State.clearReset]
  · simp [State.clearReset]
  · simp [State.clearReset, none, OsQueue.serials, inv.discarded]
  · have sound := inv.sound
    simpa [State.ledger, State.clearReset, unchanged] using sound

theorem ClearInv.step {a : Action} (inv : ClearInv s) (window : LeavesWindow s a)
    (stepped : s.step id capacity a = some s') : ClearInv s' := by
  cases a with
  | put ptr priority timeout answer =>
      simp only [State.step, Option.ite_none_right_eq_some, Option.some.injEq] at stepped
      exact stepped.2 ▸ put_inv inv window
  | get timeout answer =>
      simp only [State.step, Option.ite_none_right_eq_some, Option.some.injEq] at stepped
      exact stepped.2 ▸ get_inv inv window
  | clear =>
      simp only [State.step, Option.ite_none_right_eq_some, Option.some.injEq] at stepped
      obtain ⟨_, rfl⟩ := stepped
      exact ⟨by simp, by simp, by simp, inv.discarded, inv.sound⟩
  | clearEmpty =>
      simp only [State.step, Option.ite_none_right_eq_some, empty_run] at stepped
      obtain ⟨_, stepped⟩ := stepped
      by_cases none : s.messages = []
      · simp only [decide_eq_true none, Option.some.injEq] at stepped
        subst stepped
        exact ⟨by simp, by simp, fun _ => none, inv.discarded, inv.sound⟩
      · simp only [decide_eq_false none, Option.some.injEq] at stepped
        subst stepped
        exact ⟨fun _ => none, by simp, by simp, inv.discarded, inv.sound⟩
  | clearGet answer =>
      simp only [State.step, Option.ite_none_right_eq_some] at stepped
      obtain ⟨pc, taken⟩ := stepped
      exact clearGet_inv inv (pc.resolve_right inv.notBlocked) taken
  | clearReset answer =>
      simp only [State.step, Option.ite_none_right_eq_some, Option.some.injEq] at stepped
      obtain ⟨pc, rfl⟩ := stepped
      exact clearReset_inv inv pc

end Step

/-- In a run in which the other threads leave the two windows alone, `clear` neither
waits for a message nor discards one. -/
theorem leavesWindow_clearsSafely {id : Handle} {capacity : Nat} {acts : List Action} {s : State}
    (run : Run (system id capacity) LeavesWindow acts s) : ClearsSafely s := by
  have inv : ClearInv s := by
    refine run.invariant ClearInv ?_ ?_
    · refine ⟨?_, ?_, ?_, rfl, Custody.Sound.empty⟩ <;> simp [system, State.initial]
    · intro s a s' inv window stepped
      exact inv.step window stepped
  constructor
  · exact inv.nonempty
  · exact inv.notBlocked
  · simp [inv.discarded]
  · intro n accepted
    rcases inv.sound.whereabouts accepted with ⟨got, gone⟩ | ⟨notGot, _, queued, _⟩
    · exact .inl ⟨got, gone ()⟩
    · exact .inr ⟨notGot, queued⟩

/-- A message is put between the last `empty` and the reset. -/
def putBeforeReset : List Action :=
  [.clear, .clearEmpty, .put 7 0 osWaitForever .osOK, .clearReset .osOK]

theorem putBeforeReset_discards :
    ¬ ∀ (acts : List Action) (s : State), Run (system 1 4) Unrestricted acts s →
      ClearsSafely s := by
  intro claimed
  have run : Run (system 1 4) Unrestricted _ _ := Run.replayed putBeforeReset rfl
  have discarded := (claimed _ _ run).discarded
  revert discarded
  decide

def clearedBeside : List Action :=
  [.put 7 0 osWaitForever .osOK, .put 9 0 osWaitForever .osOK, .clear, .clearEmpty,
    .get osWaitForever .osOK, .clearGet .osOK, .clearEmpty, .clearReset .osOK]

theorem clearedBeside_clearsSafely :
    ∃ s, Run (system 1 4) LeavesWindow clearedBeside s ∧ ClearsSafely s := by
  have run : Run (system 1 4) LeavesWindow _ _ := Run.replayed clearedBeside rfl
  exact ⟨_, run, leavesWindow_clearsSafely run⟩

end CmsisCpp.MessageQueue.Clear
