import CmsisCpp.ClientCalls
import CmsisCpp.Library.PriorityQueue
import CmsisCpp.MessageQueue.Clear

/-! # Delivery

Source: `include/MessageQueue.h`, `src/MessageQueue.cpp`.  Any number of threads use one
`message_queue` of plain data or pointers; a put into a full queue and a get from an
empty one are answered when there is room, a message, or no more time.  A journal
tells from the answers which put each received message comes from. -/
set_option autoImplicit false

namespace CmsisCpp.MessageQueue.Delivery

open CallScript ActionSystem Clients PriorityQueue
open scoped List

/-! ## Threads on one queue -/

inductive CapacityCall
  | osMessageQueueGetCapacity (id : Handle)
  deriving DecidableEq, Repr

abbrev capacitySig : Signature where
  Call := CapacityCall
  Reply
    | .osMessageQueueGetCapacity _ => Nat

def capacity (id : Handle) : Script capacitySig SystemError Nat :=
  .ask (.osMessageQueueGetCapacity id) fun (count : Nat) => .done count

abbrev clientSig (Msg : Type) : Signature :=
  (queueSig Msg).sum (Clear.clearSig.sum capacitySig)

abbrev ThreadId := Nat

/-- A get carries what its buffer holds before it. -/
inductive Operation (Msg : Type)
  | put (data : Msg) (priority : UInt8)
  | putFor (data : Msg) (priority : UInt8) (waitTime : Duration)
  | get (data : Msg)
  | getFor (data : Msg) (waitTime : Duration)
  | size
  | capacity
  | empty
  | clear

inductive Value (Msg : Type)
  | void
  | status (value : MqStatus)
  | message (data : Msg)
  | timed (value : MqStatus) (data : Msg)
  | count (value : Nat)
  | bool (value : Bool)

section Threads
variable {Msg : Type}

/-- `put(data, wait_time)` is `putFor` with priority 0. -/
def body (freq : Int) (id : Handle) :
    Operation Msg → Script (clientSig Msg) SystemError (Value Msg)
  | .put data priority => (MessageQueue.put id data priority).inl (fun e => e) fun _ => .void
  | .putFor data priority waitTime =>
      (putUsec freq id data priority waitTime.toUsec).inl (fun e => e) .status
  | .get data => (MessageQueue.get id data).inl (fun e => e) .message
  | .getFor data waitTime =>
      (getUsec freq id data waitTime.toUsec).inl (fun e => e) fun got => .timed got.1 got.2
  | .size => ((Clear.size id).inl (fun e => e) .count).inr (fun e => e) fun value => value
  | .capacity =>
      ((Delivery.capacity id).inr (fun e => e) .count).inr (fun e => e) fun value => value
  | .empty => ((Clear.empty id).inl (fun e => e) .bool).inr (fun e => e) fun value => value
  | .clear =>
      ((Clear.reset id).inl (fun e => e) fun _ => .void).inr (fun e => e) fun value => value

structure OsState (Msg : Type) where
  capacity : Nat
  messages : OsQueue Msg

def PutStatus (s : OsState Msg) (timeout : Int) : OsStatus → Prop
  | .osOK => s.messages.length < s.capacity
  | .osErrorResource => s.capacity ≤ s.messages.length ∧ timeout = 0
  | .osErrorTimeout => s.capacity ≤ s.messages.length ∧ timeout ≠ 0 ∧ timeout ≠ osWaitForever
  | _ => True

def GetStatus (s : OsState Msg) (timeout : Int) : OsStatus → Prop
  | .osOK => 0 < s.messages.length
  | .osErrorResource => s.messages.length = 0 ∧ timeout = 0
  | .osErrorTimeout => s.messages.length = 0 ∧ timeout ≠ 0 ∧ timeout ≠ osWaitForever
  | _ => True

instance (s : OsState Msg) (timeout : Int) : (sta : OsStatus) → Decidable (PutStatus s timeout sta)
  | .osOK => inferInstanceAs (Decidable (s.messages.length < s.capacity))
  | .osErrorResource => inferInstanceAs (Decidable (s.capacity ≤ s.messages.length ∧ timeout = 0))
  | .osErrorTimeout => inferInstanceAs (Decidable (s.capacity ≤ s.messages.length ∧
      timeout ≠ 0 ∧ timeout ≠ osWaitForever))
  | .osError | .osErrorParameter | .osErrorNoMemory | .osErrorISR | .osStatusReserved =>
      .isTrue trivial

instance (s : OsState Msg) (timeout : Int) : (sta : OsStatus) → Decidable (GetStatus s timeout sta)
  | .osOK => inferInstanceAs (Decidable (0 < s.messages.length))
  | .osErrorResource => inferInstanceAs (Decidable (s.messages.length = 0 ∧ timeout = 0))
  | .osErrorTimeout => inferInstanceAs (Decidable (s.messages.length = 0 ∧
      timeout ≠ 0 ∧ timeout ≠ osWaitForever))
  | .osError | .osErrorParameter | .osErrorNoMemory | .osErrorISR | .osStatusReserved =>
      .isTrue trivial

variable [DecidableEq Msg]

def answer (s : OsState Msg) (_ : ThreadId) :
    (call : (clientSig Msg).Call) → (clientSig Msg).Reply call → Option (OsState Msg)
  | .inl (.osMessageQueuePut id msg priority timeout), (sta : OsStatus) =>
      if PutStatus s timeout sta then
        let ended := kernel sta (.osMessageQueuePut id msg priority timeout) s.messages
        some { s with messages := ended.2 }
      else none
  | .inl (.osMessageQueueGet id timeout), (reply : OsStatus × Option Msg) =>
      let ended := kernel reply.1 (.osMessageQueueGet id timeout) s.messages
      if GetStatus s timeout reply.1 ∧ reply = ended.1 then some { s with messages := ended.2 }
      else none
  | .inr (.inl (.osMessageQueueGetCount _)), (count : Nat) =>
      if count = s.messages.length then some s else none
  | .inr (.inl (.osMessageQueueReset _)), (sta : OsStatus) =>
      some (if sta = .osOK then { s with messages := [] } else s)
  | .inr (.inr (.osMessageQueueGetCapacity _)), (count : Nat) =>
      if count = s.capacity then some s else none

def service (room : Nat) : Service (clientSig Msg) ThreadId (OsState Msg) where
  initial := ⟨room, []⟩
  answer := answer

abbrev Threads (Msg : Type) :=
  Config (clientSig Msg) ThreadId (OsState Msg) (Operation Msg) SystemError (Value Msg)

def system (freq : Int) (id : Handle) (room : Nat) :
    ActionSystem (Threads Msg) (Clients.Action (clientSig Msg) ThreadId (Operation Msg)) :=
  Clients.system (service room) (body freq id)

end Threads

/-! ## The journal -/

/-- A message with the number of the operation that put it. -/
structure Parcel (Msg : Type) where
  op : Nat
  data : Msg
  priority : UInt8
  deriving DecidableEq

def Parcel.rank {Msg : Type} (parcel : Parcel Msg) : Nat := parcel.priority.toNat

/-- A message that is gone was received by a get, or dropped by `clear`. -/
structure Journal (Msg : Type) where
  accepted : List (Parcel Msg)
  gone : List (Parcel Msg × Option Nat)
  queued : List (Parcel Msg)

abbrev Entry (Msg : Type) := Nat × ThreadId × Answered (clientSig Msg)

section Journal
variable {Msg : Type}

def putOf : Entry Msg → Option (Parcel Msg)
  | (i, _, ⟨.inl (.osMessageQueuePut _ data priority _), (sta : OsStatus)⟩) =>
      if sta = .osOK then some ⟨i, data, priority⟩ else none
  | _ => none

def getOf : Entry Msg → Option (Nat × Msg)
  | (i, _, ⟨.inl (.osMessageQueueGet _ _), (reply : OsStatus × Option Msg)⟩) =>
      if reply.1 = .osOK then reply.2.map fun data => (i, data) else none
  | _ => none

def isReset : Entry Msg → Bool
  | (_, _, ⟨.inr (.inl (.osMessageQueueReset _)), (sta : OsStatus)⟩) => sta = .osOK
  | _ => false

namespace Journal

def receive (j : Journal Msg) (get : Nat) : Journal Msg :=
  { j with
    gone := j.gone ++ (j.queued.take 1).map fun parcel => (parcel, some get)
    queued := j.queued.drop 1 }

def reset (j : Journal Msg) : Journal Msg :=
  { j with gone := j.gone ++ j.queued.map fun parcel => (parcel, none), queued := [] }

def record (j : Journal Msg) (entry : Entry Msg) : Journal Msg :=
  match putOf entry, getOf entry with
  | some parcel, _ =>
      { j with
        accepted := j.accepted ++ [parcel]
        queued := enqueue Parcel.rank parcel j.queued }
  | none, some (get, _) => j.receive get
  | none, none => if isReset entry then j.reset else j

def log (j : Journal Msg) : Log (Parcel Msg) := ⟨j.accepted, j.gone.map Prod.fst, j.queued⟩

def receipt (left : Parcel Msg × Option Nat) : Option (Nat × Msg) :=
  left.2.map fun get => (get, left.1.data)

def receipts (j : Journal Msg) : List (Nat × Msg) := j.gone.filterMap receipt

end Journal

def journal (history : List (Entry Msg)) : Journal Msg := history.foldl Journal.record ⟨[], [], []⟩

theorem journal_append (history : List (Entry Msg)) (entry : Entry Msg) :
    journal (history ++ [entry]) = (journal history).record entry := by
  rw [journal, List.foldl_append]
  rfl

section Record
variable {j : Journal Msg} {entry : Entry Msg}

theorem record_put {parcel : Parcel Msg} (puts : putOf entry = some parcel) :
    j.record entry =
      { j with
        accepted := j.accepted ++ [parcel]
        queued := enqueue Parcel.rank parcel j.queued } := by
  rw [Journal.record, puts]

theorem record_get {get : Nat} {data : Msg} (noPut : putOf entry = none)
    (gets : getOf entry = some (get, data)) : j.record entry = j.receive get := by
  rw [Journal.record, noPut, gets]

theorem record_other (noPut : putOf entry = none) (noGet : getOf entry = none) :
    j.record entry = if isReset entry then j.reset else j := by
  rw [Journal.record, noPut, noGet]

theorem record_orderly (orderly : Orderly Parcel.rank j.log) (entry : Entry Msg) :
    Orderly Parcel.rank (j.record entry).log := by
  cases puts : putOf entry with
  | some parcel =>
      rw [record_put puts]
      exact orderly.arrive parcel
  | none =>
      cases gets : getOf entry with
      | some got =>
          rw [record_get puts gets]
          have front : j.log.waiting = j.queued.take 1 ++ j.queued.drop 1 :=
            (List.take_append_drop 1 j.queued).symm
          have departed := orderly.depart front
          simpa [Journal.log, Journal.receive, Function.comp_def] using departed
      | none =>
          rw [record_other puts gets]
          split
          · have departed := orderly.depart (List.append_nil j.queued).symm
            simpa [Journal.log, Journal.reset, Function.comp_def] using departed
          · exact orderly

end Record

theorem journal_orderly (history : List (Entry Msg)) :
    Orderly Parcel.rank (journal history).log := by
  induction history using List.reverseRecOn with
  | nil => exact .empty
  | append_singleton history entry ih =>
      rw [journal_append]
      exact record_orderly ih entry

theorem journal_accepted (history : List (Entry Msg)) :
    (journal history).accepted = history.filterMap putOf := by
  induction history using List.reverseRecOn with
  | nil => rfl
  | append_singleton history entry ih =>
      rw [journal_append, List.filterMap_append, ← ih]
      cases puts : putOf entry with
      | some parcel =>
          rw [record_put puts]
          simp [puts]
      | none =>
          cases gets : getOf entry with
          | some got =>
              rw [record_get puts gets]
              simp [puts, Journal.receive]
          | none =>
              rw [record_other puts gets]
              split <;> simp [puts, Journal.reset]

theorem journal_dropped (history : List (Entry Msg)) :
    ∀ parcel, (parcel, none) ∈ (journal history).gone → ∃ entry ∈ history, isReset entry = true := by
  induction history using List.reverseRecOn with
  | nil =>
      intro parcel member
      contradiction
  | append_singleton history entry ih =>
      intro parcel member
      rw [journal_append] at member
      have earlier : (parcel, none) ∈ (journal history).gone →
          ∃ e ∈ history ++ [entry], isReset e = true := by
        intro old
        obtain ⟨e, inHistory, resets⟩ := ih parcel old
        exact ⟨e, List.mem_append_left _ inHistory, resets⟩
      cases puts : putOf entry with
      | some put =>
          rw [record_put puts] at member
          exact earlier member
      | none =>
          cases gets : getOf entry with
          | some got =>
              rw [record_get puts gets] at member
              rcases List.mem_append.mp member with old | new
              · exact earlier old
              · obtain ⟨_, _, same⟩ := List.mem_map.mp new
                cases same
          | none =>
              rw [record_other puts gets] at member
              split at member
              · rename_i resets
                exact ⟨entry, List.mem_append_right _ (List.mem_singleton_self entry), resets⟩
              · exact earlier member

end Journal

/-! ## The journal and the OS queue -/

section Tracks
variable {Msg : Type}

def Parcel.sent (parcel : Parcel Msg) : Msg × UInt8 := (parcel.data, parcel.priority)

/-- A get is answered with a message exactly when it is answered with `osOK`. -/
def Truthful : Answered (clientSig Msg) → Prop
  | ⟨.inl (.osMessageQueueGet _ _), (reply : OsStatus × Option Msg)⟩ =>
      reply.1 = .osOK ↔ reply.2.isSome = true
  | _ => True

/-- The journal is the OS queue with the operations that the messages come from. -/
structure Tracks (room : Nat) (history : List (Entry Msg)) (s : OsState Msg) : Prop where
  capacity : s.capacity = room
  bounded : s.messages.length ≤ room
  queued : (journal history).queued.map Parcel.sent = s.messages
  receipts : (journal history).receipts = history.filterMap getOf
  truthful : ∀ entry ∈ history, Truthful entry.2.2

theorem enqueue_sent (parcel : Parcel Msg) (queued : List (Parcel Msg)) :
    (enqueue Parcel.rank parcel queued).map Parcel.sent =
      OsQueue.insert (queued.map Parcel.sent) parcel.data parcel.priority := by
  induction queued with
  | nil => rfl
  | cons head rest ih =>
      rw [enqueue, List.map_cons, OsQueue.insert]
      have same : head.rank < parcel.rank ↔ (head.sent).2 < parcel.priority :=
        UInt8.lt_iff_toNat_lt.symm
      by_cases lower : head.rank < parcel.rank
      · rw [if_pos lower, if_pos (same.mp lower)]
        rfl
      · rw [if_neg lower, if_neg (fun less => lower (same.mpr less)), List.map_cons, ih]

theorem Tracks.initial (room : Nat) : Tracks room ([] : List (Entry Msg)) ⟨room, []⟩ where
  capacity := rfl
  bounded := Nat.zero_le _
  queued := rfl
  receipts := rfl
  truthful := by
    intro entry member
    contradiction

variable {room : Nat} {history : List (Entry Msg)} {s s' : OsState Msg} {entry : Entry Msg}

theorem Tracks.truthful_append (tracks : Tracks room history s) (truthful : Truthful entry.2.2) :
    ∀ e ∈ history ++ [entry], Truthful e.2.2 := by
  intro e member
  rcases List.mem_append.mp member with old | new
  · exact tracks.truthful e old
  · cases List.mem_singleton.mp new
    exact truthful

/-- An answer that neither puts nor gets nor resets. -/
theorem Tracks.idle (tracks : Tracks room history s) (noPut : putOf entry = none)
    (noGet : getOf entry = none) (noReset : isReset entry = false)
    (truthful : Truthful entry.2.2) : Tracks room (history ++ [entry]) s := by
  have same : journal (history ++ [entry]) = journal history := by
    rw [journal_append, record_other noPut noGet, if_neg (by simp [noReset])]
  refine ⟨tracks.capacity, tracks.bounded, ?_, ?_, tracks.truthful_append truthful⟩
  · rw [same]
    exact tracks.queued
  · rw [same, tracks.receipts]
    simp [noGet]

theorem Tracks.put {parcel : Parcel Msg} (tracks : Tracks room history s)
    (puts : putOf entry = some parcel) (noGet : getOf entry = none)
    (truthful : Truthful entry.2.2) (fits : s.messages.length < s.capacity) :
    Tracks room (history ++ [entry])
      { s with messages := OsQueue.insert s.messages parcel.data parcel.priority } := by
  refine ⟨tracks.capacity, ?_, ?_, ?_, tracks.truthful_append truthful⟩
  · have length := (OsQueue.insert_perm s.messages parcel.data parcel.priority).length_eq
    rw [List.length_cons] at length
    have capacity := tracks.capacity
    simp only
    omega
  · rw [journal_append, record_put puts, enqueue_sent, tracks.queued]
  · rw [journal_append, record_put puts]
    have receipts := tracks.receipts
    simpa [Journal.receipts, Journal.receipt, noGet] using receipts

theorem Tracks.get {get : Nat} {head : Msg × UInt8} {rest : OsQueue Msg}
    (tracks : Tracks room history s) (noPut : putOf entry = none)
    (gets : getOf entry = some (get, head.1)) (truthful : Truthful entry.2.2)
    (front : s.messages = head :: rest) :
    Tracks room (history ++ [entry]) { s with messages := rest } := by
  obtain ⟨parcel, queued, split, isHead, isRest⟩ :=
    List.map_eq_cons_iff.mp (tracks.queued.trans front)
  have receive : journal (history ++ [entry]) = (journal history).receive get := by
    rw [journal_append, record_get noPut gets]
  refine ⟨tracks.capacity, ?_, ?_, ?_, tracks.truthful_append truthful⟩
  · have bounded := tracks.bounded
    rw [front, List.length_cons] at bounded
    exact Nat.le_of_succ_le bounded
  · rw [receive, Journal.receive, split]
    exact isRest
  · rw [receive, List.filterMap_append, ← tracks.receipts]
    simp [Journal.receipts, Journal.receipt, Journal.receive, split, gets, ← isHead, Parcel.sent]

theorem Tracks.reset (tracks : Tracks room history s) (noPut : putOf entry = none)
    (noGet : getOf entry = none) (resets : isReset entry = true) (truthful : Truthful entry.2.2) :
    Tracks room (history ++ [entry]) { s with messages := [] } := by
  have reset : journal (history ++ [entry]) = (journal history).reset := by
    rw [journal_append, record_other noPut noGet, if_pos resets]
  refine ⟨tracks.capacity, Nat.zero_le _, ?_, ?_, tracks.truthful_append truthful⟩
  · rw [reset]
    rfl
  · rw [reset, List.filterMap_append, ← tracks.receipts]
    simp [Journal.receipts, Journal.receipt, Journal.reset, noGet]

theorem Tracks.step [DecidableEq Msg] {i : Nat} {t : ThreadId} {call : (clientSig Msg).Call}
    {reply : (clientSig Msg).Reply call} (tracks : Tracks room history s)
    (answered : answer s t call reply = some s') :
    Tracks room (history ++ [(i, t, ⟨call, reply⟩)]) s' := by
  rcases call with (⟨id, data, priority, timeout⟩ | ⟨id, timeout⟩) | ((⟨id⟩ | ⟨id⟩) | ⟨id⟩)
  · change OsStatus at reply
    simp only [answer, Option.ite_none_right_eq_some, Option.some.injEq] at answered
    obtain ⟨possible, rfl⟩ := answered
    by_cases ok : reply = .osOK
    · subst ok
      have puts : putOf (i, t, ⟨.inl (.osMessageQueuePut id data priority timeout), OsStatus.osOK⟩) =
          some (⟨i, data, priority⟩ : Parcel Msg) := rfl
      exact tracks.put puts rfl trivial possible
    · have kept : Tracks room (history ++ [(i, t,
          ⟨.inl (.osMessageQueuePut id data priority timeout), reply⟩)]) s :=
        tracks.idle (if_neg ok) rfl rfl trivial
      simpa [kernel, ok] using kept
  · change OsStatus × Option Msg at reply
    simp only [answer, Option.ite_none_right_eq_some, Option.some.injEq] at answered
    obtain ⟨⟨possible, written⟩, rfl⟩ := answered
    obtain ⟨sta, got⟩ := reply
    by_cases ok : sta = .osOK
    · subst ok
      cases messages : s.messages with
      | nil =>
          have nonempty : 0 < s.messages.length := possible
          rw [messages] at nonempty
          contradiction
      | cons head rest =>
          simp only [messages, kernel, if_true, Prod.mk.injEq, true_and] at written
          subst written
          have truthful : Truthful (⟨.inl (.osMessageQueueGet id timeout),
              (OsStatus.osOK, some head.1)⟩ : Answered (clientSig Msg)) := iff_of_true rfl rfl
          have gets : getOf (i, t, ⟨.inl (.osMessageQueueGet id timeout),
              (OsStatus.osOK, some head.1)⟩) = some (i, head.1) := rfl
          exact tracks.get rfl gets truthful messages
    · have untouched : kernel sta (.osMessageQueueGet id timeout) s.messages =
          ((sta, none), s.messages) := by
        cases s.messages <;> simp [kernel, ok]
      simp only [untouched] at written ⊢
      cases written
      have truthful : Truthful (⟨.inl (.osMessageQueueGet id timeout),
          (sta, (none : Option Msg))⟩ : Answered (clientSig Msg)) :=
        iff_of_false ok Bool.false_ne_true
      exact tracks.idle rfl (if_neg ok) rfl truthful
  · simp only [answer, Option.ite_none_right_eq_some, Option.some.injEq] at answered
    obtain ⟨_, rfl⟩ := answered
    exact tracks.idle rfl rfl rfl trivial
  · change OsStatus at reply
    simp only [answer, Option.some.injEq] at answered
    subst answered
    by_cases ok : reply = .osOK
    · rw [if_pos ok]
      exact tracks.reset rfl rfl (decide_eq_true ok) trivial
    · rw [if_neg ok]
      exact tracks.idle rfl rfl (decide_eq_false ok) trivial
  · simp only [answer, Option.ite_none_right_eq_some, Option.some.injEq] at answered
    obtain ⟨_, rfl⟩ := answered
    exact tracks.idle rfl rfl rfl trivial

end Tracks

/-! ## The counts -/

section Counts
variable {Msg : Type}

/-- What a query is answered while `queued` messages are in the queue. -/
def Counts (room queued : Nat) : Answered (clientSig Msg) → Prop
  | ⟨.inr (.inl (.osMessageQueueGetCount _)), (count : Nat)⟩ => count = queued
  | ⟨.inr (.inr (.osMessageQueueGetCapacity _)), (count : Nat)⟩ => count = room
  | _ => True

def Counted (room : Nat) (history : List (Entry Msg)) : Prop :=
  ∀ front entry back, history = front ++ entry :: back →
    Counts room (journal front).queued.length entry.2.2

variable {room : Nat} {history : List (Entry Msg)} {s s' : OsState Msg}

theorem Counted.initial (room : Nat) : Counted room ([] : List (Entry Msg)) := by
  intro front entry back split
  exact absurd split (by simp)

theorem Counted.append {entry : Entry Msg} (counted : Counted room history)
    (counts : Counts room (journal history).queued.length entry.2.2) :
    Counted room (history ++ [entry]) := by
  intro front entry' back split
  rcases List.eq_nil_or_concat back with rfl | ⟨back, last, rfl⟩
  · obtain ⟨rfl, same⟩ := List.append_inj' split rfl
    cases same
    exact counts
  · rw [List.concat_eq_append, ← List.cons_append, ← List.append_assoc] at split
    exact counted front entry' back (List.append_inj' split rfl).1

theorem Tracks.counts [DecidableEq Msg] {t : ThreadId} {call : (clientSig Msg).Call}
    {reply : (clientSig Msg).Reply call} (tracks : Tracks room history s)
    (answered : answer s t call reply = some s') :
    Counts room (journal history).queued.length ⟨call, reply⟩ := by
  rcases call with (⟨id, data, priority, timeout⟩ | ⟨id, timeout⟩) | ((⟨id⟩ | ⟨id⟩) | ⟨id⟩)
  · trivial
  · trivial
  · change Nat at reply
    simp only [answer, Option.ite_none_right_eq_some] at answered
    rw [Counts, answered.1, ← tracks.queued, List.length_map]
  · trivial
  · change Nat at reply
    simp only [answer, Option.ite_none_right_eq_some] at answered
    exact answered.1.trans tracks.capacity

/-- An operation `i` was answered, and `front` is what had been answered before. -/
def AnsweredAfter (c : Threads Msg) (i : Nat) (front : List (Entry Msg)) : Prop :=
  ∃ entry back, c.history = front ++ entry :: back ∧ entry.1 = i

theorem Counted.answered {c : Threads Msg} {i : Nat} {a : Answered (clientSig Msg)}
    (counted : Counted room c.history) (member : a ∈ c.answers i) :
    ∃ front, AnsweredAfter c i front ∧ Counts room (journal front).queued.length a := by
  obtain ⟨t, inHistory⟩ := exists_of_mem_answers member
  obtain ⟨front, back, split⟩ := List.append_of_mem inHistory
  exact ⟨front, ⟨_, back, split, rfl⟩, counted front _ back split⟩

end Counts

/-! ## What an operation puts and gets -/

section Operations
variable {Msg : Type}

def Operation.offers (i : Nat) : Operation Msg → Option (Parcel Msg)
  | .put data priority => some ⟨i, data, priority⟩
  | .putFor data priority _ => some ⟨i, data, priority⟩
  | _ => none

def Operation.sends (i : Nat) : Operation Msg → Except SystemError (Value Msg) → Option (Parcel Msg)
  | .put data priority, .ok _ => some ⟨i, data, priority⟩
  | .putFor data priority _, .ok (.status .noTimeout) => some ⟨i, data, priority⟩
  | _, _ => none

def Operation.receives : Operation Msg → Except SystemError (Value Msg) → Option Msg
  | .get _, .ok (.message data) => some data
  | .getFor _ _, .ok (.timed .noTimeout data) => some data
  | _, _ => none

/-! What the scripts of `message_queue_impl` have been answered, and how they read it. -/

section Readings
variable {freq : Int} {id : Handle} {data : Msg} {priority : UInt8} {usec : Int}

def putReading (id : Handle) (sta : OsStatus) : Except SystemError Unit :=
  if sta = .osOK then .ok () else .error (osFailure sta (strError "osMessageQueuePut" id))

def getReading (id : Handle) (data : Msg) (reply : OsStatus × Option Msg) :
    Except SystemError Msg :=
  if reply.1 = .osOK then .ok (reply.2.getD data)
  else .error (osFailure reply.1 (strError "osMessageQueueGet" id))

/-- The reading of a timed call, of the status it waited for and of the others. -/
def timedReading {Val : Type} (timeout : Int) (sta : OsStatus) (what : String)
    (refused value : Val) : Except SystemError Val :=
  if timeout = 0 ∧ sta = .osErrorResource then .ok refused
  else if sta ≠ .osOK ∧ sta ≠ .osErrorTimeout then .error (osFailure sta what)
  else .ok value

theorem get_reads (reply : OsStatus × Option Msg) :
    (if reply.1 ≠ .osOK then .throw (osFailure reply.1 (strError "osMessageQueueGet" id))
      else .done (reply.2.getD data) : Script (queueSig Msg) SystemError Msg) =
        ofOutcome (getReading id data reply) := by
  by_cases ok : reply.1 = .osOK <;> simp [getReading, ok, ofOutcome]

variable {answers : List (Answered (queueSig Msg))}

theorem ends_put {outcome : Except SystemError Unit}
    (ends : Ends (MessageQueue.put id data priority) answers outcome) :
    ∃ sta : OsStatus, answers = [⟨.osMessageQueuePut id data priority osWaitForever, sta⟩] ∧
      outcome = putReading id sta :=
  ends_one_reading (fun _ => expectOk_eq) ends

theorem ends_get {outcome : Except SystemError Msg}
    (ends : Ends (MessageQueue.get id data) answers outcome) :
    ∃ reply : OsStatus × Option Msg, answers = [⟨.osMessageQueueGet id osWaitForever, reply⟩] ∧
      outcome = getReading id data reply :=
  ends_one_reading get_reads ends

theorem ends_putUsec {outcome : Except SystemError MqStatus}
    (ends : Ends (putUsec freq id data priority usec) answers outcome) :
    (answers = [] ∧ ∃ error, outcome = .error error) ∨
      ∃ (timeout : Int) (sta : OsStatus),
        answers = [⟨.osMessageQueuePut id data priority timeout, sta⟩] ∧
          outcome = timedReading timeout sta (strError "osMessageQueuePut" id) .full
            (if sta = .osOK then .noTimeout else .timeout) := by
  rcases lt_or_ge usec 0 with negative | nonneg
  · rw [putUsec, withTimeout_negative negative] at ends
    obtain ⟨none, threw⟩ := ends_throw ends
    exact .inl ⟨none, _, threw⟩
  · rw [putUsec, withTimeout_nonneg nonneg] at ends
    exact .inr ⟨_, ends_one_reading (fun _ => readStatus_eq) ends⟩

theorem ends_getUsec {outcome : Except SystemError (MqStatus × Msg)}
    (ends : Ends (getUsec freq id data usec) answers outcome) :
    (answers = [] ∧ ∃ error, outcome = .error error) ∨
      ∃ (timeout : Int) (reply : OsStatus × Option Msg),
        answers = [⟨.osMessageQueueGet id timeout, reply⟩] ∧
          outcome = timedReading timeout reply.1 (strError "osMessageQueueGet" id)
            (.empty, reply.2.getD data)
            (if reply.1 = .osOK then .noTimeout else .timeout, reply.2.getD data) := by
  rcases lt_or_ge usec 0 with negative | nonneg
  · rw [getUsec, withTimeout_negative negative] at ends
    obtain ⟨none, threw⟩ := ends_throw ends
    exact .inl ⟨none, _, threw⟩
  · rw [getUsec, withTimeout_nonneg nonneg] at ends
    exact .inr ⟨_, ends_one_reading (fun _ => readStatus_eq) ends⟩

theorem asks_putUsec : Asks 1 (putUsec freq id data priority usec) := by
  rcases lt_or_ge usec 0 with negative | nonneg
  · rw [putUsec, withTimeout_negative negative]
    exact .throw 1 _
  · rw [putUsec, withTimeout_nonneg nonneg]
    exact asks_one fun _ => readStatus_eq

theorem asks_getUsec : Asks 1 (getUsec freq id data usec) := by
  rcases lt_or_ge usec 0 with negative | nonneg
  · rw [getUsec, withTimeout_negative negative]
    exact .throw 1 _
  · rw [getUsec, withTimeout_nonneg nonneg]
    exact asks_one fun _ => readStatus_eq

theorem body_asks (op : Operation Msg) : Asks 1 (body freq id op) := by
  cases op with
  | put data priority => exact Asks.inl (asks_one fun _ => expectOk_eq)
  | putFor data priority waitTime => exact Asks.inl asks_putUsec
  | get data => exact Asks.inl (asks_one get_reads)
  | getFor data waitTime => exact Asks.inl asks_getUsec
  | size => exact Asks.inr (Asks.inl (.ask fun count => .done 0 count))
  | capacity => exact Asks.inr (Asks.inr (.ask fun count => .done 0 count))
  | empty => exact Asks.inr (Asks.inl (.ask fun count => .done 0 _))
  | clear => exact Asks.inr (Asks.inl (asks_one fun _ => expectOk_eq))

theorem timedReading_cases {Val : Type} (timeout : Int) (sta : OsStatus) (what : String)
    (refused value : Val) :
    (sta = .osOK ∧ timedReading timeout sta what refused value = .ok value) ∨
      (sta ≠ .osOK ∧ (timedReading timeout sta what refused value = .ok refused ∨
        timedReading timeout sta what refused value = .ok value ∨
          ∃ error, timedReading timeout sta what refused value = .error error)) := by
  by_cases ok : sta = .osOK
  · exact .inl ⟨ok, by simp [timedReading, ok]⟩
  · refine .inr ⟨ok, ?_⟩
    unfold timedReading
    split
    · exact .inl rfl
    · split
      · exact .inr (.inr ⟨_, rfl⟩)
      · exact .inr (.inl rfl)

theorem follows_put {rest : Script (queueSig Msg) SystemError Unit}
    (follows : Follows (MessageQueue.put id data priority) answers rest) :
    ∀ a ∈ answers, ∃ timeout sta, a = ⟨.osMessageQueuePut id data priority timeout, sta⟩ := by
  intro a member
  rcases follows_one (asks_one fun _ => expectOk_eq) follows with rfl | ⟨sta, rfl⟩
  · contradiction
  · exact ⟨_, sta, List.mem_singleton.mp member⟩

theorem follows_putUsec {rest : Script (queueSig Msg) SystemError MqStatus}
    (follows : Follows (putUsec freq id data priority usec) answers rest) :
    ∀ a ∈ answers, ∃ timeout sta, a = ⟨.osMessageQueuePut id data priority timeout, sta⟩ := by
  intro a member
  rcases lt_or_ge usec 0 with negative | nonneg
  · rw [putUsec, withTimeout_negative negative] at follows
    rw [(follows_throw follows).1] at member
    contradiction
  · rw [putUsec, withTimeout_nonneg nonneg] at follows
    rcases follows_one (asks_one fun _ => readStatus_eq) follows with rfl | ⟨sta, rfl⟩
    · contradiction
    · exact ⟨_, sta, List.mem_singleton.mp member⟩

theorem follows_get {rest : Script (queueSig Msg) SystemError Msg}
    (follows : Follows (MessageQueue.get id data) answers rest) :
    ∀ a ∈ answers, ∃ timeout reply, a = ⟨.osMessageQueueGet id timeout, reply⟩ := by
  intro a member
  rcases follows_one (asks_one get_reads) follows with rfl | ⟨reply, rfl⟩
  · contradiction
  · exact ⟨_, reply, List.mem_singleton.mp member⟩

theorem follows_getUsec {rest : Script (queueSig Msg) SystemError (MqStatus × Msg)}
    (follows : Follows (getUsec freq id data usec) answers rest) :
    ∀ a ∈ answers, ∃ timeout reply, a = ⟨.osMessageQueueGet id timeout, reply⟩ := by
  intro a member
  rcases lt_or_ge usec 0 with negative | nonneg
  · rw [getUsec, withTimeout_negative negative] at follows
    rw [(follows_throw follows).1] at member
    contradiction
  · rw [getUsec, withTimeout_nonneg nonneg] at follows
    rcases follows_one (asks_one fun _ => readStatus_eq) follows with rfl | ⟨reply, rfl⟩
    · contradiction
    · exact ⟨_, reply, List.mem_singleton.mp member⟩

end Readings

section Body
variable {freq : Int} {id : Handle} {op : Operation Msg} {i : Nat} {t : ThreadId}
  {answers : List (Answered (clientSig Msg))} {outcome : Except SystemError (Value Msg)}

/-- Whatever has been put was offered, and only `clear` resets. -/
theorem body_follows {rest : Script (clientSig Msg) SystemError (Value Msg)}
    {a : Answered (clientSig Msg)} (follows : Follows (body freq id op) answers rest)
    (member : a ∈ answers) :
    (∀ parcel, putOf (i, t, a) = some parcel → op.offers i = some parcel) ∧
      (isReset (i, t, a) = true → op = .clear) := by
  have ofGet : ∀ answers' : List (Answered (queueSig Msg)), answers = answers'.map Answered.inl →
      (∀ a ∈ answers', ∃ id timeout reply, a = ⟨.osMessageQueueGet id timeout, reply⟩) →
        putOf (i, t, a) = none ∧ isReset (i, t, a) = false := by
    rintro answers' rfl gets
    obtain ⟨a', inAnswers, rfl⟩ := List.mem_map.mp member
    obtain ⟨id, timeout, reply, rfl⟩ := gets a' inAnswers
    exact ⟨rfl, rfl⟩
  have ofPut : ∀ (answers' : List (Answered (queueSig Msg))) (data : Msg) (priority : UInt8),
      answers = answers'.map Answered.inl →
      (∀ a ∈ answers', ∃ timeout sta, a = ⟨.osMessageQueuePut id data priority timeout, sta⟩) →
        (∀ parcel, putOf (i, t, a) = some parcel → parcel = ⟨i, data, priority⟩) ∧
          isReset (i, t, a) = false := by
    rintro answers' data priority rfl puts
    obtain ⟨a', inAnswers, rfl⟩ := List.mem_map.mp member
    obtain ⟨timeout, sta, rfl⟩ := puts a' inAnswers
    refine ⟨?_, rfl⟩
    intro parcel isPut
    simp only [putOf, Answered.inl, Option.ite_none_right_eq_some, Option.some.injEq] at isPut
    exact isPut.2.symm
  have single : ∀ {call : (clientSig Msg).Call}
      {next : (clientSig Msg).Reply call → Script (clientSig Msg) SystemError (Value Msg)},
        body freq id op = .ask call next → ∃ reply, a = ⟨call, reply⟩ := by
    intro call next same
    have asks : Asks 1 (.ask call next) := same ▸ body_asks op
    rw [same] at follows
    rcases follows_one asks follows with rfl | ⟨reply, rfl⟩
    · contradiction
    · exact ⟨reply, List.mem_singleton.mp member⟩
  cases op with
  | put data priority =>
      obtain ⟨answers', _, follows', same, _⟩ := follows_of_inl follows
      obtain ⟨puts, noReset⟩ := ofPut answers' data priority same (follows_put follows')
      refine ⟨fun parcel isPut => ?_, fun resets => ?_⟩
      · rw [puts parcel isPut]
        rfl
      · simp [noReset] at resets
  | putFor data priority waitTime =>
      obtain ⟨answers', _, follows', same, _⟩ := follows_of_inl follows
      obtain ⟨puts, noReset⟩ := ofPut answers' data priority same (follows_putUsec follows')
      refine ⟨fun parcel isPut => ?_, fun resets => ?_⟩
      · rw [puts parcel isPut]
        rfl
      · simp [noReset] at resets
  | get data =>
      obtain ⟨answers', _, follows', same, _⟩ := follows_of_inl follows
      obtain ⟨noPut, noReset⟩ := ofGet answers' same fun a m => ⟨id, follows_get follows' a m⟩
      simp [noPut, noReset]
  | getFor data waitTime =>
      obtain ⟨answers', _, follows', same, _⟩ := follows_of_inl follows
      obtain ⟨noPut, noReset⟩ := ofGet answers' same fun a m => ⟨id, follows_getUsec follows' a m⟩
      simp [noPut, noReset]
  | size =>
      obtain ⟨reply, rfl⟩ := single rfl
      simp [putOf, isReset]
  | capacity =>
      obtain ⟨reply, rfl⟩ := single rfl
      simp [putOf, isReset]
  | empty =>
      obtain ⟨reply, rfl⟩ := single rfl
      simp [putOf, isReset]
  | clear =>
      obtain ⟨answers', _, follows', rfl, _⟩ := follows_of_inr follows
      obtain ⟨a', inAnswers, rfl⟩ := List.mem_map.mp member
      simp [putOf, Answered.inr]

/-- What an ended operation put and got is what it reports. -/
theorem body_ends (ends : Ends (body freq id op) answers outcome)
    (truthful : ∀ a ∈ answers, Truthful a) :
    (answers.filterMap fun a => putOf (i, t, a)) = (op.sends i outcome).toList ∧
      (answers.filterMap fun a => getOf (i, t, a)) =
        ((op.receives outcome).map fun data => (i, data)).toList := by
  cases op with
  | put data priority =>
      obtain ⟨answers', outcome', ends', rfl, rfl⟩ := ends_of_inl ends
      obtain ⟨sta, rfl, rfl⟩ := ends_put ends'
      by_cases ok : sta = .osOK <;>
        simp [putReading, embedded, Operation.sends, Operation.receives, putOf, getOf,
          Answered.inl, ok]
  | putFor data priority waitTime =>
      obtain ⟨answers', outcome', ends', rfl, rfl⟩ := ends_of_inl ends
      rcases ends_putUsec ends' with ⟨rfl, error, rfl⟩ | ⟨timeout, sta, rfl, rfl⟩
      · exact ⟨rfl, rfl⟩
      · rcases timedReading_cases timeout sta (strError "osMessageQueuePut" id) MqStatus.full
          (if sta = .osOK then .noTimeout else .timeout) with
          ⟨ok, read⟩ | ⟨notOk, read | read | ⟨error, read⟩⟩
        · rw [read]
          simp [embedded, Operation.sends, Operation.receives, putOf, getOf,
            Answered.inl, ok]
        · rw [read]
          simp [embedded, Operation.sends, Operation.receives, putOf, getOf,
            Answered.inl, notOk]
        · rw [read]
          simp [embedded, Operation.sends, Operation.receives, putOf, getOf,
            Answered.inl, notOk]
        · rw [read]
          simp [embedded, Operation.sends, Operation.receives, putOf, getOf,
            Answered.inl, notOk]
  | get data =>
      obtain ⟨answers', outcome', ends', rfl, rfl⟩ := ends_of_inl ends
      obtain ⟨⟨sta, got⟩, rfl, rfl⟩ := ends_get ends'
      have written := truthful _ (List.mem_cons_self)
      by_cases ok : sta = .osOK
      · obtain ⟨data', rfl⟩ := Option.isSome_iff_exists.mp (written.mp ok)
        simp [getReading, embedded, Operation.sends, Operation.receives, putOf, getOf,
          Answered.inl, ok]
      · simp [getReading, embedded, Operation.sends, Operation.receives, putOf, getOf,
          Answered.inl, ok]
  | getFor data waitTime =>
      obtain ⟨answers', outcome', ends', rfl, rfl⟩ := ends_of_inl ends
      rcases ends_getUsec ends' with ⟨rfl, error, rfl⟩ | ⟨timeout, ⟨sta, got⟩, rfl, rfl⟩
      · exact ⟨rfl, rfl⟩
      · have written := truthful _ (List.mem_cons_self)
        rcases timedReading_cases timeout sta (strError "osMessageQueueGet" id)
          (MqStatus.empty, got.getD data)
          (if sta = .osOK then .noTimeout else .timeout, got.getD data) with
          ⟨ok, read⟩ | ⟨notOk, read | read | ⟨error, read⟩⟩
        · obtain ⟨data', rfl⟩ := Option.isSome_iff_exists.mp (written.mp ok)
          rw [read]
          simp [embedded, Operation.sends, Operation.receives, putOf, getOf,
            Answered.inl, ok]
        · rw [read]
          simp [embedded, Operation.sends, Operation.receives, putOf, getOf,
            Answered.inl, notOk]
        · rw [read]
          simp [embedded, Operation.sends, Operation.receives, putOf, getOf,
            Answered.inl, notOk]
        · rw [read]
          simp [embedded, Operation.sends, Operation.receives, putOf, getOf,
            Answered.inl, notOk]
  | size | capacity | empty | clear =>
      obtain ⟨answers', _, _, rfl, _⟩ := ends_of_inr ends
      simp [putOf, getOf, Answered.inr, Operation.sends, Operation.receives]

/-- A query has asked once, and returns what it was answered. -/
theorem body_queries (ends : Ends (body freq id op) answers outcome) :
    match op with
    | .size => ∃ count : Nat, answers = [⟨.inr (.inl (.osMessageQueueGetCount id)), count⟩] ∧
        outcome = .ok (.count count)
    | .empty => ∃ count : Nat, answers = [⟨.inr (.inl (.osMessageQueueGetCount id)), count⟩] ∧
        outcome = .ok (.bool (count = 0))
    | .capacity => ∃ count : Nat,
        answers = [⟨.inr (.inr (.osMessageQueueGetCapacity id)), count⟩] ∧
          outcome = .ok (.count count)
    | _ => True := by
  cases op with
  | size => exact ends_one_reading (fun (_ : Nat) => rfl) ends
  | empty => exact ends_one_reading (fun (_ : Nat) => rfl) ends
  | capacity => exact ends_one_reading (fun (_ : Nat) => rfl) ends
  | _ => trivial

end Body

end Operations

/-! ## Every run -/

/-- A journal that accounts for what all operations have reported.  Every accepted
message is received by one get, dropped by a `clear` or still in the queue.  No message
overtakes one of the same sender that was accepted before it and has at least its
priority, and a receiver gets messages in the order in which they left the queue.  `size`
and `empty` tell how many were queued when they were answered. -/
structure Delivered {Msg : Type} (room : Nat) (c : Threads Msg) (j : Journal Msg) : Prop where
  bounded : c.shared.messages.length ≤ room
  queued : c.shared.messages = j.queued.map Parcel.sent
  offered : ∀ parcel ∈ j.accepted, ∃ t op, c.ops[parcel.op]? = some (t, op) ∧
    op.offers parcel.op = some parcel
  sent : ∀ (i : Nat) (t : ThreadId) (op : Operation Msg) (outcome : Except SystemError (Value Msg)),
    c.ops[i]? = some (t, op) → c.outcome i = some outcome →
      ∀ parcel, (parcel ∈ j.accepted ∧ parcel.op = i) ↔ op.sends i outcome = some parcel
  received : ∀ (i : Nat) (t : ThreadId) (op : Operation Msg)
    (outcome : Except SystemError (Value Msg)), c.ops[i]? = some (t, op) →
      c.outcome i = some outcome → ∀ data,
        (∃ parcel, (parcel, some i) ∈ j.gone ∧ parcel.data = data) ↔
          op.receives outcome = some data
  sentOnce : (j.accepted.map Parcel.op).Nodup
  receivedOnce : (j.gone.filterMap Prod.snd).Nodup
  whereabouts : (j.gone.map Prod.fst ++ j.queued).Perm j.accepted
  dropped : ∀ parcel, (parcel, none) ∈ j.gone →
    ∃ (i : Nat) (t : ThreadId), c.ops[i]? = some (t, .clear)
  sendOrder : ∀ (parcel parcel' : Parcel Msg) (t : ThreadId) (op op' : Operation Msg)
    (get' : Option Nat), c.ops[parcel.op]? = some (t, op) → c.ops[parcel'.op]? = some (t, op') →
      parcel.op < parcel'.op → parcel'.priority ≤ parcel.priority → parcel ∈ j.accepted →
        (parcel', get') ∈ j.gone → ∃ get, [(parcel, get), (parcel', get')] <+ j.gone
  receiveOrder : ∀ (parcel parcel' : Parcel Msg) (t : ThreadId) (op op' : Operation Msg)
    (get get' : Nat), c.ops[get]? = some (t, op) → c.ops[get']? = some (t, op') →
      [(parcel, some get), (parcel', some get')] <+ j.gone → get < get'
  sizes : ∀ (i : Nat) (t : ThreadId) (outcome : Except SystemError (Value Msg)),
    c.ops[i]? = some (t, .size) → c.outcome i = some outcome →
      ∃ front, AnsweredAfter c i front ∧ outcome = .ok (.count (journal front).queued.length)
  emptiness : ∀ (i : Nat) (t : ThreadId) (outcome : Except SystemError (Value Msg)),
    c.ops[i]? = some (t, .empty) → c.outcome i = some outcome →
      ∃ front, AnsweredAfter c i front ∧ outcome = .ok (.bool ((journal front).queued.length = 0))
  capacities : ∀ (i : Nat) (t : ThreadId) (outcome : Except SystemError (Value Msg)),
    c.ops[i]? = some (t, .capacity) → c.outcome i = some outcome → outcome = .ok (.count room)

section Run
variable {Msg : Type}

theorem putOf_op {entry : Entry Msg} {parcel : Parcel Msg} (puts : putOf entry = some parcel) :
    parcel.op = entry.1 := by
  obtain ⟨i, t, ⟨call, reply⟩⟩ := entry
  rcases call with (⟨id, data, priority, timeout⟩ | ⟨id, timeout⟩) | call
  · simp only [putOf, Option.ite_none_right_eq_some, Option.some.injEq] at puts
    rw [← puts.2]
  · cases puts
  · cases puts

theorem getOf_op {entry : Entry Msg} {got : Nat × Msg} (gets : getOf entry = some got) :
    got.1 = entry.1 := by
  obtain ⟨i, t, ⟨call, reply⟩⟩ := entry
  rcases call with (⟨id, data, priority, timeout⟩ | ⟨id, timeout⟩) | call
  · cases gets
  · simp only [getOf, Option.ite_none_right_eq_some, Option.map_eq_some_iff] at gets
    obtain ⟨_, data, _, rfl⟩ := gets
    rfl
  · cases gets

theorem Journal.receipts_numbers (j : Journal Msg) :
    j.receipts.map Prod.fst = j.gone.filterMap Prod.snd := by
  rw [Journal.receipts, List.map_filterMap]
  congr 1
  funext ⟨parcel, get⟩
  cases get <;> rfl

theorem Tracks.truthful_answers {room : Nat} {c : Threads Msg}
    (tracks : Tracks room c.history c.shared) {i : Nat} : ∀ a ∈ c.answers i, Truthful a := by
  intro a member
  obtain ⟨t, inHistory⟩ := exists_of_mem_answers member
  exact tracks.truthful _ inHistory

variable [DecidableEq Msg] {freq : Int} {id : Handle} {room : Nat} {c : Threads Msg}

theorem Explained.answered_once (explained : Explained (service room) (body freq id) c) :
    (c.history.map Prod.fst).Nodup :=
  explained.answeredOnce body_asks

theorem Explained.mem_accepted (explained : Explained (service room) (body freq id) c)
    {i : Nat} {t : ThreadId} {op : Operation Msg} (found : c.ops[i]? = some (t, op))
    (parcel : Parcel Msg) :
    (parcel ∈ (journal c.history).accepted ∧ parcel.op = i) ↔
      ∃ a ∈ c.answers i, putOf (i, t, a) = some parcel := by
  rw [journal_accepted, List.mem_filterMap]
  constructor
  · rintro ⟨⟨⟨i', t', a⟩, inHistory, puts⟩, rfl⟩
    have isOp : parcel.op = i' := putOf_op puts
    subst isOp
    obtain ⟨op', found'⟩ := explained.started _ t' a inHistory
    rw [found] at found'
    cases found'
    exact ⟨a, mem_answers inHistory, puts⟩
  · rintro ⟨a, member, puts⟩
    exact ⟨⟨(i, t, a), (explained.mem_history_iff found).mpr member, puts⟩, putOf_op puts⟩

theorem Explained.mem_receipts (explained : Explained (service room) (body freq id) c)
    (tracks : Tracks room c.history c.shared) {i : Nat} {t : ThreadId} {op : Operation Msg}
    (found : c.ops[i]? = some (t, op)) (data : Msg) :
    (∃ parcel, (parcel, some i) ∈ (journal c.history).gone ∧ parcel.data = data) ↔
      ∃ a ∈ c.answers i, getOf (i, t, a) = some (i, data) := by
  have receipt : (∃ parcel, (parcel, some i) ∈ (journal c.history).gone ∧ parcel.data = data) ↔
      (i, data) ∈ (journal c.history).receipts := by
    simp only [Journal.receipts, Journal.receipt, List.mem_filterMap, Option.map_eq_some_iff,
      Prod.mk.injEq]
    constructor
    · rintro ⟨parcel, gone, isData⟩
      exact ⟨(parcel, some i), gone, i, rfl, rfl, isData⟩
    · rintro ⟨⟨parcel, get⟩, gone, i', isGet, rfl, isData⟩
      subst isGet
      exact ⟨parcel, gone, isData⟩
  rw [receipt, tracks.receipts, List.mem_filterMap]
  constructor
  · rintro ⟨⟨i', t', a⟩, inHistory, gets⟩
    have isOp : i = i' := getOf_op gets
    subst isOp
    obtain ⟨op', found'⟩ := explained.started i t' a inHistory
    rw [found] at found'
    cases found'
    exact ⟨a, mem_answers inHistory, gets⟩
  · rintro ⟨a, member, gets⟩
    exact ⟨(i, t, a), (explained.mem_history_iff found).mpr member, gets⟩

/-- A message was accepted after those that its sender had put before. -/
theorem Explained.accepted_before (explained : Explained (service room) (body freq id) c)
    (ordered : Ordered c) {parcel parcel' : Parcel Msg} {t : ThreadId} {op op' : Operation Msg}
    (found : c.ops[parcel.op]? = some (t, op)) (found' : c.ops[parcel'.op]? = some (t, op'))
    (earlier : parcel.op < parcel'.op) (accepted : parcel ∈ (journal c.history).accepted)
    (accepted' : parcel' ∈ (journal c.history).accepted) :
    [parcel, parcel'] <+ (journal c.history).accepted := by
  have inOrder := ordered.filterMap explained (fun _ _ puts => putOf_op puts)
  rw [← journal_accepted] at inOrder
  have ne : parcel ≠ parcel' := by
    rintro rfl
    exact lt_irrefl _ earlier
  rcases before_or ne accepted accepted' with before | after
  · exact before
  · have contrary := List.pairwise_iff_forall_sublist.mp inOrder after t op' op found' found
    omega

theorem Explained.received_before (explained : Explained (service room) (body freq id) c)
    (ordered : Ordered c) (tracks : Tracks room c.history c.shared)
    {parcel parcel' : Parcel Msg} {t : ThreadId} {op op' : Operation Msg} {get get' : Nat}
    (found : c.ops[get]? = some (t, op)) (found' : c.ops[get']? = some (t, op'))
    (inOrder : [(parcel, some get), (parcel', some get')] <+ (journal c.history).gone) :
    get < get' := by
  have receipts : [(get, parcel.data), (get', parcel'.data)] <+ (journal c.history).receipts :=
    inOrder.filterMap Journal.receipt
  have atMost := ordered.filterMap explained (fun _ _ gets => getOf_op gets)
  rw [← tracks.receipts] at atMost
  have once : ((journal c.history).receipts.map Prod.fst).Nodup := by
    rw [tracks.receipts]
    exact (Explained.answered_once explained).sublist
      (filterMap_numbers (fun _ _ gets => getOf_op gets) c.history)
  have apart : get ≠ get' := by
    have two := once.sublist (receipts.map Prod.fst)
    simpa using two
  have le := List.pairwise_iff_forall_sublist.mp atMost receipts t op op' found found'
  exact lt_of_le_of_ne le apart

/-- In every interleaving of any number of operations. -/
theorem run_delivers {freq : Int} {id : Handle} {room : Nat}
    {allowed : Threads Msg → Clients.Action (clientSig Msg) ThreadId (Operation Msg) → Prop}
    {acts : List (Clients.Action (clientSig Msg) ThreadId (Operation Msg))} {c : Threads Msg}
    (run : Run (system freq id room) allowed acts c) : ∃ j, Delivered room c j := by
  have explained := run_explained run
  have ordered : Ordered c := run_ordered run
  obtain ⟨tracks, counted⟩ : Tracks room c.history c.shared ∧ Counted room c.history := by
    refine run_tracks run (fun history s => Tracks room history s ∧ Counted room history)
      ⟨.initial room, .initial room⟩ ?_
    intro history s i t call reply s' ⟨tracks, counted⟩ answered
    exact ⟨tracks.step answered, counted.append (tracks.counts (t := t) answered)⟩
  have orderly := journal_orderly c.history
  have numbers := Explained.answered_once explained
  have sentOnce : ((journal c.history).accepted.map Parcel.op).Nodup := by
    rw [journal_accepted]
    exact numbers.sublist (filterMap_numbers (fun _ _ puts => putOf_op puts) c.history)
  have acceptedOnce : (journal c.history).accepted.Nodup := .of_map Parcel.op sentOnce
  refine ⟨journal c.history, ?_⟩
  constructor
  · exact tracks.bounded
  · exact tracks.queued.symm
  · intro parcel member
    rw [journal_accepted, List.mem_filterMap] at member
    obtain ⟨⟨i, t, a⟩, inHistory, puts⟩ := member
    obtain ⟨op, found⟩ := explained.started i t a inHistory
    obtain ⟨rest, follows⟩ := explained.follows found
    have isOp : parcel.op = i := putOf_op puts
    refine ⟨t, op, isOp ▸ found, ?_⟩
    rw [isOp]
    exact (body_follows follows (mem_answers inHistory)).1 parcel puts
  · intro i t op outcome found ended parcel
    have ends := explained.ends found ended
    have reports := (@body_ends Msg freq id op i t _ _ ends tracks.truthful_answers).1
    rw [Explained.mem_accepted explained found, ← List.mem_filterMap, reports, Option.mem_toList]
  · intro i t op outcome found ended data
    have ends := explained.ends found ended
    have reports := (@body_ends Msg freq id op i t _ _ ends tracks.truthful_answers).2
    rw [Explained.mem_receipts explained tracks found, ← List.mem_filterMap, reports,
      Option.mem_toList, Option.map_eq_some_iff]
    simp
  · exact sentOnce
  · rw [← Journal.receipts_numbers, tracks.receipts]
    exact numbers.sublist (filterMap_numbers (fun _ _ gets => getOf_op gets) c.history)
  · exact orderly.perm
  · intro parcel member
    obtain ⟨⟨i, t, a⟩, inHistory, resets⟩ := journal_dropped c.history parcel member
    obtain ⟨op, found⟩ := explained.started i t a inHistory
    obtain ⟨rest, follows⟩ := explained.follows found
    have isClear := (body_follows follows (mem_answers inHistory)).2 resets
    exact ⟨i, t, isClear ▸ found⟩
  · intro parcel parcel' t op op' get' found found' earlier atLeast accepted gone
    have gone' : parcel' ∈ (journal c.history).gone.map Prod.fst := List.mem_map_of_mem gone
    have accepted' := orderly.perm.mem_iff.mp (List.mem_append_left _ gone')
    have before := Explained.accepted_before explained ordered found found' earlier accepted accepted'
    have left := orderly.departed_before acceptedOnce before (UInt8.le_iff_toNat_le.mp atLeast) gone'
    have goneOnce := (List.nodup_append'.mp (orderly.perm.nodup_iff.mpr acceptedOnce)).1
    obtain ⟨⟨_, get⟩, rfl, inGone⟩ := before_of_map goneOnce left gone
    exact ⟨get, inGone⟩
  · intro parcel parcel' t op op' get get' found found' inOrder
    exact Explained.received_before explained ordered tracks found found' inOrder
  · intro i t outcome found ended
    obtain ⟨count, asked, returned⟩ := body_queries (explained.ends found ended)
    obtain ⟨front, after, counts⟩ := counted.answered (asked ▸ List.mem_singleton_self _)
    exact ⟨front, after, counts ▸ returned⟩
  · intro i t outcome found ended
    obtain ⟨count, asked, returned⟩ := body_queries (explained.ends found ended)
    obtain ⟨front, after, counts⟩ := counted.answered (asked ▸ List.mem_singleton_self _)
    exact ⟨front, after, counts ▸ returned⟩
  · intro i t outcome found ended
    obtain ⟨count, asked, returned⟩ := body_queries (explained.ends found ended)
    obtain ⟨front, after, counts⟩ := counted.answered (asked ▸ List.mem_singleton_self _)
    exact counts ▸ returned

end Run

def replying (sta : OsStatus) (got : Option Nat) :
    (call : (clientSig Nat).Call) → (clientSig Nat).Reply call
  | .inl (.osMessageQueuePut _ _ _ _) => sta
  | .inl (.osMessageQueueGet _ _) => (sta, got)
  | .inr (.inl (.osMessageQueueGetCount _)) => (0 : Nat)
  | .inr (.inl (.osMessageQueueReset _)) => sta
  | .inr (.inr (.osMessageQueueGetCapacity _)) => (0 : Nat)

/-- Thread 0 sends three messages, the last of them urgent, through a queue for two;
threads 1 and 2 receive. -/
def urgent : List (Clients.Action (clientSig Nat) ThreadId (Operation Nat)) :=
  [.start 1 (.getFor 0 (.microseconds 9000)), .start 0 (.put 10 1), .next 0 (replying .osOK none),
    .finish 0, .start 0 (.put 20 1), .next 0 (replying .osOK none), .finish 0,
    .start 0 (.put 30 5), .next 1 (replying .osOK (some 10)), .next 0 (replying .osOK none),
    .start 2 (.get 0), .next 2 (replying .osOK (some 30)), .finish 1, .finish 2, .finish 0]

theorem urgent_delivers :
    ∃ c j, Run (system 1000 1 2) Unrestricted urgent c ∧ Delivered 2 c j := by
  have run : Run (system 1000 1 2) Unrestricted _ _ := Run.replayed urgent rfl
  obtain ⟨j, delivered⟩ := run_delivers run
  exact ⟨_, j, run, delivered⟩

end CmsisCpp.MessageQueue.Delivery
