import CmsisCpp.FlagBoard
import CmsisCpp.ThreadFlag

/-! # Threads on their flags

Source: `include/ThreadFlag.h`, `src/ThreadFlag.cpp`.  Any number of threads set the
flags of each other and of themselves, and clear, read and wait for their own. -/
set_option autoImplicit false

namespace CmsisCpp.ThreadFlag

open CallScript ActionSystem Clients FlagBoard

inductive OwnCall
  | osThreadFlagsSet (id : Handle) (mask : UInt32)
  | osThreadGetId
  | osThreadFlagsGet
  | osThreadFlagsClear (mask : UInt32)
  deriving DecidableEq, Repr

abbrev ownSig : Signature where
  Call := OwnCall
  Reply
    | .osThreadFlagsSet _ _ => UInt32
    | .osThreadGetId => Handle
    | .osThreadFlagsGet => UInt32
    | .osThreadFlagsClear _ => UInt32

/-- The call of both `set`s; its exceptions are of `os_category`. -/
def setFlags (id : Handle) (mask : UInt32) : Script ownSig SystemError UInt32 :=
  .ask (.osThreadFlagsSet id mask) fun (flags : UInt32) =>
    if toInt32 flags < 0 then .throw ⟨toInt32 flags, .os, strError "osThreadFlagsSet" id⟩
    else .done flags

/-- `thread_flags::set`; the thread is given by its `native_handle()`. -/
def setThread (id : Handle) (mask : UInt32) : Script ownSig SystemError UInt32 := setFlags id mask

def set (mask : UInt32) : Script ownSig SystemError UInt32 :=
  .ask .osThreadGetId fun (tid : Handle) =>
    if tid = 0 then .throw (osFailure .osErrorResource "osThreadGetId") else setFlags tid mask

def get : Script ownSig SystemError UInt32 :=
  .ask .osThreadFlagsGet fun (flags : UInt32) => readFlags flags "osThreadFlagsGet"

def clear (mask : UInt32) : Script ownSig SystemError UInt32 :=
  .ask (.osThreadFlagsClear mask) fun (flags : UInt32) => readFlags flags "osThreadFlagsClear"

def waitFor (freq : Int) (mask : UInt32) (flg : WaitFlag) (relTime : Duration) :
    Script threadFlagSig SystemError (FlagStatus × UInt32) :=
  waitForUsec freq mask flg relTime.toUsec

/-- `flags::wait_until`, where `Clock::now()` answers `now`; once the time is over it
leaves the caller's `flagValue` alone. -/
def waitUntil (freq : Int) (mask : UInt32) (flg : WaitFlag) (absTime now : Duration)
    (flagValue : UInt32) : Script threadFlagSig SystemError (FlagStatus × UInt32) :=
  if (absTime.sub now).isNegative then .done (.timeout, flagValue)
  else waitFor freq mask flg (absTime.sub now)

/-! ## The threads -/

abbrev ThreadId := Handle

abbrev clientSig : Signature := threadFlagSig.sum ownSig

/-- The overloads without a `wait_flag` pass `any`. -/
inductive Operation
  | setThread (id : Handle) (mask : UInt32)
  | set (mask : UInt32)
  | get
  | clear (mask : UInt32)
  | wait (mask : UInt32) (flg : WaitFlag)
  | waitFor (mask : UInt32) (flg : WaitFlag) (relTime : Duration)
  | waitUntil (mask : UInt32) (flg : WaitFlag) (absTime now : Duration) (flagValue : UInt32)

inductive Value
  | mask (flags : UInt32)
  | timed (status : FlagStatus) (flagValue : UInt32)
  deriving DecidableEq, Repr

def Value.ofTimed (ended : FlagStatus × UInt32) : Value := .timed ended.1 ended.2

def body (freq : Int) : Operation → Script clientSig SystemError Value
  | .setThread id mask => (ThreadFlag.setThread id mask).inr (fun e => e) .mask
  | .set mask => (ThreadFlag.set mask).inr (fun e => e) .mask
  | .get => ThreadFlag.get.inr (fun e => e) .mask
  | .clear mask => (ThreadFlag.clear mask).inr (fun e => e) .mask
  | .wait mask flg => (ThreadFlag.wait mask flg).inl (fun e => e) .mask
  | .waitFor mask flg relTime => (ThreadFlag.waitFor freq mask flg relTime).inl (fun e => e) .ofTimed
  | .waitUntil mask flg absTime now flagValue =>
      (ThreadFlag.waitUntil freq mask flg absTime now flagValue).inl (fun e => e) .ofTimed

/-- The calls to the kernel, as calls on its words; a thread has the word of its
identifier. -/
def flagCall (t : ThreadId) : Answered clientSig → Option (FlagCall × UInt32)
  | ⟨.inl (.osThreadFlagsWait mask option timeout), (flags : UInt32)⟩ =>
      some (.wait t mask option timeout, flags)
  | ⟨.inr (.osThreadFlagsSet id mask), (flags : UInt32)⟩ => some (.set id mask, flags)
  | ⟨.inr .osThreadGetId, _⟩ => none
  | ⟨.inr .osThreadFlagsGet, (flags : UInt32)⟩ => some (.get t, flags)
  | ⟨.inr (.osThreadFlagsClear mask), (flags : UInt32)⟩ => some (.clear t mask, flags)

def Truthful (t : ThreadId) : Answered clientSig → Prop
  | ⟨.inr .osThreadGetId, (id : Handle)⟩ => id = t
  | _ => True

instance (t : ThreadId) : (a : Answered clientSig) → Decidable (Truthful t a)
  | ⟨.inr .osThreadGetId, (id : Handle)⟩ => inferInstanceAs (Decidable (id = t))
  | ⟨.inl _, _⟩ | ⟨.inr (.osThreadFlagsSet _ _), _⟩ | ⟨.inr .osThreadFlagsGet, _⟩
  | ⟨.inr (.osThreadFlagsClear _), _⟩ => .isTrue trivial

abbrev Threads := Config clientSig ThreadId Board Operation SystemError Value

def kernel (initial : Board) : Service clientSig ThreadId Board :=
  FlagBoard.service flagCall Truthful initial

def threads (freq : Int) (initial : Board) :
    ActionSystem Threads (Clients.Action clientSig ThreadId Operation) :=
  Clients.system (kernel initial) (body freq)

def report (t : ThreadId) : Operation → Except SystemError Value → Option Told
  | .setThread id _, .ok (.mask flags) => some (.seen id flags)
  | .set _, .ok (.mask flags) => some (.seen t flags)
  | .get, .ok (.mask flags) => some (.seen t flags)
  | .clear _, .ok (.mask flags) => some (.seen t flags)
  | .wait mask flg, .ok (.mask flags) => some (.waited t mask flg flags)
  | .waitFor mask flg _, .ok (.timed .noTimeout flags) => some (.waited t mask flg flags)
  | .waitUntil mask flg _ _ _, .ok (.timed .noTimeout flags) => some (.waited t mask flg flags)
  | _, _ => none

def raising (t : ThreadId) : Operation → Option (Handle × UInt32)
  | .setThread id mask => some (id, mask)
  | .set mask => some (t, mask)
  | _ => none

def lowering (t : ThreadId) : Operation → Option (Handle × UInt32)
  | .setThread _ _ | .set _ | .get => none
  | .clear mask => some (t, mask)
  | .wait mask flg => waitLowers t mask flg
  | .waitFor mask flg _ => waitLowers t mask flg
  | .waitUntil mask flg _ _ _ => waitLowers t mask flg

def reporting : Reporting ThreadId Operation SystemError Value where
  report := report
  raising := raising
  lowering := lowering

/-! ## What the operations have been answered -/

section Readings
variable {freq : Int} {id : Handle} {mask : UInt32} {flg : WaitFlag}

theorem ends_wait {answers : List (Answered threadFlagSig)} {outcome : Except SystemError UInt32}
    (ends : Ends (wait mask flg) answers outcome) :
    ∃ flags : UInt32, answers = [⟨.osThreadFlagsWait mask (waitOption flg) osWaitForever, flags⟩] ∧
      outcome = flagsReading "osThreadFlagsWait" flags :=
  @ends_one_reading threadFlagSig _ _ _ (flagsReading _) _ _ readFlags_eq ends

theorem ends_waitFor {answers : List (Answered threadFlagSig)} {relTime : Duration}
    {outcome : Except SystemError (FlagStatus × UInt32)}
    (ends : Ends (waitFor freq mask flg relTime) answers outcome) :
    (∃ error, outcome = .error error) ∨ ∃ flags : UInt32,
      answers = [⟨.osThreadFlagsWait mask (waitOption flg) (timeoutTicks freq relTime.toUsec),
        flags⟩] ∧
      outcome = timedFlagsReading (timeoutTicks freq relTime.toUsec) "osThreadFlagsWait" flags := by
  rcases lt_or_ge relTime.toUsec 0 with negative | nonneg
  · rw [waitFor, waitForUsec, withTimeout_negative negative] at ends
    exact .inl ⟨_, (ends_throw ends).2⟩
  · rw [waitFor, waitForUsec, withTimeout_nonneg nonneg] at ends
    exact .inr (@ends_one_reading threadFlagSig _ _ _ (timedFlagsReading _ _) _ _
      (readTimedFlags_eq _) ends)

theorem ends_get {answers : List (Answered ownSig)} {outcome : Except SystemError UInt32}
    (ends : Ends get answers outcome) :
    ∃ flags : UInt32, answers = [⟨.osThreadFlagsGet, flags⟩] ∧
      outcome = flagsReading "osThreadFlagsGet" flags :=
  @ends_one_reading ownSig _ _ _ (flagsReading _) _ _ readFlags_eq ends

theorem ends_clear {answers : List (Answered ownSig)} {outcome : Except SystemError UInt32}
    (ends : Ends (clear mask) answers outcome) :
    ∃ flags : UInt32, answers = [⟨.osThreadFlagsClear mask, flags⟩] ∧
      outcome = flagsReading "osThreadFlagsClear" flags :=
  @ends_one_reading ownSig _ _ _ (flagsReading _) _ _ readFlags_eq ends

theorem follows_wait {answers : List (Answered threadFlagSig)}
    {rest : Script threadFlagSig SystemError UInt32} (follows : Follows (wait mask flg) answers rest) :
    answers = [] ∨ ∃ flags : UInt32,
      answers = [⟨.osThreadFlagsWait mask (waitOption flg) osWaitForever, flags⟩] :=
  @follows_one_reading threadFlagSig _ _ _ (flagsReading _) _ _ readFlags_eq follows

theorem follows_waitFor {answers : List (Answered threadFlagSig)} {relTime : Duration}
    {rest : Script threadFlagSig SystemError (FlagStatus × UInt32)}
    (follows : Follows (waitFor freq mask flg relTime) answers rest) :
    answers = [] ∨ ∃ flags : UInt32,
      answers = [⟨.osThreadFlagsWait mask (waitOption flg) (timeoutTicks freq relTime.toUsec),
        flags⟩] := by
  rcases lt_or_ge relTime.toUsec 0 with negative | nonneg
  · rw [waitFor, waitForUsec, withTimeout_negative negative] at follows
    exact .inl (follows_throw follows).1
  · rw [waitFor, waitForUsec, withTimeout_nonneg nonneg] at follows
    exact @follows_one_reading threadFlagSig _ _ _ (timedFlagsReading _ _) _ _ (readTimedFlags_eq _)
      follows

theorem follows_get {answers : List (Answered ownSig)} {rest : Script ownSig SystemError UInt32}
    (follows : Follows get answers rest) :
    answers = [] ∨ ∃ flags : UInt32, answers = [⟨.osThreadFlagsGet, flags⟩] :=
  @follows_one_reading ownSig _ _ _ (flagsReading _) _ _ readFlags_eq follows

theorem follows_clear {answers : List (Answered ownSig)} {rest : Script ownSig SystemError UInt32}
    (follows : Follows (clear mask) answers rest) :
    answers = [] ∨ ∃ flags : UInt32, answers = [⟨.osThreadFlagsClear mask, flags⟩] :=
  @follows_one_reading ownSig _ _ _ (flagsReading _) _ _ readFlags_eq follows

theorem ends_setFlags {answers : List (Answered ownSig)} {flags : UInt32}
    (ends : Ends (setFlags id mask) answers (.ok flags)) :
    answers = [⟨.osThreadFlagsSet id mask, flags⟩] ∧ failed flags = false := by
  obtain ⟨(reply : UInt32), later, rfl, after⟩ := ends_ask ends
  split at after
  · obtain ⟨_, same⟩ := ends_throw after
    cases same
  · rename_i valid
    obtain ⟨rfl, same⟩ := ends_done after
    cases same
    rw [toInt32_neg_iff_failed, Bool.not_eq_true] at valid
    exact ⟨rfl, valid⟩

theorem ends_set {answers : List (Answered ownSig)} {flags : UInt32} {t : ThreadId}
    (ends : Ends (set mask) answers (.ok flags))
    (truthful : ∀ a ∈ answers.map Answered.inr, Truthful t a) :
    ⟨.osThreadFlagsSet t mask, flags⟩ ∈ answers ∧ failed flags = false := by
  obtain ⟨(tid : Handle), later, rfl, after⟩ := ends_ask ends
  have isT : tid = t := truthful _ List.mem_cons_self
  subst isT
  split at after
  · obtain ⟨_, same⟩ := ends_throw after
    cases same
  · obtain ⟨rfl, valid⟩ := ends_setFlags after
    exact ⟨List.mem_cons_of_mem _ List.mem_cons_self, valid⟩

theorem follows_setFlags {answers : List (Answered ownSig)} {rest : Script ownSig SystemError UInt32}
    (follows : Follows (setFlags id mask) answers rest) :
    answers = [] ∨ ∃ flags : UInt32, answers = [⟨.osThreadFlagsSet id mask, flags⟩] ∧
      ∀ error, rest = .throw error → failed flags = true := by
  rcases follows_ask follows with ⟨none, _⟩ | ⟨(flags : UInt32), later, same, after⟩
  · exact .inl none
  · refine .inr ⟨flags, ?_⟩
    split at after
    · rename_i negative
      obtain ⟨rfl, _⟩ := follows_throw after
      exact ⟨same, fun _ _ => (toInt32_neg_iff_failed flags).mp negative⟩
    · obtain ⟨rfl, rfl⟩ := follows_done after
      refine ⟨same, ?_⟩
      intro error isThrow
      cases isThrow

end Readings

section Reports
variable {freq : Int} {t : ThreadId} {op : Operation} {answers : List (Answered clientSig)}
  {key : Handle} {bit : Nat} {mask : UInt32}

/-- What a set has raised so far, and once it has failed. -/
structure Raised (t : ThreadId) (key : Handle) (bit : Nat) (answers : List (Answered ownSig))
    (rest : Script ownSig SystemError UInt32) (id : Handle) (mask : UInt32) : Prop where
  atMost : (answers.map Answered.inr).countP (fun a => raisedBy flagCall key bit (t, a)) ≤
    (concerns key bit (some (id, mask))).toNat
  failed : ∀ error, rest = .throw error →
    (answers.map Answered.inr).countP (fun a => raisedBy flagCall key bit (t, a)) = 0

theorem setFlags_raised {id : Handle} {answers : List (Answered ownSig)}
    {rest : Script ownSig SystemError UInt32} (follows : Follows (setFlags id mask) answers rest) :
    Raised t key bit answers rest id mask := by
  rcases follows_setFlags follows with rfl | ⟨flags, rfl, failed⟩
  · exact ⟨Nat.zero_le _, fun _ _ => rfl⟩
  · constructor
    · by_cases same : id = key <;> cases isSet : hasFlag mask bit <;>
        simp [raisedBy, flagCall, Answered.inr, FlagCall.raises, concerns, same, isSet]
      split <;> omega
    · intro error isThrow
      simp [raisedBy, flagCall, Answered.inr, FlagCall.raises, failed error isThrow]

theorem set_raised {answers : List (Answered ownSig)} {rest : Script ownSig SystemError UInt32}
    (follows : Follows (set mask) answers rest)
    (truthful : ∀ a ∈ answers.map Answered.inr, Truthful t a) :
    Raised t key bit answers rest t mask := by
  rcases follows_ask follows with ⟨rfl, _⟩ | ⟨(tid : Handle), later, rfl, after⟩
  · exact ⟨Nat.zero_le _, fun _ _ => rfl⟩
  · have isT : tid = t := truthful _ List.mem_cons_self
    subst isT
    split at after
    · obtain ⟨rfl, _⟩ := follows_throw after
      exact ⟨Nat.zero_le _, fun _ _ => rfl⟩
    · have raised : Raised tid key bit later rest tid mask := setFlags_raised after
      exact ⟨raised.atMost, raised.failed⟩

theorem setFlags_lowered {id : Handle} {answers : List (Answered ownSig)}
    {rest : Script ownSig SystemError UInt32} (follows : Follows (setFlags id mask) answers rest) :
    ∀ a ∈ answers.map Answered.inr, loweredBy flagCall key bit (t, a) = false := by
  intro a member
  rcases follows_setFlags follows with rfl | ⟨flags, rfl, _⟩
  · contradiction
  · cases List.mem_singleton.mp member
    rfl

/-- The answers to a set are none, the identifier of the thread, or that of a set. -/
theorem set_lowered {answers : List (Answered ownSig)} {rest : Script ownSig SystemError UInt32}
    (follows : Follows (set mask) answers rest) :
    ∀ a ∈ answers.map Answered.inr, loweredBy flagCall key bit (t, a) = false := by
  intro a member
  rcases follows_ask follows with ⟨rfl, _⟩ | ⟨(tid : Handle), later, rfl, after⟩
  · contradiction
  · rcases List.mem_cons.mp member with rfl | inLater
    · rfl
    · split at after
      · rw [(follows_throw after).1] at inLater
        contradiction
      · exact setFlags_lowered after a inLater

theorem waits_not_raised (answers : List (Answered threadFlagSig)) :
    (answers.map Answered.inl).countP (fun a => raisedBy flagCall key bit (t, a)) = 0 := by
  apply List.countP_eq_zero.mpr
  intro a member
  obtain ⟨⟨⟨mask, option, timeout⟩, flags⟩, _, rfl⟩ := List.mem_map.mp member
  exact Bool.false_ne_true

theorem body_not_raised {rest : Script clientSig SystemError Value}
    (follows : Follows (body freq op) answers rest) (noSet : raising t op = none) :
    answers.countP (fun a => raisedBy flagCall key bit (t, a)) = 0 := by
  cases op with
  | setThread id mask => cases noSet
  | set mask => cases noSet
  | get =>
      obtain ⟨answers', _, follows', rfl, _⟩ := follows_of_inr follows
      rcases follows_get follows' with rfl | ⟨flags, rfl⟩ <;> rfl
  | clear mask =>
      obtain ⟨answers', _, follows', rfl, _⟩ := follows_of_inr follows
      rcases follows_clear follows' with rfl | ⟨flags, rfl⟩ <;> rfl
  | wait mask flg | waitFor mask flg relTime | waitUntil mask flg absTime now flagValue =>
      obtain ⟨answers', _, _, rfl, _⟩ := follows_of_inl follows
      exact waits_not_raised answers'

theorem timed_answered {flg : WaitFlag} {relTime : Duration}
    {answers : List (Answered threadFlagSig)} {outcome : Except SystemError (FlagStatus × UInt32)}
    {flags : UInt32} (ends : Ends (waitFor freq mask flg relTime) answers outcome)
    (reported : embedded (fun e => e) Value.ofTimed outcome = .ok (.timed .noTimeout flags)) :
    ∃ a ∈ answers.map Answered.inl, ∃ call reply, flagCall t a = some (call, reply) ∧
      (Told.waited t mask flg flags).By call reply := by
  rcases ends_waitFor ends with ⟨error, rfl⟩ | ⟨reply, rfl, rfl⟩
  · cases reported
  · have read : timedFlagsReading (timeoutTicks freq relTime.toUsec) "osThreadFlagsWait" reply =
        .ok (.noTimeout, flags) := by
      cases found : timedFlagsReading (timeoutTicks freq relTime.toUsec) "osThreadFlagsWait"
          reply with
      | error error =>
          rw [found] at reported
          cases reported
      | ok ended =>
          rw [found] at reported
          obtain ⟨status, flagValue⟩ := ended
          cases reported
          rfl
    obtain ⟨rfl, valid⟩ := timedFlagsReading_noTimeout read
    exact ⟨_, List.mem_cons_self, _, _, rfl, Told.by_waited valid⟩

theorem body_answered {outcome : Except SystemError Value} {told : Told}
    (ends : Ends (body freq op) answers outcome) (truthful : ∀ a ∈ answers, Truthful t a)
    (reported : report t op outcome = some told) :
    ∃ a ∈ answers, ∃ call reply, flagCall t a = some (call, reply) ∧ told.By call reply := by
  cases op with
  | setThread id mask =>
      obtain ⟨answers', outcome', ends', rfl, rfl⟩ := ends_of_inr ends
      cases outcome' with
      | error error => cases reported
      | ok value =>
          cases reported
          obtain ⟨rfl, valid⟩ := ends_setFlags ends'
          exact ⟨_, List.mem_cons_self, .set id mask, value, rfl, Told.by_seen rfl valid⟩
  | set mask =>
      obtain ⟨answers', outcome', ends', rfl, rfl⟩ := ends_of_inr ends
      cases outcome' with
      | error error => cases reported
      | ok value =>
          cases reported
          obtain ⟨member, valid⟩ := ends_set ends' truthful
          exact ⟨_, List.mem_map_of_mem member, .set t mask, value, rfl, Told.by_seen rfl valid⟩
  | get =>
      obtain ⟨answers', outcome', ends', rfl, rfl⟩ := ends_of_inr ends
      obtain ⟨reply, rfl, read⟩ := ends_get ends'
      cases outcome' with
      | error error => cases reported
      | ok value =>
          cases reported
          obtain ⟨rfl, valid⟩ := flagsReading_ok read.symm
          exact ⟨_, List.mem_cons_self, .get t, value, rfl, Told.by_seen rfl valid⟩
  | clear mask =>
      obtain ⟨answers', outcome', ends', rfl, rfl⟩ := ends_of_inr ends
      obtain ⟨reply, rfl, read⟩ := ends_clear ends'
      cases outcome' with
      | error error => cases reported
      | ok value =>
          cases reported
          obtain ⟨rfl, valid⟩ := flagsReading_ok read.symm
          exact ⟨_, List.mem_cons_self, .clear t mask, value, rfl, Told.by_seen rfl valid⟩
  | wait mask flg =>
      obtain ⟨answers', outcome', ends', rfl, rfl⟩ := ends_of_inl ends
      obtain ⟨reply, rfl, read⟩ := ends_wait ends'
      cases outcome' with
      | error error => cases reported
      | ok value =>
          cases reported
          obtain ⟨rfl, valid⟩ := flagsReading_ok read.symm
          exact ⟨_, List.mem_cons_self, _, _, rfl, Told.by_waited valid⟩
  | waitFor mask flg relTime =>
      obtain ⟨answers', outcome', ends', rfl, rfl⟩ := ends_of_inl ends
      unfold report at reported
      split at reported <;> try contradiction
      rename_i same isTimed
      cases same
      cases reported
      exact timed_answered ends' isTimed
  | waitUntil mask flg absTime now flagValue =>
      obtain ⟨answers', outcome', ends', rfl, rfl⟩ := ends_of_inl ends
      unfold report at reported
      split at reported <;> try contradiction
      rename_i same isTimed
      cases same
      cases reported
      rw [waitUntil] at ends'
      split at ends'
      · obtain ⟨_, rfl⟩ := ends_done ends'
        cases isTimed
      · exact timed_answered ends' isTimed

theorem waitAnswers_lowered {flg : WaitFlag} {timeout : Int} {answers : List (Answered threadFlagSig)}
    (asked : answers = [] ∨
      ∃ flags : UInt32, answers = [⟨.osThreadFlagsWait mask (waitOption flg) timeout, flags⟩])
    (keeps : concerns key bit (waitLowers t mask flg) = false) :
    ∀ a ∈ answers.map Answered.inl, loweredBy flagCall key bit (t, a) = false := by
  intro a member
  rcases asked with rfl | ⟨flags, rfl⟩
  · contradiction
  · cases List.mem_singleton.mp member
    exact lowers_wait timeout keeps

theorem body_lowered {rest : Script clientSig SystemError Value}
    (follows : Follows (body freq op) answers rest)
    (keeps : concerns key bit (lowering t op) = false) :
    ∀ a ∈ answers, loweredBy flagCall key bit (t, a) = false := by
  cases op with
  | setThread id mask =>
      obtain ⟨answers', _, follows', rfl, _⟩ := follows_of_inr follows
      exact setFlags_lowered follows'
  | set mask =>
      obtain ⟨answers', _, follows', rfl, _⟩ := follows_of_inr follows
      exact set_lowered follows'
  | get =>
      obtain ⟨answers', _, follows', rfl, _⟩ := follows_of_inr follows
      intro a member
      rcases follows_get follows' with rfl | ⟨flags, rfl⟩
      · contradiction
      · cases List.mem_singleton.mp member
        rfl
  | clear mask =>
      obtain ⟨answers', _, follows', rfl, _⟩ := follows_of_inr follows
      intro a member
      rcases follows_clear follows' with rfl | ⟨flags, rfl⟩
      · contradiction
      · cases List.mem_singleton.mp member
        exact lowers_clear keeps
  | wait mask flg =>
      obtain ⟨answers', _, follows', rfl, _⟩ := follows_of_inl follows
      exact waitAnswers_lowered (follows_wait follows') keeps
  | waitFor mask flg relTime =>
      obtain ⟨answers', _, follows', rfl, _⟩ := follows_of_inl follows
      exact waitAnswers_lowered (follows_waitFor follows') keeps
  | waitUntil mask flg absTime now flagValue =>
      obtain ⟨answers', _, follows', rfl, _⟩ := follows_of_inl follows
      rw [waitUntil] at follows'
      split at follows'
      · obtain ⟨rfl, _⟩ := follows_done follows'
        intro a member
        contradiction
      · exact waitAnswers_lowered (follows_waitFor follows') keeps

theorem setFlags_raises {id : Handle} {flags : UInt32} (valid : failed flags = false)
    (isSet : concerns key bit (some (id, mask)) = true) :
    raisedBy flagCall key bit (t, Answered.inr ⟨.osThreadFlagsSet id mask, flags⟩) = true := by
  simpa [concerns, raisedBy, flagCall, Answered.inr, FlagCall.raises, valid] using isSet

theorem reports (freq : Int) : Reports (body freq) flagCall Truthful reporting where
  answered t op answers outcome told ends truthful reported := body_answered ends truthful reported
  raised t op answers rest key bit follows truthful := by
    cases op with
    | setThread id mask =>
        obtain ⟨answers', _, follows', rfl, _⟩ := follows_of_inr follows
        exact (setFlags_raised follows').atMost
    | set mask =>
        obtain ⟨answers', _, follows', rfl, _⟩ := follows_of_inr follows
        exact (set_raised follows' truthful).atMost
    | get | clear _ | wait _ _ | waitFor _ _ _ | waitUntil _ _ _ _ _ =>
        rw [body_not_raised follows rfl]
        exact Nat.zero_le _
  failedSet t op answers error key bit ends truthful := by
    cases op with
    | setThread id mask =>
        obtain ⟨answers', outcome', ends', rfl, isError⟩ := ends_of_inr ends
        cases outcome' with
        | ok value => cases isError
        | error error' => exact (setFlags_raised ends').failed error' rfl
    | set mask =>
        obtain ⟨answers', outcome', ends', rfl, isError⟩ := ends_of_inr ends
        cases outcome' with
        | ok value => cases isError
        | error error' => exact (set_raised ends' truthful).failed error' rfl
    | get | clear _ | wait _ _ | waitFor _ _ _ | waitUntil _ _ _ _ _ => exact body_not_raised ends rfl
  completedSet t op answers value key bit ends truthful isSet := by
    cases op with
    | setThread id mask =>
        obtain ⟨answers', outcome', ends', rfl, isValue⟩ := ends_of_inr ends
        cases outcome' with
        | error error => cases isValue
        | ok flags =>
            obtain ⟨rfl, valid⟩ := ends_setFlags ends'
            exact ⟨_, List.mem_cons_self, setFlags_raises valid isSet⟩
    | set mask =>
        obtain ⟨answers', outcome', ends', rfl, isValue⟩ := ends_of_inr ends
        cases outcome' with
        | error error => cases isValue
        | ok flags =>
            obtain ⟨member, valid⟩ := ends_set ends' truthful
            exact ⟨_, List.mem_map_of_mem member, setFlags_raises valid isSet⟩
    | get | clear _ | wait _ _ | waitFor _ _ _ | waitUntil _ _ _ _ _ => cases isSet
  lowered t op answers rest key bit follows keeps := body_lowered follows keeps

end Reports

/-- In every interleaving of any number of threads. -/
theorem run_threadFlagsConserved {freq : Int} {initial : Board}
    {allowed : Threads → Clients.Action clientSig ThreadId Operation → Prop}
    {acts : List (Clients.Action clientSig ThreadId Operation)} {c : Threads}
    (run : Run (threads freq initial) allowed acts c) : Conserved initial reporting c :=
  (reports freq).conserved (service_onBoard initial) (run_explained run)

def replying (tid : Handle) (flags : UInt32) : (call : clientSig.Call) → clientSig.Reply call
  | .inl (.osThreadFlagsWait _ _ _) => flags
  | .inr (.osThreadFlagsSet _ _) => flags
  | .inr .osThreadGetId => tid
  | .inr .osThreadFlagsGet => flags
  | .inr (.osThreadFlagsClear _) => flags

/-- Thread 2 sets a flag of thread 1 while that waits for it and another of its own. -/
def signalled : List (Clients.Action clientSig ThreadId Operation) :=
  [.start 1 (.set 1), .next 1 (replying 1 0), .next 1 (replying 1 1), .finish 1,
    .start 1 (.wait 3 .all), .start 2 (.setThread 1 2), .next 2 (replying 2 3),
    .next 1 (replying 1 3), .finish 1, .finish 2, .start 1 .get, .next 1 (replying 1 0), .finish 1]

theorem signalled_threadFlagsConserved :
    ∃ c, Run (threads 1000 fun _ => 0) Unrestricted signalled c ∧
      Conserved (fun _ => 0) reporting c := by
  have run : Run (threads 1000 fun _ => 0) Unrestricted _ _ := Run.replayed signalled rfl
  exact ⟨_, run, run_threadFlagsConserved run⟩

end CmsisCpp.ThreadFlag
