import CmsisCpp.EventFlag.Objects
import CmsisCpp.FlagBoard

/-! # Threads on event flags

Source: `include/EventFlag.h`, `src/EventFlag.cpp`.  Any number of threads set, clear,
read and wait for the flags of any number of events. -/
set_option autoImplicit false

namespace CmsisCpp.EventFlag

open CallScript ActionSystem Clients FlagBoard

inductive ViewCall
  | osEventFlagsGet (id : Handle)
  | osEventFlagsClear (id : Handle) (mask : UInt32)
  deriving DecidableEq, Repr

abbrev viewSig : Signature where
  Call := ViewCall
  Reply
    | .osEventFlagsGet _ => UInt32
    | .osEventFlagsClear _ _ => UInt32

/-- `event::get`; its exceptions are of `os_category`. -/
def get (id : Handle) : Script viewSig SystemError UInt32 :=
  .ask (.osEventFlagsGet id) fun (flags : UInt32) =>
    if toInt32 flags < 0 then .throw ⟨toInt32 flags, .os, strError "osEventFlagsGet" id⟩
    else .done flags

def clear (id : Handle) (mask : UInt32) : Script viewSig SystemError UInt32 :=
  .ask (.osEventFlagsClear id mask) fun (flags : UInt32) =>
    readFlags flags (strError "osEventFlagsClear" id)

def waitFor (freq : Int) (id : Handle) (mask : UInt32) (flg : WaitFlag) (relTime : Duration) :
    Script eventSig SystemError (FlagStatus × UInt32) :=
  waitForUsec freq id mask flg relTime.toUsec

/-- `event::wait_until`, where `Clock::now()` answers `now`; once the time is over it
leaves the caller's `flagValue` alone. -/
def waitUntil (freq : Int) (id : Handle) (mask : UInt32) (flg : WaitFlag)
    (absTime now : Duration) (flagValue : UInt32) :
    Script eventSig SystemError (FlagStatus × UInt32) :=
  if (absTime.sub now).isNegative then .done (.timeout, flagValue)
  else waitFor freq id mask flg (absTime.sub now)

/-! ## The threads -/

abbrev ThreadId := Nat

abbrev clientSig : Signature := eventSig.sum (objectSig.sum viewSig)

/-- The overloads without a `wait_flag` pass `any`. -/
inductive Operation
  | get (id : Handle)
  | set (id : Handle) (mask : UInt32)
  | clear (id : Handle) (mask : UInt32)
  | wait (id : Handle) (mask : UInt32) (flg : WaitFlag)
  | waitFor (id : Handle) (mask : UInt32) (flg : WaitFlag) (relTime : Duration)
  | waitUntil (id : Handle) (mask : UInt32) (flg : WaitFlag) (absTime now : Duration)
      (flagValue : UInt32)

inductive Value
  | mask (flags : UInt32)
  | timed (status : FlagStatus) (flagValue : UInt32)
  deriving DecidableEq, Repr

def Value.ofTimed (ended : FlagStatus × UInt32) : Value := .timed ended.1 ended.2

def body (freq : Int) : Operation → Script clientSig SystemError Value
  | .get id => ((EventFlag.get id).inr (fun e => e) .mask).inr (fun e => e) fun v => v
  | .set id mask => ((EventFlag.set id mask).inl (fun e => e) .mask).inr (fun e => e) fun v => v
  | .clear id mask =>
      ((EventFlag.clear id mask).inr (fun e => e) .mask).inr (fun e => e) fun v => v
  | .wait id mask flg => (EventFlag.wait id mask flg).inl (fun e => e) .mask
  | .waitFor id mask flg relTime =>
      (EventFlag.waitFor freq id mask flg relTime).inl (fun e => e) .ofTimed
  | .waitUntil id mask flg absTime now flagValue =>
      (EventFlag.waitUntil freq id mask flg absTime now flagValue).inl (fun e => e) .ofTimed

def flagCall (_ : ThreadId) : Answered clientSig → Option (FlagCall × UInt32)
  | ⟨.inl (.osEventFlagsWait id mask option timeout), (flags : UInt32)⟩ =>
      some (.wait id mask option timeout, flags)
  | ⟨.inr (.inl (.osEventFlagsSet id mask)), (flags : UInt32)⟩ => some (.set id mask, flags)
  | ⟨.inr (.inr (.osEventFlagsGet id)), (flags : UInt32)⟩ => some (.get id, flags)
  | ⟨.inr (.inr (.osEventFlagsClear id mask)), (flags : UInt32)⟩ => some (.clear id mask, flags)
  | _ => none

abbrev Threads := Config clientSig ThreadId Board Operation SystemError Value

def kernel (initial : Board) : Service clientSig ThreadId Board :=
  FlagBoard.service flagCall (fun _ _ => True) initial

def threads (freq : Int) (initial : Board) :
    ActionSystem Threads (Clients.Action clientSig ThreadId Operation) :=
  Clients.system (kernel initial) (body freq)

def report : Operation → Except SystemError Value → Option Told
  | .get id, .ok (.mask flags) => some (.seen id flags)
  | .set id _, .ok (.mask flags) => some (.seen id flags)
  | .clear id _, .ok (.mask flags) => some (.seen id flags)
  | .wait id mask flg, .ok (.mask flags) => some (.waited id mask flg flags)
  | .waitFor id mask flg _, .ok (.timed .noTimeout flags) => some (.waited id mask flg flags)
  | .waitUntil id mask flg _ _ _, .ok (.timed .noTimeout flags) => some (.waited id mask flg flags)
  | _, _ => none

def raising : Operation → Option (Handle × UInt32)
  | .set id mask => some (id, mask)
  | _ => none

def lowering : Operation → Option (Handle × UInt32)
  | .get _ | .set _ _ => none
  | .clear id mask => some (id, mask)
  | .wait id mask flg => waitLowers id mask flg
  | .waitFor id mask flg _ => waitLowers id mask flg
  | .waitUntil id mask flg _ _ _ => waitLowers id mask flg

def reporting : Reporting ThreadId Operation SystemError Value where
  report _ := report
  raising _ := raising
  lowering _ := lowering

/-! ## What the operations have been answered -/

section Readings
variable {freq : Int} {id : Handle} {mask : UInt32} {flg : WaitFlag}

theorem ends_wait {answers : List (Answered eventSig)} {outcome : Except SystemError UInt32}
    (ends : Ends (wait id mask flg) answers outcome) :
    ∃ flags : UInt32, answers = [⟨.osEventFlagsWait id mask (waitOption flg) osWaitForever, flags⟩] ∧
      outcome = flagsReading (strError "osEventFlagsWait" id) flags :=
  @ends_one_reading eventSig _ _ _ (flagsReading _) _ _ readFlags_eq ends

theorem ends_waitFor {answers : List (Answered eventSig)} {relTime : Duration}
    {outcome : Except SystemError (FlagStatus × UInt32)}
    (ends : Ends (waitFor freq id mask flg relTime) answers outcome) :
    (∃ error, outcome = .error error) ∨ ∃ flags : UInt32,
      answers = [⟨.osEventFlagsWait id mask (waitOption flg) (timeoutTicks freq relTime.toUsec),
        flags⟩] ∧
      outcome = timedFlagsReading (timeoutTicks freq relTime.toUsec)
        (strError "osEventFlagsWait" id) flags := by
  rcases lt_or_ge relTime.toUsec 0 with negative | nonneg
  · rw [waitFor, waitForUsec, withTimeout_negative negative] at ends
    exact .inl ⟨_, (ends_throw ends).2⟩
  · rw [waitFor, waitForUsec, withTimeout_nonneg nonneg] at ends
    exact .inr (@ends_one_reading eventSig _ _ _ (timedFlagsReading _ _) _ _
      (readTimedFlags_eq _) ends)

theorem ends_set {answers : List (Answered objectSig)} {outcome : Except SystemError UInt32}
    (ends : Ends (set id mask) answers outcome) :
    ∃ flags : UInt32, answers = [⟨.osEventFlagsSet id mask, flags⟩] ∧
      outcome = flagsReading (strError "osEventFlagsSet" id) flags :=
  @ends_one_reading objectSig _ _ _ (flagsReading _) _ _ readFlags_eq ends

theorem follows_set {answers : List (Answered objectSig)} {rest : Script objectSig SystemError UInt32}
    (follows : Follows (set id mask) answers rest) :
    answers = [] ∨ ∃ flags : UInt32, answers = [⟨.osEventFlagsSet id mask, flags⟩] :=
  @follows_one_reading objectSig _ _ _ (flagsReading _) _ _ readFlags_eq follows

theorem follows_wait {answers : List (Answered eventSig)} {rest : Script eventSig SystemError UInt32}
    (follows : Follows (wait id mask flg) answers rest) : answers = [] ∨ ∃ flags : UInt32,
      answers = [⟨.osEventFlagsWait id mask (waitOption flg) osWaitForever, flags⟩] :=
  @follows_one_reading eventSig _ _ _ (flagsReading _) _ _ readFlags_eq follows

theorem follows_waitFor {answers : List (Answered eventSig)} {relTime : Duration}
    {rest : Script eventSig SystemError (FlagStatus × UInt32)}
    (follows : Follows (waitFor freq id mask flg relTime) answers rest) :
    answers = [] ∨ ∃ flags : UInt32,
      answers = [⟨.osEventFlagsWait id mask (waitOption flg) (timeoutTicks freq relTime.toUsec),
        flags⟩] := by
  rcases lt_or_ge relTime.toUsec 0 with negative | nonneg
  · rw [waitFor, waitForUsec, withTimeout_negative negative] at follows
    exact .inl (follows_throw follows).1
  · rw [waitFor, waitForUsec, withTimeout_nonneg nonneg] at follows
    exact @follows_one_reading eventSig _ _ _ (timedFlagsReading _ _) _ _ (readTimedFlags_eq _)
      follows

theorem follows_clear {answers : List (Answered viewSig)} {rest : Script viewSig SystemError UInt32}
    (follows : Follows (clear id mask) answers rest) :
    answers = [] ∨ ∃ flags : UInt32, answers = [⟨.osEventFlagsClear id mask, flags⟩] :=
  @follows_one_reading viewSig _ _ _ (flagsReading _) _ _ readFlags_eq follows

theorem ends_clear {answers : List (Answered viewSig)} {outcome : Except SystemError UInt32}
    (ends : Ends (clear id mask) answers outcome) :
    ∃ flags : UInt32, answers = [⟨.osEventFlagsClear id mask, flags⟩] ∧
      outcome = flagsReading (strError "osEventFlagsClear" id) flags :=
  @ends_one_reading viewSig _ _ _ (flagsReading _) _ _ readFlags_eq ends

theorem follows_get {answers : List (Answered viewSig)} {rest : Script viewSig SystemError UInt32}
    (follows : Follows (get id) answers rest) :
    answers = [] ∨ ∃ flags : UInt32, answers = [⟨.osEventFlagsGet id, flags⟩] := by
  rcases follows_ask follows with ⟨none, _⟩ | ⟨(flags : UInt32), later, rfl, after⟩
  · exact .inl none
  · right
    split at after
    · exact ⟨flags, by rw [(follows_throw after).1]⟩
    · exact ⟨flags, by rw [(follows_done after).1]⟩

theorem ends_get {answers : List (Answered viewSig)} {flags : UInt32}
    (ends : Ends (get id) answers (.ok flags)) :
    answers = [⟨.osEventFlagsGet id, flags⟩] ∧ failed flags = false := by
  obtain ⟨(reply : UInt32), later, rfl, after⟩ := ends_ask ends
  split at after
  · obtain ⟨_, same⟩ := ends_throw after
    cases same
  · rename_i valid
    obtain ⟨rfl, same⟩ := ends_done after
    cases same
    rw [toInt32_neg_iff_failed, Bool.not_eq_true] at valid
    exact ⟨rfl, valid⟩

end Readings

section Reports
variable {freq : Int} {t : ThreadId} {op : Operation} {answers : List (Answered clientSig)}
  {key : Handle} {bit : Nat}

theorem waits_not_raised (answers : List (Answered eventSig)) :
    (answers.map Answered.inl).countP (fun a => raisedBy flagCall key bit (t, a)) = 0 := by
  apply List.countP_eq_zero.mpr
  intro a member
  obtain ⟨⟨⟨id, mask, option, timeout⟩, flags⟩, _, rfl⟩ := List.mem_map.mp member
  exact Bool.false_ne_true

theorem views_not_raised (answers : List (Answered viewSig)) :
    ((answers.map Answered.inr).map Answered.inr).countP
      (fun a => raisedBy flagCall key bit (t, a)) = 0 := by
  apply List.countP_eq_zero.mpr
  intro a member
  obtain ⟨a', member', rfl⟩ := List.mem_map.mp member
  obtain ⟨⟨call, flags⟩, _, rfl⟩ := List.mem_map.mp member'
  cases call <;> exact Bool.false_ne_true

/-- Only sets raise flags. -/
theorem body_not_raised {rest : Script clientSig SystemError Value}
    (follows : Follows (body freq op) answers rest) (noSet : raising op = none) :
    answers.countP (fun a => raisedBy flagCall key bit (t, a)) = 0 := by
  cases op with
  | set id mask => cases noSet
  | get id | clear id mask =>
      obtain ⟨answers', _, follows', rfl, _⟩ := follows_of_inr follows
      obtain ⟨answers'', _, _, rfl, _⟩ := follows_of_inr follows'
      exact views_not_raised answers''
  | wait id mask flg | waitFor id mask flg relTime
  | waitUntil id mask flg absTime now flagValue =>
      obtain ⟨answers', _, _, rfl, _⟩ := follows_of_inl follows
      exact waits_not_raised answers'

theorem set_answers {id : Handle} {mask : UInt32} {rest : Script clientSig SystemError Value}
    (follows : Follows (body freq (.set id mask)) answers rest) :
    answers = [] ∨
      ∃ flags : UInt32, answers = [⟨.inr (.inl (.osEventFlagsSet id mask)), flags⟩] := by
  obtain ⟨answers', _, follows', rfl, _⟩ := follows_of_inr follows
  obtain ⟨answers'', _, follows'', rfl, _⟩ := follows_of_inl follows'
  rcases follows_set follows'' with rfl | ⟨flags, rfl⟩
  · exact .inl rfl
  · exact .inr ⟨flags, rfl⟩

theorem timed_answered {id : Handle} {mask : UInt32} {flg : WaitFlag} {relTime : Duration}
    {answers : List (Answered eventSig)} {outcome : Except SystemError (FlagStatus × UInt32)}
    {flags : UInt32} (ends : Ends (waitFor freq id mask flg relTime) answers outcome)
    (reported : embedded (fun e => e) Value.ofTimed outcome = .ok (.timed .noTimeout flags)) :
    ∃ a ∈ answers.map Answered.inl, ∃ call reply, flagCall t a = some (call, reply) ∧
      (Told.waited id mask flg flags).By call reply := by
  rcases ends_waitFor ends with ⟨error, rfl⟩ | ⟨reply, rfl, rfl⟩
  · cases reported
  · have read : timedFlagsReading (timeoutTicks freq relTime.toUsec)
        (strError "osEventFlagsWait" id) reply = .ok (.noTimeout, flags) := by
      cases found : timedFlagsReading (timeoutTicks freq relTime.toUsec)
          (strError "osEventFlagsWait" id) reply with
      | error error =>
          rw [found] at reported
          cases reported
      | ok ended =>
          rw [found] at reported
          obtain ⟨status, flagValue⟩ := ended
          cases reported
          rfl
    obtain ⟨rfl, valid⟩ := timedFlagsReading_noTimeout read
    exact ⟨_, List.mem_cons_self, _, _, rfl, Told.by_waited valid⟩

theorem body_answered {outcome : Except SystemError Value} {told : Told}
    (ends : Ends (body freq op) answers outcome) (reported : report op outcome = some told) :
    ∃ a ∈ answers, ∃ call reply, flagCall t a = some (call, reply) ∧ told.By call reply := by
  cases op with
  | get id =>
      obtain ⟨answers', outcome', ends', rfl, rfl⟩ := ends_of_inr ends
      obtain ⟨answers'', outcome'', ends'', rfl, rfl⟩ := ends_of_inr ends'
      cases outcome'' with
      | error error => cases reported
      | ok value =>
          cases reported
          obtain ⟨rfl, valid⟩ := ends_get ends''
          exact ⟨_, List.mem_cons_self, .get id, value, rfl, Told.by_seen rfl valid⟩
  | set id mask =>
      obtain ⟨answers', outcome', ends', rfl, rfl⟩ := ends_of_inr ends
      obtain ⟨answers'', outcome'', ends'', rfl, rfl⟩ := ends_of_inl ends'
      obtain ⟨reply, rfl, read⟩ := ends_set ends''
      cases outcome'' with
      | error error => cases reported
      | ok value =>
          cases reported
          obtain ⟨rfl, valid⟩ := flagsReading_ok read.symm
          exact ⟨_, List.mem_cons_self, .set id mask, value, rfl, Told.by_seen rfl valid⟩
  | clear id mask =>
      obtain ⟨answers', outcome', ends', rfl, rfl⟩ := ends_of_inr ends
      obtain ⟨answers'', outcome'', ends'', rfl, rfl⟩ := ends_of_inr ends'
      obtain ⟨reply, rfl, read⟩ := ends_clear ends''
      cases outcome'' with
      | error error => cases reported
      | ok value =>
          cases reported
          obtain ⟨rfl, valid⟩ := flagsReading_ok read.symm
          exact ⟨_, List.mem_cons_self, .clear id mask, value, rfl, Told.by_seen rfl valid⟩
  | wait id mask flg =>
      obtain ⟨answers', outcome', ends', rfl, rfl⟩ := ends_of_inl ends
      obtain ⟨reply, rfl, read⟩ := ends_wait ends'
      cases outcome' with
      | error error => cases reported
      | ok value =>
          cases reported
          obtain ⟨rfl, valid⟩ := flagsReading_ok read.symm
          exact ⟨_, List.mem_cons_self, _, _, rfl, Told.by_waited valid⟩
  | waitFor id mask flg relTime =>
      obtain ⟨answers', outcome', ends', rfl, rfl⟩ := ends_of_inl ends
      unfold report at reported
      split at reported <;> try contradiction
      rename_i same isTimed
      cases same
      cases reported
      exact timed_answered ends' isTimed
  | waitUntil id mask flg absTime now flagValue =>
      obtain ⟨answers', outcome', ends', rfl, rfl⟩ := ends_of_inl ends
      unfold report at reported
      split at reported <;> try contradiction
      rename_i same isTimed
      cases same
      cases reported
      rw [waitUntil] at ends'
      split at ends'
      · obtain ⟨_, rfl⟩ := ends_done ends'
        cases isTimed
      · exact timed_answered ends' isTimed

theorem waitAnswers_lowered {id : Handle} {mask : UInt32} {flg : WaitFlag} {timeout : Int}
    {answers : List (Answered eventSig)} (asked : answers = [] ∨ ∃ flags : UInt32,
      answers = [⟨.osEventFlagsWait id mask (waitOption flg) timeout, flags⟩])
    (keeps : concerns key bit (waitLowers id mask flg) = false) :
    ∀ a ∈ answers.map Answered.inl, loweredBy flagCall key bit (t, a) = false := by
  intro a member
  rcases asked with rfl | ⟨flags, rfl⟩
  · contradiction
  · cases List.mem_singleton.mp member
    exact lowers_wait timeout keeps

/-- Only clears and waits without `no_clear` take flags down. -/
theorem body_lowered {rest : Script clientSig SystemError Value}
    (follows : Follows (body freq op) answers rest)
    (keeps : concerns key bit (lowering op) = false) :
    ∀ a ∈ answers, loweredBy flagCall key bit (t, a) = false := by
  cases op with
  | get id =>
      obtain ⟨answers', _, follows', rfl, _⟩ := follows_of_inr follows
      obtain ⟨answers'', _, follows'', rfl, _⟩ := follows_of_inr follows'
      intro a member
      rcases follows_get follows'' with rfl | ⟨flags, rfl⟩
      · contradiction
      · cases List.mem_singleton.mp member
        rfl
  | set id mask =>
      intro a member
      rcases set_answers follows with rfl | ⟨flags, rfl⟩
      · contradiction
      · cases List.mem_singleton.mp member
        rfl
  | clear id mask =>
      obtain ⟨answers', _, follows', rfl, _⟩ := follows_of_inr follows
      obtain ⟨answers'', _, follows'', rfl, _⟩ := follows_of_inr follows'
      intro a member
      rcases follows_clear follows'' with rfl | ⟨flags, rfl⟩
      · contradiction
      · cases List.mem_singleton.mp member
        exact lowers_clear keeps
  | wait id mask flg =>
      obtain ⟨answers', _, follows', rfl, _⟩ := follows_of_inl follows
      exact waitAnswers_lowered (follows_wait follows') keeps
  | waitFor id mask flg relTime =>
      obtain ⟨answers', _, follows', rfl, _⟩ := follows_of_inl follows
      exact waitAnswers_lowered (follows_waitFor follows') keeps
  | waitUntil id mask flg absTime now flagValue =>
      obtain ⟨answers', _, follows', rfl, _⟩ := follows_of_inl follows
      rw [waitUntil] at follows'
      split at follows'
      · obtain ⟨rfl, _⟩ := follows_done follows'
        intro a member
        contradiction
      · exact waitAnswers_lowered (follows_waitFor follows') keeps

theorem set_outcome {id : Handle} {mask : UInt32} {outcome : Except SystemError Value}
    (ends : Ends (body freq (.set id mask)) answers outcome) :
    ∃ flags : UInt32, answers = [⟨.inr (.inl (.osEventFlagsSet id mask)), flags⟩] ∧
      ((∃ error, outcome = .error error) ↔ failed flags = true) := by
  obtain ⟨answers', outcome', ends', rfl, rfl⟩ := ends_of_inr ends
  obtain ⟨answers'', outcome'', ends'', rfl, rfl⟩ := ends_of_inl ends'
  obtain ⟨reply, rfl, rfl⟩ := ends_set ends''
  refine ⟨reply, rfl, ?_⟩
  rw [flagsReading]
  split
  · rename_i isFailed
    exact iff_of_true ⟨_, rfl⟩ isFailed
  · rename_i valid
    refine iff_of_false ?_ valid
    rintro ⟨error, same⟩
    cases same

theorem reports (freq : Int) :
    Reports (body freq) flagCall (fun _ _ => True) reporting where
  answered t op answers outcome told ends _ reported := body_answered ends reported
  raised t op answers rest key bit follows _ := by
    cases noSet : raising op with
    | none =>
        rw [body_not_raised follows noSet]
        exact Nat.zero_le _
    | some word =>
        cases op with
        | set id mask =>
            cases noSet
            rcases set_answers follows with rfl | ⟨flags, rfl⟩
            · exact Nat.zero_le _
            · by_cases same : id = key <;> cases isSet : hasFlag mask bit <;>
                simp [reporting, raising, concerns, raisedBy, flagCall, FlagCall.raises, same, isSet]
              split <;> omega
        | _ => cases noSet
  failedSet t op answers error key bit ends _ := by
    cases noSet : raising op with
    | none => exact body_not_raised ends noSet
    | some word =>
        cases op with
        | set id mask =>
            obtain ⟨flags, rfl, failure⟩ := set_outcome ends
            have isFailed := failure.mp ⟨error, rfl⟩
            simp [raisedBy, flagCall, FlagCall.raises, isFailed]
        | _ => cases noSet
  completedSet t op answers value key bit ends _ isSet := by
    cases op with
    | set id mask =>
        obtain ⟨flags, rfl, failure⟩ := set_outcome ends
        refine ⟨_, List.mem_cons_self, ?_⟩
        have valid : failed flags = false := by
          rw [← Bool.not_eq_true, ← failure]
          rintro ⟨error, same⟩
          cases same
        simpa [reporting, raising, concerns, raisedBy, flagCall, FlagCall.raises, valid] using isSet
    | _ => cases isSet
  lowered t op answers rest key bit follows keeps := body_lowered follows keeps

end Reports

theorem run_eventFlagsConserved {freq : Int} {initial : Board}
    {allowed : Threads → Clients.Action clientSig ThreadId Operation → Prop}
    {acts : List (Clients.Action clientSig ThreadId Operation)} {c : Threads}
    (run : Run (threads freq initial) allowed acts c) : Conserved initial reporting c :=
  (reports freq).conserved (service_onBoard initial) (run_explained run)

def replying (flags : UInt32) : (call : clientSig.Call) → clientSig.Reply call
  | .inl (.osEventFlagsWait _ _ _ _) => flags
  | .inr (.inl .osEventFlagsNew) => (0 : Handle)
  | .inr (.inl (.osEventFlagsDelete _)) => OsStatus.osOK
  | .inr (.inl (.osEventFlagsSet _ _)) => flags
  | .inr (.inr (.osEventFlagsGet _)) => flags
  | .inr (.inr (.osEventFlagsClear _ _)) => flags

/-- Two threads wait for one flag that is raised once. -/
def rivals : List (Clients.Action clientSig ThreadId Operation) :=
  [.start 1 (.wait 5 6 .all), .start 2 (.waitFor 5 4 .any (.microseconds 2000)),
    .start 0 (.set 5 6), .next 0 (replying 4), .next 2 (replying 6), .start 3 (.get 5),
    .next 3 (replying 2), .finish 2, .finish 0, .start 0 (.set 5 4), .next 0 (replying 6),
    .next 1 (replying 6), .finish 1, .finish 3, .start 3 (.clear 5 1), .next 3 (replying 0),
    .finish 3]

theorem rivals_eventFlagsConserved :
    ∃ c, Run (threads 1000 fun _ => 0) Unrestricted rivals c ∧
      Conserved (fun _ => 0) reporting c := by
  have run : Run (threads 1000 fun _ => 0) Unrestricted _ _ := Run.replayed rivals rfl
  exact ⟨_, run, run_eventFlagsConserved run⟩

end CmsisCpp.EventFlag
