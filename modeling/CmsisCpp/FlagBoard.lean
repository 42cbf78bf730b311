import CmsisCpp.WaitFlag.Programs
import CmsisCpp.ClientCalls

/-! # Flags in the kernel

What the event flags and the thread flags of the OS have in common.  Each of many
words holds 31 flags; calls raise and lower flags and wait for them, and a wait that
is granted takes its flags unless it asks for `osFlagsNoClear`.  Bit 31 of a reply
marks an error, and a call with such a reply changes nothing. -/
set_option autoImplicit false

namespace CmsisCpp.FlagBoard

open CallScript ActionSystem Clients

/-! ## Single flags -/

def hasFlag (flags : UInt32) (bit : Nat) : Bool := flags.toNat.testBit bit

section Flags
variable (flags mask : UInt32) (bit : Nat)

theorem hasFlag_or : hasFlag (flags ||| mask) bit = (hasFlag flags bit || hasFlag mask bit) := by
  rw [hasFlag, UInt32.toNat_or, Nat.testBit_or]
  rfl

theorem hasFlag_and : hasFlag (flags &&& mask) bit = (hasFlag flags bit && hasFlag mask bit) := by
  rw [hasFlag, UInt32.toNat_and, Nat.testBit_and]
  rfl

theorem hasFlag_lowered :
    hasFlag (flags &&& ~~~mask) bit = (hasFlag flags bit && !hasFlag mask bit) := by
  have complement : hasFlag (~~~mask) bit = (decide (bit < 32) && !hasFlag mask bit) :=
    BitVec.getLsbD_not
  rw [hasFlag_and, complement]
  by_cases inRange : bit < 32
  · simp [inRange]
  · have none : hasFlag flags bit = false :=
      Nat.testBit_lt_two_pow (lt_of_lt_of_le flags.toNat_lt (Nat.pow_le_pow_right (by omega) (by omega)))
    simp [none]

def failed : Bool := hasFlag flags 31

theorem toInt32_neg_iff_failed : toInt32 flags < 0 ↔ failed flags = true := toInt32_neg_iff flags

theorem and_osFlagsError_ne_zero_iff : flags &&& osFlagsError ≠ 0 ↔ failed flags = true := by
  have word : (flags &&& osFlagsError).toNat = (flags.toNat.testBit 31).toNat * 2 ^ 31 := by
    rw [UInt32.toNat_and, ← Nat.and_two_pow]
    rfl
  rw [failed, hasFlag, Ne, ← UInt32.toNat_inj, word]
  cases flags.toNat.testBit 31 <;> decide

end Flags

/-! ## The calls -/

inductive FlagCall
  | set (key : Handle) (mask : UInt32)
  | clear (key : Handle) (mask : UInt32)
  | get (key : Handle)
  | wait (key : Handle) (mask option : UInt32) (timeout : Int)
  deriving DecidableEq, Repr

def FlagCall.key : FlagCall → Handle
  | .set key _ => key
  | .clear key _ => key
  | .get key => key
  | .wait key _ _ _ => key

abbrev Board := Handle → UInt32

def Granted (flags mask option : UInt32) : Prop :=
  if option &&& osFlagsWaitAll ≠ 0 then flags &&& mask = mask else flags &&& mask ≠ 0

instance (flags mask option : UInt32) : Decidable (Granted flags mask option) :=
  inferInstanceAs (Decidable
    (if option &&& osFlagsWaitAll ≠ 0 then flags &&& mask = mask else flags &&& mask ≠ 0))

def Refused (board : Board) : FlagCall → UInt32 → Prop
  | .wait key mask option timeout, reply =>
      (reply = osFlagsErrorResource → ¬ Granted (board key) mask option ∧ timeout = 0) ∧
        (reply = osFlagsErrorTimeout →
          ¬ Granted (board key) mask option ∧ timeout ≠ 0 ∧ timeout ≠ osWaitForever)
  | _, _ => True

instance (board : Board) : (call : FlagCall) → (reply : UInt32) → Decidable (Refused board call reply)
  | .wait _ _ _ _, _ => inferInstanceAs (Decidable (_ ∧ _))
  | .set _ _, _ | .clear _ _, _ | .get _, _ => .isTrue trivial

/-- The kernel under a call that is given this reply.  A set tells some of the flags
that are set after it, for others may have taken theirs by then. -/
def answerFlags (board : Board) (call : FlagCall) (reply : UInt32) : Option Board :=
  if failed reply then if Refused board call reply then some board else none
  else match call with
    | .set key mask =>
        if failed mask = false ∧ reply &&& (board key ||| mask) = reply then
          some (Function.update board key (board key ||| mask))
        else none
    | .clear key mask =>
        if reply = board key then some (Function.update board key (board key &&& ~~~mask)) else none
    | .get key => if reply = board key then some board else none
    | .wait key mask option _ =>
        if reply = board key ∧ Granted (board key) mask option then
          if option &&& osFlagsNoClear ≠ 0 then some board
          else some (Function.update board key (board key &&& ~~~mask))
        else none

/-! ## What a call does to one flag -/

def FlagCall.raises (key : Handle) (bit : Nat) : FlagCall → UInt32 → Bool
  | .set key' mask, reply => key' = key ∧ hasFlag mask bit ∧ failed reply = false
  | _, _ => false

def FlagCall.lowers (key : Handle) (bit : Nat) : FlagCall → UInt32 → Bool
  | .clear key' mask, reply => key' = key ∧ hasFlag mask bit ∧ failed reply = false
  | .wait key' mask option _, reply =>
      key' = key ∧ hasFlag mask bit ∧ failed reply = false ∧ option &&& osFlagsNoClear = 0
  | _, _ => false

/-- The call takes the flag from those that may wait for it. -/
def FlagCall.takes (key : Handle) (bit : Nat) : FlagCall → UInt32 → Bool
  | .wait key' mask option _, reply =>
      key' = key ∧ hasFlag mask bit ∧ hasFlag reply bit ∧ failed reply = false ∧
        option &&& osFlagsNoClear = 0
  | _, _ => false

def on (flags : UInt32) (bit : Nat) : Nat := (hasFlag flags bit).toNat

section Answer
variable {board board' : Board} {call : FlagCall} {reply : UInt32}

theorem on_update (key key' : Handle) (flags : UInt32) (bit : Nat) :
    on (Function.update board key flags key') bit =
      if key' = key then on flags bit else on (board key') bit := by
  by_cases same : key' = key
  · subst same
    simp
  · simp [same]

/-- A flag that is taken was set, and one that is set now was set before or raised. -/
theorem answerFlags_balance (answered : answerFlags board call reply = some board')
    (key : Handle) (bit : Nat) :
    on (board' key) bit + (call.takes key bit reply).toNat ≤
      on (board key) bit + (call.raises key bit reply).toNat := by
  unfold answerFlags at answered
  split at answered
  · rename_i isFailed
    simp only [Option.ite_none_right_eq_some, Option.some.injEq] at answered
    obtain ⟨_, rfl⟩ := answered
    cases call <;> simp [FlagCall.takes, isFailed]
  · rename_i notFailed
    rw [Bool.not_eq_true] at notFailed
    cases call with
    | set key' mask =>
        simp only [Option.ite_none_right_eq_some, Option.some.injEq] at answered
        obtain ⟨_, rfl⟩ := answered
        rw [on_update]
        by_cases same : key = key'
        · subst same
          simp only [if_true, on, hasFlag_or, FlagCall.takes, FlagCall.raises, notFailed]
          cases hasFlag (board key) bit <;> cases hasFlag mask bit <;> simp
        · simp [same, FlagCall.takes]
    | clear key' mask =>
        simp only [Option.ite_none_right_eq_some, Option.some.injEq] at answered
        obtain ⟨_, rfl⟩ := answered
        rw [on_update]
        by_cases same : key = key'
        · subst same
          simp only [if_true, on, hasFlag_lowered, FlagCall.takes, FlagCall.raises]
          cases hasFlag (board key) bit <;> cases hasFlag mask bit <;> simp
        · simp [same, FlagCall.takes]
    | get key' =>
        simp only [Option.ite_none_right_eq_some, Option.some.injEq] at answered
        obtain ⟨_, rfl⟩ := answered
        simp [FlagCall.takes]
    | wait key' mask option timeout =>
        simp only [Option.ite_none_right_eq_some] at answered
        obtain ⟨⟨rfl, granted⟩, answered⟩ := answered
        split at answered
        · rename_i keeps
          cases answered
          simp [FlagCall.takes, keeps]
        · cases answered
          rw [on_update]
          by_cases same : key = key'
          · subst same
            simp only [if_true, on, hasFlag_lowered, FlagCall.takes, FlagCall.raises]
            cases hasFlag (board key) bit <;> cases hasFlag mask bit <;> simp [Bool.toNat_le]
          · simp [same, FlagCall.takes, Ne.symm same]

/-- A flag that no call takes down stays, and a set puts its flags up. -/
theorem answerFlags_keeps (answered : answerFlags board call reply = some board') {key : Handle}
    {bit : Nat} (keeps : call.lowers key bit reply = false)
    (up : hasFlag (board key) bit = true ∨ call.raises key bit reply = true) :
    hasFlag (board' key) bit = true := by
  unfold answerFlags at answered
  split at answered
  · rename_i isFailed
    simp only [Option.ite_none_right_eq_some, Option.some.injEq] at answered
    obtain ⟨_, rfl⟩ := answered
    cases call <;> simpa [FlagCall.raises, isFailed] using up
  · rename_i notFailed
    rw [Bool.not_eq_true] at notFailed
    cases call with
    | set key' mask =>
        simp only [Option.ite_none_right_eq_some, Option.some.injEq] at answered
        obtain ⟨_, rfl⟩ := answered
        by_cases same : key = key'
        · subst same
          simpa [hasFlag_or, FlagCall.raises, notFailed] using up
        · simpa [same, FlagCall.raises, Ne.symm same] using up
    | clear key' mask =>
        simp only [Option.ite_none_right_eq_some, Option.some.injEq] at answered
        obtain ⟨_, rfl⟩ := answered
        by_cases same : key = key'
        · subst same
          have others : hasFlag mask bit = false := by
            simpa [FlagCall.lowers, notFailed] using keeps
          simpa [hasFlag_lowered, FlagCall.raises, others] using up
        · simpa [same, FlagCall.raises] using up
    | get key' =>
        simp only [Option.ite_none_right_eq_some, Option.some.injEq] at answered
        obtain ⟨_, rfl⟩ := answered
        simpa [FlagCall.raises] using up
    | wait key' mask option timeout =>
        simp only [Option.ite_none_right_eq_some] at answered
        obtain ⟨_, answered⟩ := answered
        split at answered
        · cases answered
          simpa [FlagCall.raises] using up
        · rename_i taking
          cases answered
          by_cases same : key = key'
          · subst same
            have others : hasFlag mask bit = false := by
              simpa [FlagCall.lowers, notFailed, not_not.mp taking] using keeps
            simpa [hasFlag_lowered, FlagCall.raises, others] using up
          · simpa [same, FlagCall.raises] using up

/-- The flags that a call tells were up when it found them or were raised by it, and a
wait is granted at them. -/
theorem answerFlags_shows (answered : answerFlags board call reply = some board')
    (valid : failed reply = false) :
    (∀ bit, on reply bit ≤ on (board call.key) bit + (call.raises call.key bit reply).toNat) ∧
      ∀ key mask option timeout, call = .wait key mask option timeout →
        Granted reply mask option := by
  simp only [answerFlags, valid, Bool.false_eq_true, if_false] at answered
  cases call with
  | set key mask =>
      simp only [Option.ite_none_right_eq_some] at answered
      constructor
      · intro bit
        have told := congrArg (hasFlag · bit) answered.1.2
        simp only [hasFlag_and, hasFlag_or] at told
        simp only [on, FlagCall.key, FlagCall.raises, valid]
        revert told
        cases hasFlag reply bit <;> cases hasFlag (board key) bit <;>
          cases hasFlag mask bit <;> simp
      · intro key' mask' option timeout same
        cases same
  | clear key mask =>
      simp only [Option.ite_none_right_eq_some] at answered
      rw [answered.1]
      refine ⟨fun bit => Nat.le_add_right _ _, ?_⟩
      intro key' mask' option timeout same
      cases same
  | get key =>
      simp only [Option.ite_none_right_eq_some] at answered
      rw [answered.1]
      refine ⟨fun bit => Nat.le_add_right _ _, ?_⟩
      intro key' mask' option timeout same
      cases same
  | wait key mask option timeout =>
      simp only [Option.ite_none_right_eq_some] at answered
      obtain ⟨⟨isFlags, granted⟩, _⟩ := answered
      rw [isFlags]
      refine ⟨fun bit => Nat.le_add_right _ _, ?_⟩
      intro key' mask' option' timeout' same
      cases same
      exact granted

end Answer

/-! ## Threads on the board -/

section Threads
variable {sig : Signature} {Thread Op Err Val : Type}

/-- A service whose answers are those of the board, where they are flag calls, and
leave it alone where they are not. -/
structure OnBoard (kernel : Service sig Thread Board)
    (flagCall : Thread → Answered sig → Option (FlagCall × UInt32))
    (Truthful : Thread → Answered sig → Prop) : Prop where
  call : ∀ board t call reply board' flags, kernel.answer board t call reply = some board' →
    flagCall t ⟨call, reply⟩ = some flags → answerFlags board flags.1 flags.2 = some board'
  other : ∀ board t call reply board', kernel.answer board t call reply = some board' →
    flagCall t ⟨call, reply⟩ = none → board' = board
  truthful : ∀ board t call reply board', kernel.answer board t call reply = some board' →
    Truthful t ⟨call, reply⟩

variable (flagCall : Thread → Answered sig → Option (FlagCall × UInt32))

def raisedBy (key : Handle) (bit : Nat) (entry : Thread × Answered sig) : Bool :=
  match flagCall entry.1 entry.2 with
  | some (call, reply) => call.raises key bit reply
  | none => false

def takenBy (key : Handle) (bit : Nat) (entry : Thread × Answered sig) : Bool :=
  match flagCall entry.1 entry.2 with
  | some (call, reply) => call.takes key bit reply
  | none => false

def loweredBy (key : Handle) (bit : Nat) (entry : Thread × Answered sig) : Bool :=
  match flagCall entry.1 entry.2 with
  | some (call, reply) => call.lowers key bit reply
  | none => false

structure Shown (initial : Board) (entries : List (Thread × Answered sig)) (call : FlagCall)
    (reply : UInt32) : Prop where
  raised : ∀ bit, on reply bit ≤
    on (initial call.key) bit + entries.countP (raisedBy flagCall call.key bit)
  granted : ∀ key mask option timeout, call = .wait key mask option timeout →
    Granted reply mask option

structure Accounted (initial : Board) (entries : List (Thread × Answered sig)) (board : Board) :
    Prop where
  balance : ∀ key bit, on (board key) bit + entries.countP (takenBy flagCall key bit) ≤
    on (initial key) bit + entries.countP (raisedBy flagCall key bit)
  shown : ∀ entry ∈ entries, ∀ call reply, flagCall entry.1 entry.2 = some (call, reply) →
    failed reply = false → Shown flagCall initial entries call reply
  kept : ∀ key bit, (∀ entry ∈ entries, loweredBy flagCall key bit entry = false) →
    (hasFlag (initial key) bit = true ∨ ∃ entry ∈ entries, raisedBy flagCall key bit entry = true) →
      hasFlag (board key) bit = true

variable {flagCall} {Truthful : Thread → Answered sig → Prop} {kernel : Service sig Thread Board}

theorem Shown.append {initial : Board} {entries more : List (Thread × Answered sig)}
    {call : FlagCall} {reply : UInt32} (shown : Shown flagCall initial entries call reply) :
    Shown flagCall initial (entries ++ more) call reply where
  raised bit := by
    have before := shown.raised bit
    rw [List.countP_append]
    omega
  granted := shown.granted

theorem OnBoard.balance (onBoard : OnBoard kernel flagCall Truthful) {board board' : Board}
    {t : Thread} {call : sig.Call} {reply : sig.Reply call}
    (answered : kernel.answer board t call reply = some board') (key : Handle) (bit : Nat) :
    on (board' key) bit + (takenBy flagCall key bit (t, ⟨call, reply⟩)).toNat ≤
      on (board key) bit + (raisedBy flagCall key bit (t, ⟨call, reply⟩)).toNat := by
  cases isCall : flagCall t ⟨call, reply⟩ with
  | some flags =>
      have onFlags := onBoard.call _ _ _ _ _ flags answered isCall
      simpa only [takenBy, raisedBy, isCall] using answerFlags_balance onFlags key bit
  | none =>
      rw [onBoard.other _ _ _ _ _ answered isCall]
      simp [takenBy, raisedBy, isCall]

theorem OnBoard.keeps (onBoard : OnBoard kernel flagCall Truthful) {board board' : Board}
    {t : Thread} {call : sig.Call} {reply : sig.Reply call} {key : Handle} {bit : Nat}
    (answered : kernel.answer board t call reply = some board')
    (keeps : loweredBy flagCall key bit (t, ⟨call, reply⟩) = false)
    (up : hasFlag (board key) bit = true ∨ raisedBy flagCall key bit (t, ⟨call, reply⟩) = true) :
    hasFlag (board' key) bit = true := by
  cases isCall : flagCall t ⟨call, reply⟩ with
  | some flags =>
      have onFlags := onBoard.call _ _ _ _ _ flags answered isCall
      simp only [loweredBy, raisedBy, isCall] at keeps up
      exact answerFlags_keeps onFlags keeps up
  | none =>
      rw [onBoard.other _ _ _ _ _ answered isCall]
      simpa [raisedBy, isCall] using up

theorem OnBoard.step (onBoard : OnBoard kernel flagCall Truthful) {initial board board' : Board}
    {entries : List (Thread × Answered sig)} {t : Thread} {call : sig.Call}
    {reply : sig.Reply call} (accounted : Accounted flagCall initial entries board)
    (answered : kernel.answer board t call reply = some board') :
    Accounted flagCall initial (entries ++ [(t, ⟨call, reply⟩)]) board' := by
  constructor
  · intro key bit
    have before := accounted.balance key bit
    have changed := onBoard.balance answered key bit
    rw [List.countP_append, List.countP_append, List.countP_singleton, List.countP_singleton]
    rw [Bool.toNat, Bool.toNat] at changed
    simp only [Bool.cond_eq_ite] at changed
    omega
  · intro entry member flagged reply' isCall valid
    rcases List.mem_append.mp member with old | new
    · exact (accounted.shown entry old flagged reply' isCall valid).append
    · cases List.mem_singleton.mp new
      have onFlags := onBoard.call _ _ _ _ _ _ answered isCall
      obtain ⟨found, granted⟩ := answerFlags_shows onFlags valid
      refine ⟨?_, granted⟩
      intro bit
      have before := accounted.balance flagged.key bit
      have told : on reply' bit ≤ on (board flagged.key) bit +
          (flagged.raises flagged.key bit reply').toNat := found bit
      have isRaised : raisedBy flagCall flagged.key bit (t, ⟨call, reply⟩) =
          flagged.raises flagged.key bit reply' := by
        simp only [raisedBy, isCall]
      rw [List.countP_append, List.countP_singleton, isRaised]
      rw [Bool.toNat, Bool.cond_eq_ite] at told
      omega
  · intro key bit keeps up
    apply onBoard.keeps answered (keeps _ (List.mem_append_right _ List.mem_cons_self))
    rcases up with start | ⟨entry, member, raised⟩
    · left
      apply accounted.kept key bit _ (.inl start)
      intro entry member
      exact keeps entry (List.mem_append_left _ member)
    · rcases List.mem_append.mp member with old | new
      · left
        apply accounted.kept key bit _ (.inr ⟨entry, old, raised⟩)
        intro entry member
        exact keeps entry (List.mem_append_left _ member)
      · cases List.mem_singleton.mp new
        exact .inr raised

theorem OnBoard.accounted (onBoard : OnBoard kernel flagCall Truthful) {board : Board}
    {entries : List (Thread × Answered sig)}
    (legal : Run kernel.system Unrestricted entries board) :
    Accounted flagCall kernel.initial entries board := by
  induction legal with
  | initial =>
      constructor
      · intro key bit
        exact le_refl _
      · intro entry member
        contradiction
      · intro key bit _ up
        rcases up with start | ⟨entry, member, _⟩
        · exact start
        · contradiction
  | step _ _ answered ih => exact onBoard.step ih answered

/-- The kernel with these words, where `Truthful` are the replies that it can give. -/
def service (flagCall : Thread → Answered sig → Option (FlagCall × UInt32))
    (Truthful : Thread → Answered sig → Prop) [∀ t a, Decidable (Truthful t a)] (initial : Board) :
    Service sig Thread Board where
  initial := initial
  answer board t call reply :=
    if Truthful t ⟨call, reply⟩ then
      match flagCall t ⟨call, reply⟩ with
      | some flags => answerFlags board flags.1 flags.2
      | none => some board
    else none

theorem service_onBoard [∀ t a, Decidable (Truthful t a)] (initial : Board) :
    OnBoard (service flagCall Truthful initial) flagCall Truthful where
  call board t call reply board' flags answered isCall := by
    simp only [service, isCall, Option.ite_none_right_eq_some] at answered
    exact answered.2
  other board t call reply board' answered noCall := by
    simp only [service, noCall, Option.ite_none_right_eq_some, Option.some.injEq] at answered
    exact answered.2.symm
  truthful board t call reply board' answered := by
    simp only [service, Option.ite_none_right_eq_some] at answered
    exact answered.1

/-! ## What the operations report -/

/-- What an operation that has returned tells its caller: flags of a word, or flags for
which it waited as it was asked to. -/
inductive Told
  | seen (key : Handle) (flags : UInt32)
  | waited (key : Handle) (mask : UInt32) (flg : WaitFlag) (flags : UInt32)

namespace Told

def key : Told → Handle
  | .seen key _ => key
  | .waited key _ _ _ => key

def found : Told → UInt32
  | .seen _ flags => flags
  | .waited _ _ _ flags => flags

def takes (key : Handle) (bit : Nat) : Told → Bool
  | .seen _ _ => false
  | .waited key' mask flg flags =>
      key' = key ∧ hasFlag mask bit ∧ hasFlag flags bit ∧ ¬ flg.includes .noClear

structure By (told : Told) (call : FlagCall) (reply : UInt32) : Prop where
  onKey : call.key = told.key
  isFound : reply = told.found
  valid : failed reply = false
  waited : ∀ key mask flg flags, told = .waited key mask flg flags →
    ∃ timeout, call = .wait key mask (waitOption flg) timeout

theorem By.takes {told : Told} {call : FlagCall} {reply : UInt32} (byCall : told.By call reply)
    {key : Handle} {bit : Nat} (takes : told.takes key bit = true) :
    call.takes key bit reply = true := by
  cases told with
  | seen key' flags => cases takes
  | waited key' mask flg flags =>
      obtain ⟨timeout, rfl⟩ := byCall.waited key' mask flg flags rfl
      have isReply : reply = flags := byCall.isFound
      subst isReply
      have noClear := (WaitFlag.waitOption_optionFor flg).2
      simp only [Told.takes, decide_eq_true_eq] at takes
      simp only [FlagCall.takes, decide_eq_true_eq]
      refine ⟨takes.1, takes.2.1, takes.2.2.1, byCall.valid, ?_⟩
      exact not_not.mp (mt noClear.mp takes.2.2.2)

theorem by_seen {call : FlagCall} {key : Handle} {reply : UInt32} (onKey : call.key = key)
    (valid : failed reply = false) : (Told.seen key reply).By call reply where
  onKey := onKey
  isFound := rfl
  valid := valid
  waited key mask flg flags same := by cases same

theorem by_waited {key : Handle} {mask reply : UInt32} {flg : WaitFlag} {timeout : Int}
    (valid : failed reply = false) : (Told.waited key mask flg reply).By
      (.wait key mask (waitOption flg) timeout) reply where
  onKey := rfl
  isFound := rfl
  valid := valid
  waited key' mask' flg' flags same := by
    cases same
    exact ⟨timeout, rfl⟩

end Told

/-- What the operations tell, and the words and the flags that they are to raise and that
they may take down. -/
structure Reporting (Thread Op Err Val : Type) where
  report : Thread → Op → Except Err Val → Option Told
  raising : Thread → Op → Option (Handle × UInt32)
  lowering : Thread → Op → Option (Handle × UInt32)

def concerns (key : Handle) (bit : Nat) (word : Option (Handle × UInt32)) : Bool :=
  word.any fun word => word.1 = key ∧ hasFlag word.2 bit

/-- What a wait may take down; nothing when it asks for `no_clear`. -/
def waitLowers (key : Handle) (mask : UInt32) (flg : WaitFlag) : Option (Handle × UInt32) :=
  if flg.includes .noClear then none else some (key, mask)

theorem lowers_wait {key key' : Handle} {bit : Nat} {mask reply : UInt32} {flg : WaitFlag}
    (timeout : Int) (keeps : concerns key bit (waitLowers key' mask flg) = false) :
    (FlagCall.wait key' mask (waitOption flg) timeout).lowers key bit reply = false := by
  have asksNoClear := (WaitFlag.waitOption_optionFor flg).2
  rw [FlagCall.lowers, decide_eq_false_iff_not]
  rintro ⟨onKey, isSet, _, taking⟩
  have takes : ¬ flg.includes .noClear := fun noClear => asksNoClear.mpr noClear taking
  rw [waitLowers, if_neg takes] at keeps
  simp [concerns, onKey, isSet] at keeps

theorem lowers_clear {key key' : Handle} {bit : Nat} {mask reply : UInt32}
    (keeps : concerns key bit (some (key', mask)) = false) :
    (FlagCall.clear key' mask).lowers key bit reply = false := by
  rw [FlagCall.lowers, decide_eq_false_iff_not]
  rintro ⟨onKey, isSet, _⟩
  simp [concerns, onKey, isSet] at keeps

/-- What is told has been answered; a set raises its flags once unless it fails, and no
other flag is raised or taken down. -/
structure Reports (body : Op → Script sig Err Val)
    (flagCall : Thread → Answered sig → Option (FlagCall × UInt32))
    (Truthful : Thread → Answered sig → Prop) (reporting : Reporting Thread Op Err Val) : Prop where
  answered : ∀ t op answers outcome told, Ends (body op) answers outcome →
    (∀ a ∈ answers, Truthful t a) → reporting.report t op outcome = some told →
      ∃ a ∈ answers, ∃ call reply, flagCall t a = some (call, reply) ∧ told.By call reply
  raised : ∀ t op answers rest key bit, Follows (body op) answers rest →
    (∀ a ∈ answers, Truthful t a) →
      (answers.countP fun a => raisedBy flagCall key bit (t, a)) ≤
        (concerns key bit (reporting.raising t op)).toNat
  failedSet : ∀ t op answers error key bit, Ends (body op) answers (.error error) →
    (∀ a ∈ answers, Truthful t a) → (answers.countP fun a => raisedBy flagCall key bit (t, a)) = 0
  completedSet : ∀ t op answers value key bit, Ends (body op) answers (.ok value) →
    (∀ a ∈ answers, Truthful t a) → concerns key bit (reporting.raising t op) = true →
      ∃ a ∈ answers, raisedBy flagCall key bit (t, a) = true
  lowered : ∀ t op answers rest key bit, Follows (body op) answers rest →
    concerns key bit (reporting.lowering t op) = false →
      ∀ a ∈ answers, loweredBy flagCall key bit (t, a) = false

variable {body : Op → Script sig Err Val} {reporting : Reporting Thread Op Err Val}

def reportsTaken (reporting : Reporting Thread Op Err Val) (key : Handle) (bit : Nat)
    (c : Config sig Thread Board Op Err Val) (i : Nat) : Bool :=
  match c.ops[i]?, c.outcome i with
  | some (t, op), some outcome => (reporting.report t op outcome).any fun told => told.takes key bit
  | _, _ => false

def raises (reporting : Reporting Thread Op Err Val) (key : Handle) (bit : Nat)
    (c : Config sig Thread Board Op Err Val) (i : Nat) : Bool :=
  match c.ops[i]?, c.outcome i with
  | some _, some (.error _) => false
  | some (t, op), _ => concerns key bit (reporting.raising t op)
  | none, _ => false

/-- Flags that are told were set from the start or raised by an operation, and a wait tells
what its caller asked for, all flags or one.  No flag is taken more often than it was set.
A flag that no operation may take down, as a wait with `no_clear` may not, stays. -/
structure Conserved (initial : Board) (reporting : Reporting Thread Op Err Val)
    (c : Config sig Thread Board Op Err Val) : Prop where
  shown : ∀ (i : Nat) (t : Thread) (op : Op) (outcome : Except Err Val) (told : Told),
    c.ops[i]? = some (t, op) → c.outcome i = some outcome →
      reporting.report t op outcome = some told →
        ∀ bit, on told.found bit ≤
          on (initial told.key) bit + c.tally (raises reporting told.key bit c)
  granted : ∀ (i : Nat) (t : Thread) (op : Op) (outcome : Except Err Val) (key : Handle)
    (mask : UInt32) (flg : WaitFlag) (flags : UInt32), c.ops[i]? = some (t, op) →
      c.outcome i = some outcome →
        reporting.report t op outcome = some (.waited key mask flg flags) →
          (flg.includes .all → flags &&& mask = mask) ∧
            (¬ flg.includes .all → flags &&& mask ≠ 0)
  once : ∀ (key : Handle) (bit : Nat),
    on (c.shared key) bit + c.tally (reportsTaken reporting key bit c) ≤
      on (initial key) bit + c.tally (raises reporting key bit c)
  kept : ∀ (key : Handle) (bit : Nat),
    (∀ (i : Nat) (t : Thread) (op : Op), c.ops[i]? = some (t, op) →
      concerns key bit (reporting.lowering t op) = false) →
    (hasFlag (initial key) bit = true ∨ ∃ (i : Nat) (t : Thread) (op : Op) (value : Val),
      c.ops[i]? = some (t, op) ∧ c.outcome i = some (.ok value) ∧
        concerns key bit (reporting.raising t op) = true) →
    hasFlag (c.shared key) bit = true

section Run
variable {c : Config sig Thread Board Op Err Val}

theorem OnBoard.truthful_answers (onBoard : OnBoard kernel flagCall Truthful)
    (explained : Explained kernel body c) {i : Nat} {t : Thread} {op : Op}
    (found : c.ops[i]? = some (t, op)) : ∀ a ∈ c.answers i, Truthful t a := by
  have all : ∀ {entries : List (Thread × Answered sig)} {board : Board},
      Run kernel.system Unrestricted entries board → ∀ e ∈ entries, Truthful e.1 e.2 := by
    intro entries board legal
    induction legal with
    | initial =>
        intro e member
        contradiction
    | step _ _ answered ih =>
        intro e member
        rcases List.mem_append.mp member with old | new
        · exact ih e old
        · cases List.mem_singleton.mp new
          exact onBoard.truthful _ _ _ _ _ answered
  intro a member
  have inHistory := (explained.mem_history_iff found).mpr member
  exact all explained.legal (t, a) (List.mem_map_of_mem inHistory)

theorem Reports.raised_le (reports : Reports body flagCall Truthful reporting)
    (onBoard : OnBoard kernel flagCall Truthful) (explained : Explained kernel body c)
    (key : Handle) (bit : Nat) :
    c.total (raisedBy flagCall key bit) ≤ c.tally (raises reporting key bit c) := by
  apply explained.total_le_tally
  intro i t op found
  have truthful := onBoard.truthful_answers explained found
  have bounded : ∀ rest, Follows (body op) (c.answers i) rest →
      ((c.answers i).countP fun a => raisedBy flagCall key bit (t, a)) ≤
        if concerns key bit (reporting.raising t op) = true then 1 else 0 := by
    intro rest follows
    rw [← Bool.cond_eq_ite, ← Bool.toNat]
    exact reports.raised t op _ rest key bit follows truthful
  rcases explained.all i t op found with ⟨outcome, ended⟩ | ⟨rest, inProgress⟩
  · have ends := explained.ends found ended
    cases outcome with
    | ok value =>
        simp only [raises, found, ended]
        exact bounded _ ends
    | error error =>
        rw [reports.failedSet t op _ error key bit ends truthful]
        exact Nat.zero_le _
  · obtain ⟨unended, op', found', follows⟩ := explained.running t i rest inProgress
    rw [found] at found'
    cases found'
    simp only [raises, found, unended]
    exact bounded _ follows

theorem Reports.taken_le (reports : Reports body flagCall Truthful reporting)
    (onBoard : OnBoard kernel flagCall Truthful) (explained : Explained kernel body c)
    (key : Handle) (bit : Nat) :
    c.tally (reportsTaken reporting key bit c) ≤ c.total (takenBy flagCall key bit) := by
  apply explained.tally_le_total
  intro i t op found taken
  simp only [reportsTaken, found] at taken
  split at taken
  · rename_i outcome same ended
    cases same
    have ends := explained.ends found ended
    obtain ⟨told, reported, takes⟩ := (Option.any_eq_true _ _).mp taken
    have truthful := onBoard.truthful_answers explained found
    obtain ⟨a, member, call, reply, isCall, byCall⟩ :=
      reports.answered t op _ outcome told ends truthful reported
    apply List.countP_pos_iff.mpr
    refine ⟨a, member, ?_⟩
    simp only [takenBy, isCall]
    exact byCall.takes takes
  · contradiction

theorem Reports.entry (reports : Reports body flagCall Truthful reporting)
    (onBoard : OnBoard kernel flagCall Truthful) (explained : Explained kernel body c) {i : Nat}
    {t : Thread} {op : Op} {outcome : Except Err Val} {told : Told}
    (found : c.ops[i]? = some (t, op)) (ended : c.outcome i = some outcome)
    (reported : reporting.report t op outcome = some told) :
    ∃ call reply, told.By call reply ∧
      Shown flagCall kernel.initial (c.history.map Prod.snd) call reply := by
  have accounted := onBoard.accounted explained.legal
  have ends := explained.ends found ended
  have truthful := onBoard.truthful_answers explained found
  obtain ⟨a, member, call, reply, isCall, byCall⟩ :=
    reports.answered t op _ outcome _ ends truthful reported
  have inHistory := (explained.mem_history_iff found).mpr member
  exact ⟨call, reply, byCall,
    accounted.shown (t, a) (List.mem_map_of_mem inHistory) call reply isCall byCall.valid⟩

theorem total_eq_countP (kind : Thread × Answered sig → Bool) :
    (c.history.map Prod.snd).countP kind = c.total kind := by
  rw [List.countP_map]
  rfl

theorem Reports.kept (reports : Reports body flagCall Truthful reporting)
    (onBoard : OnBoard kernel flagCall Truthful) (explained : Explained kernel body c)
    (key : Handle) (bit : Nat)
    (keeps : ∀ (i : Nat) (t : Thread) (op : Op), c.ops[i]? = some (t, op) →
      concerns key bit (reporting.lowering t op) = false)
    (up : hasFlag (kernel.initial key) bit = true ∨
      ∃ (i : Nat) (t : Thread) (op : Op) (value : Val), c.ops[i]? = some (t, op) ∧
        c.outcome i = some (.ok value) ∧ concerns key bit (reporting.raising t op) = true) :
    hasFlag (c.shared key) bit = true := by
  apply (onBoard.accounted explained.legal).kept key bit
  · intro entry member
    obtain ⟨⟨i, t, a⟩, inHistory, rfl⟩ := List.mem_map.mp member
    obtain ⟨op, found⟩ := explained.started i t a inHistory
    obtain ⟨rest, follows⟩ := explained.follows found
    exact reports.lowered t op _ rest key bit follows (keeps i t op found) a
      ((explained.mem_history_iff found).mp inHistory)
  · rcases up with start | ⟨i, t, op, value, found, ended, isSet⟩
    · exact .inl start
    · right
      have ends := explained.ends found ended
      have truthful := onBoard.truthful_answers explained found
      obtain ⟨a, member, raised⟩ :=
        reports.completedSet t op _ value key bit ends truthful isSet
      have inHistory := (explained.mem_history_iff found).mpr member
      exact ⟨(t, a), List.mem_map_of_mem inHistory, raised⟩

theorem Reports.conserved (reports : Reports body flagCall Truthful reporting)
    (onBoard : OnBoard kernel flagCall Truthful) (explained : Explained kernel body c) :
    Conserved kernel.initial reporting c where
  shown i t op outcome told found ended reported bit := by
    obtain ⟨call, reply, byCall, shown⟩ := reports.entry onBoard explained found ended reported
    have raised := shown.raised bit
    have atMost := reports.raised_le onBoard explained told.key bit
    rw [total_eq_countP, byCall.onKey, byCall.isFound] at raised
    omega
  granted i t op outcome key mask flg flags found ended reported := by
    obtain ⟨call, reply, byCall, shown⟩ := reports.entry onBoard explained found ended reported
    obtain ⟨timeout, isWait⟩ := byCall.waited key mask flg flags rfl
    have granted := shown.granted key mask _ timeout isWait
    have asksAll := (WaitFlag.waitOption_optionFor flg).1
    rw [byCall.isFound, Granted] at granted
    constructor
    · intro isAll
      rwa [if_pos (asksAll.mpr isAll)] at granted
    · intro isAny
      rwa [if_neg (mt asksAll.mp isAny)] at granted
  once key bit := by
    have balance := (onBoard.accounted explained.legal).balance key bit
    have taken := reports.taken_le onBoard explained key bit
    have raised := reports.raised_le onBoard explained key bit
    rw [total_eq_countP, total_eq_countP] at balance
    omega
  kept key bit keeps up := reports.kept onBoard explained key bit keeps up

end Run

end Threads

/-! ## The readings of a reply -/

section Readings
variable {sig : Signature} {what : String}

def flagsReading (what : String) (flags : UInt32) : Except SystemError UInt32 :=
  if failed flags then .error (flagsFailure (toInt32 flags) what) else .ok flags

def timedFlagsReading (timeout : Int) (what : String) (flagValue : UInt32) :
    Except SystemError (FlagStatus × UInt32) :=
  if timeout = 0 ∧ flagValue = osFlagsErrorResource then .ok (.timeout, flagValue)
  else if failed flagValue ∧ flagValue ≠ osFlagsErrorTimeout then
    .error (flagsFailure (toInt32 flagValue) what)
  else .ok (if flagValue = osFlagsErrorTimeout then .timeout else .noTimeout, flagValue)

theorem readFlags_eq (flags : UInt32) : (readFlags flags what : Script sig SystemError UInt32) =
    ofOutcome (flagsReading what flags) := by
  rw [readFlags, flagsReading]
  simp only [toInt32_neg_iff_failed]
  split <;> rfl

theorem readTimedFlags_eq (timeout : Int) (flagValue : UInt32) :
    (readTimedFlags timeout flagValue what : Script sig SystemError (FlagStatus × UInt32)) =
      ofOutcome (timedFlagsReading timeout what flagValue) := by
  rw [readTimedFlags, timedFlagsReading]
  simp only [and_osFlagsError_ne_zero_iff]
  split
  · rfl
  · split <;> rfl

theorem flagsReading_ok {flags value : UInt32} (read : flagsReading what flags = .ok value) :
    value = flags ∧ failed flags = false := by
  rw [flagsReading] at read
  split at read
  · cases read
  · rename_i valid
    exact ⟨(Except.ok.inj read).symm, Bool.not_eq_true _ ▸ valid⟩

theorem timedFlagsReading_noTimeout {timeout : Int} {flagValue value : UInt32}
    (read : timedFlagsReading timeout what flagValue = .ok (.noTimeout, value)) :
    value = flagValue ∧ failed flagValue = false := by
  rw [timedFlagsReading] at read
  split at read
  · cases read
  · split at read
    · cases read
    · rename_i notError
      obtain ⟨status, isValue⟩ := Prod.mk.inj (Except.ok.inj read)
      refine ⟨isValue.symm, ?_⟩
      cases isFailed : failed flagValue with
      | false => rfl
      | true =>
          have late : flagValue = osFlagsErrorTimeout :=
            not_not.mp fun other => notError ⟨isFailed, other⟩
          rw [if_pos late] at status
          cases status

end Readings

end CmsisCpp.FlagBoard
