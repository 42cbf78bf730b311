import CmsisCpp.Semaphore.Release
import CmsisCpp.Library.Clients

/-! # The tokens of a semaphore

Source: `include/Semaphore.h`, `src/Semaphore.cpp`.  Any number of threads call
`acquire`, `try_acquire`, `try_acquire_for`, `try_acquire_until` and `release` on one
semaphore; the calls of one operation to the kernel interleave with those of the
others, and a call that has to wait is answered when it can be. -/
set_option autoImplicit false

namespace CmsisCpp.Semaphore

open CallScript ActionSystem Clients FixedWidth

/-! ## The rest of `base_semaphore` -/

inductive LifeCall
  | osSemaphoreNew (maxCount initialCount : Int)
  | osSemaphoreDelete (id : Handle)
  deriving DecidableEq, Repr

abbrev lifeSig : Signature where
  Call := LifeCall
  Reply
    | .osSemaphoreNew _ _ => Handle
    | .osSemaphoreDelete _ => OsStatus

/-- The constructor; its value is `m_id`. -/
def baseSemaphore (max desired : Int) : Script lifeSig SystemError Handle :=
  .ask (.osSemaphoreNew (unsigned 32 max) (unsigned 32 desired)) fun (id : Handle) =>
    if id = 0 then .throw (osFailure .osError "osSemaphoreNew") else .done id

/-- The destructor. -/
def destroy (id : Handle) : Script lifeSig SystemError Unit :=
  .ask (.osSemaphoreDelete id) fun (sta : OsStatus) =>
    expectOk sta (strError "osSemaphoreDelete" id)

/-- `counting_semaphore<LeastMaxValue>(desired)`. -/
def countingSemaphore (leastMaxValue desired : Int) : Script lifeSig SystemError Handle :=
  baseSemaphore leastMaxValue desired

def binarySemaphore (desired : Int) : Script lifeSig SystemError Handle :=
  countingSemaphore 1 desired

def acquire (id : Handle) : Script semaphoreSig SystemError Unit :=
  .ask (.osSemaphoreAcquire id osWaitForever) fun (sta : OsStatus) =>
    expectOk sta (strError "osSemaphoreAcquire" id)

def lifeKernel (newId : Handle) :
    (call : LifeCall) → Option OsSemaphore → lifeSig.Reply call × Option OsSemaphore
  | .osSemaphoreNew maxCount initialCount, s =>
      if newId = 0 ∨ maxCount = 0 then (0, s)
      else if bounded : initialCount.toNat ≤ maxCount.toNat then
        (newId, some ⟨maxCount.toNat, initialCount.toNat, bounded⟩)
      else (0, s)
  | .osSemaphoreDelete _, some _ => (OsStatus.osOK, none)
  | .osSemaphoreDelete _, none => (OsStatus.osErrorParameter, none)

/-- Whatever the arguments, a constructed semaphore has the tokens it was given, or
the constructor throws and there is none; negative and too large ones wrap. -/
theorem countingSemaphore_run (newId : Handle) (leastMaxValue desired : Int) :
    (countingSemaphore leastMaxValue desired).run (lifeKernel newId) none =
        (.error (osFailure .osError "osSemaphoreNew"), none) ∨
      ∃ s, (countingSemaphore leastMaxValue desired).run (lifeKernel newId) none =
          (.ok newId, some s) ∧ (s.count : Int) = unsigned 32 desired ∧
        (s.max : Int) = unsigned 32 leastMaxValue := by
  have maxNonneg := unsigned_32_nonneg leastMaxValue
  have nonneg := unsigned_32_nonneg desired
  simp only [countingSemaphore, baseSemaphore, Script.run_ask, lifeKernel]
  split
  · exact .inl rfl
  · rename_i room
    rw [not_or] at room
    split
    · rename_i bounded
      refine .inr ⟨⟨_, _, bounded⟩, ?_, Int.toNat_of_nonneg nonneg, Int.toNat_of_nonneg maxNonneg⟩
      rw [if_neg room.1]
      rfl
    · exact .inl rfl

theorem binarySemaphore_run (newId : Handle) (desired : Int) :
    (binarySemaphore desired).run (lifeKernel newId) none =
        (.error (osFailure .osError "osSemaphoreNew"), none) ∨
      ∃ s, (binarySemaphore desired).run (lifeKernel newId) none = (.ok newId, some s) ∧
        (s.count : Int) = unsigned 32 desired ∧ s.max = 1 := by
  rcases countingSemaphore_run newId 1 desired with threw | ⟨s, run, count, max⟩
  · exact .inl threw
  · rw [unsigned_32_of_range (by decide) (by decide)] at max
    exact .inr ⟨s, run, count, by exact_mod_cast max⟩

/-- The end of a semaphore that was constructed, or was not, leaves none in the kernel. -/
theorem countingSemaphore_destroyed (newId : Handle) (leastMaxValue desired : Int) :
    (((countingSemaphore leastMaxValue desired).bind destroy).run (lifeKernel newId) none).2 =
      none := by
  rcases countingSemaphore_run newId leastMaxValue desired with threw | ⟨s, run, _⟩
  · rw [Script.run_bind_error threw]
  · rw [Script.run_bind_ok run]
    rfl

/-! ## Threads on one semaphore -/

abbrev ThreadId := Nat

abbrev clientSig : Signature := semaphoreSig.sum releaseSig

inductive Operation
  | acquire
  | tryAcquire
  | tryAcquireFor (relTime : Duration)
  | tryAcquireUntil (absTime now : Duration)
  | release (update : Int)

inductive Value
  | void
  | bool (value : Bool)
  deriving DecidableEq, Repr

def body (freq : Int) (id : Handle) : Operation → Script clientSig ReleaseEnd Value
  | .acquire => (Semaphore.acquire id).inl .thrown fun _ => .void
  | .tryAcquire => (Semaphore.tryAcquire id).inl .thrown .bool
  | .tryAcquireFor relTime => (Semaphore.tryAcquireFor freq id relTime).inl .thrown .bool
  | .tryAcquireUntil absTime now => (Semaphore.tryAcquireUntil freq id absTime now).inl .thrown .bool
  | .release update => (Semaphore.release id update).inr (fun failure => failure) fun _ => .void

def ReleaseAnswer (s : OsSemaphore) : OsStatus → Prop
  | .osOK => s.count < s.max
  | .osErrorResource => s.count = s.max
  | _ => True

instance (s : OsSemaphore) : (sta : OsStatus) → Decidable (ReleaseAnswer s sta)
  | .osOK => inferInstanceAs (Decidable (s.count < s.max))
  | .osErrorResource => inferInstanceAs (Decidable (s.count = s.max))
  | .osError | .osErrorTimeout | .osErrorParameter | .osErrorNoMemory | .osErrorISR
  | .osStatusReserved => .isTrue trivial

/-- The kernel: `osOK` takes or gives a token, every other status leaves the
semaphore as it is. -/
def answer (s : OsSemaphore) (_ : ThreadId) :
    (call : clientSig.Call) → clientSig.Reply call → Option OsSemaphore
  | .inl (.osSemaphoreAcquire id timeout), (sta : OsStatus) =>
      if AcquireAnswer s.count (.osSemaphoreAcquire id timeout) sta then
        if sta = .osOK then s.take else some s
      else none
  | .inr (.osSemaphoreRelease _), (sta : OsStatus) =>
      if ReleaseAnswer s sta then if sta = .osOK then s.give else some s else none

def service (created : OsSemaphore) : Service clientSig ThreadId OsSemaphore where
  initial := created
  answer := answer

abbrev Threads := Config clientSig ThreadId OsSemaphore Operation ReleaseEnd Value

def system (freq : Int) (id : Handle) (created : OsSemaphore) :
    ActionSystem Threads (Action clientSig ThreadId Operation) :=
  Clients.system (service created) (body freq id)

/-! ## Tokens taken and given -/

def tookToken : Answered clientSig → Bool
  | ⟨.inl (.osSemaphoreAcquire _ _), (sta : OsStatus)⟩ => sta = .osOK
  | ⟨.inr _, _⟩ => false

def gaveToken : Answered clientSig → Bool
  | ⟨.inl _, _⟩ => false
  | ⟨.inr (.osSemaphoreRelease _), (sta : OsStatus)⟩ => sta = .osOK

def Operation.obtains : Operation → Except ReleaseEnd Value → Bool
  | .release _, _ => false
  | .acquire, .ok _ => true
  | _, .ok (.bool value) => value
  | _, _ => false

def Operation.amount : Operation → Nat
  | .release update => update.toNat
  | _ => 0

section Kernel
variable {s s' : OsSemaphore} {t : ThreadId}

theorem answer_balance {call : clientSig.Call} {reply : clientSig.Reply call}
    (answered : answer s t call reply = some s') :
    s'.max = s.max ∧ s'.count + (if tookToken ⟨call, reply⟩ then 1 else 0) =
      s.count + if gaveToken ⟨call, reply⟩ then 1 else 0 := by
  rcases call with ⟨id, timeout⟩ | ⟨id⟩
  · change OsStatus at reply
    simp only [answer, Option.ite_none_right_eq_some] at answered
    obtain ⟨possible, answered⟩ := answered
    by_cases ok : reply = .osOK
    · rw [if_pos ok, OsSemaphore.take, Option.ite_none_right_eq_some, Option.some.injEq] at answered
      obtain ⟨token, rfl⟩ := answered
      simp only [tookToken, gaveToken, ok, decide_true, if_true, Bool.false_eq_true, if_false]
      exact ⟨trivial, by omega⟩
    · rw [if_neg ok, Option.some.injEq] at answered
      subst answered
      simp [tookToken, gaveToken, ok]
  · change OsStatus at reply
    simp only [answer, Option.ite_none_right_eq_some] at answered
    obtain ⟨possible, answered⟩ := answered
    by_cases ok : reply = .osOK
    · subst ok
      have fits : s.count < s.max := possible
      rw [if_pos rfl, OsSemaphore.give_of_lt fits, Option.some.injEq] at answered
      subst answered
      simp [tookToken, gaveToken]
    · rw [if_neg ok, Option.some.injEq] at answered
      subst answered
      simp [tookToken, gaveToken, ok]

theorem legal_balance {created : OsSemaphore} {entries : List (ThreadId × Answered clientSig)}
    (legal : Run (service created).system Unrestricted entries s) :
    s.max = created.max ∧ s.count + entries.countP (fun entry => tookToken entry.2) =
      created.count + entries.countP fun entry => gaveToken entry.2 := by
  induction legal with
  | initial => exact ⟨rfl, rfl⟩
  | @step entries s s' entry _ _ answered ih =>
      obtain ⟨t, ⟨call, reply⟩⟩ := entry
      obtain ⟨max, balance⟩ := ih
      obtain ⟨max', balance'⟩ := @answer_balance s s' t call reply answered
      rw [List.countP_append, List.countP_append, List.countP_singleton, List.countP_singleton]
      dsimp only
      exact ⟨max'.trans max, by omega⟩

end Kernel

/-! ## What an operation takes and gives -/

section Operations
variable {Err Val : Type} {answers : List (Answered clientSig)}
  {rest : Script clientSig ReleaseEnd Value} {outcome : Except ReleaseEnd Value}

theorem follows_inl_gaves {error : Err → ReleaseEnd} {value : Val → Value} :
    ∀ {answers : List (Answered clientSig)} {script : Script semaphoreSig Err Val},
      Follows (script.inl error value : Script clientSig ReleaseEnd Value) answers rest →
        answers.countP gaveToken = 0 := by
  intro answers
  induction answers with
  | nil => intro _ _; rfl
  | cons a answers ih =>
      intro script follows
      cases script with
      | done v => cases follows
      | throw e => cases follows
      | ask call next =>
          cases follows with
          | answer later => exact ih later

theorem follows_inr_tooks {error : Err → ReleaseEnd} {value : Val → Value} :
    ∀ {answers : List (Answered clientSig)} {script : Script releaseSig Err Val},
      Follows (script.inr error value : Script clientSig ReleaseEnd Value) answers rest →
        answers.countP tookToken = 0 := by
  intro answers
  induction answers with
  | nil => intro _ _; rfl
  | cons a answers ih =>
      intro script follows
      cases script with
      | done v => cases follows
      | throw e => cases follows
      | ask call next =>
          cases follows with
          | answer later => exact ih later

theorem tryAcquireFor_ends {freq : Int} {id : Handle} {relTime : Duration}
    (ends : Ends ((tryAcquireFor freq id relTime).inl .thrown .bool) answers outcome) :
    answers.countP tookToken =
      if (Operation.tryAcquireFor relTime).obtains outcome then 1 else 0 := by
  rcases lt_or_ge relTime.toUsec 0 with negative | nonneg
  · rw [tryAcquireFor, tryAcquireForUsec_negative id negative] at ends
    obtain ⟨rfl, rfl⟩ := ends_throw ends
    rfl
  · rw [tryAcquireFor, tryAcquireForUsec, withTimeout_nonneg nonneg] at ends
    obtain ⟨(sta : OsStatus), later, rfl, after⟩ := ends_inl ends
    unfold readStatus at after
    split at after
    · rename_i refused
      obtain ⟨rfl, rfl⟩ := ends_done after
      rw [refused.2]
      rfl
    · split at after
      · rename_i failed
        obtain ⟨rfl, rfl⟩ := ends_throw after
        simp [tookToken, Operation.obtains, failed.1]
      · obtain ⟨rfl, rfl⟩ := ends_done after
        simp [tookToken, Operation.obtains]

/-- An acquisition takes one token if it reports one, else none. -/
theorem body_tookToken {freq : Int} {id : Handle} {op : Operation}
    (ends : Ends (body freq id op) answers outcome) :
    answers.countP tookToken = if op.obtains outcome then 1 else 0 := by
  cases op with
  | acquire =>
      rw [body, Semaphore.acquire] at ends
      obtain ⟨(sta : OsStatus), later, rfl, after⟩ := ends_inl ends
      unfold expectOk at after
      split at after
      · rename_i failed
        obtain ⟨rfl, rfl⟩ := ends_throw after
        simp [tookToken, Operation.obtains, failed]
      · rename_i ok
        obtain ⟨rfl, rfl⟩ := ends_done after
        simp only [not_not] at ok
        rw [ok]
        rfl
  | tryAcquire =>
      rw [body, Semaphore.tryAcquire] at ends
      obtain ⟨(sta : OsStatus), later, rfl, after⟩ := ends_inl ends
      obtain ⟨rfl, rfl⟩ := ends_done after
      simp [tookToken, Operation.obtains]
  | tryAcquireFor relTime => exact tryAcquireFor_ends ends
  | tryAcquireUntil absTime now =>
      simp only [body, tryAcquireUntil, withTimeLeft] at ends
      split at ends
      · obtain ⟨rfl, rfl⟩ := ends_done ends
        rfl
      · have taken := tryAcquireFor_ends ends
        cases outcome with
        | error failure => exact taken
        | ok value => cases value <;> exact taken
  | release update =>
      rw [follows_inr_tooks ends]
      rfl

section Release
variable {id : Handle} {error : ReleaseEnd → ReleaseEnd} {value : Unit → Value}

/-- A release in progress has not given more than it was asked for. -/
theorem release_follows : ∀ {answers : List (Answered clientSig)} {update : Int},
    Follows ((release id update).inr error value : Script clientSig ReleaseEnd Value)
      answers rest → 0 ≤ update → (answers.countP gaveToken : Int) ≤ update := by
  intro answers
  induction answers with
  | nil =>
      intro update _ nonneg
      exact nonneg
  | cons a answers ih =>
      intro update follows nonneg
      have inRange : ¬ update ≤ ptrdiffMin := by rw [ptrdiffMin]; omega
      rw [release, if_neg inRange] at follows
      split at follows
      · cases follows
      · rcases follows_inr follows with none | ⟨(sta : OsStatus), later, same, follows⟩
        · contradiction
        · cases same
          split at follows
          · rename_i failed
            obtain ⟨rfl, _⟩ := follows_throw follows
            simp [gaveToken, failed, nonneg]
          · have atMost := ih follows (by omega)
            rw [List.countP_cons]
            split <;> omega

theorem release_ends : ∀ {answers : List (Answered clientSig)} {update : Int} {result : Value},
    Ends ((release id update).inr error value : Script clientSig ReleaseEnd Value) answers
      (.ok result) → (answers.countP gaveToken : Int) = update := by
  intro answers
  induction answers with
  | nil =>
      intro update result ends
      rw [release] at ends
      split at ends
      · obtain ⟨_, failed⟩ := ends_throw ends
        contradiction
      · split at ends
        · rename_i zero
          exact zero.symm
        · obtain ⟨_, _, answered, _⟩ := ends_inr ends
          contradiction
  | cons a answers ih =>
      intro update result ends
      rw [release] at ends
      split at ends
      · cases ends
      · split at ends
        · cases ends
        · obtain ⟨(sta : OsStatus), later, same, ends⟩ := ends_inr ends
          cases same
          split at ends
          · obtain ⟨_, failed⟩ := ends_throw ends
            contradiction
          · rename_i ok
            simp only [not_not] at ok
            have given := ih ends
            rw [ok, List.countP_cons_of_pos (by rfl)]
            omega

end Release

theorem body_gaveToken {freq : Int} {id : Handle} {op : Operation}
    (follows : Follows (body freq id op) answers rest)
    (asked : ∀ update, op = .release update → 0 ≤ update) :
    answers.countP gaveToken ≤ op.amount := by
  cases op with
  | release update =>
      have atMost := release_follows follows (asked update rfl)
      rw [Operation.amount]
      omega
  | acquire | tryAcquire | tryAcquireFor | tryAcquireUntil =>
      rw [follows_inl_gaves follows]
      exact Nat.zero_le _

theorem body_gaveToken_eq {freq : Int} {id : Handle} {op : Operation}
    (ends : Ends (body freq id op) answers outcome)
    (returned : ∀ update, op = .release update → ∃ value, outcome = .ok value) :
    answers.countP gaveToken = op.amount := by
  cases op with
  | release update =>
      obtain ⟨value, rfl⟩ := returned update rfl
      have given := release_ends ends
      rw [Operation.amount]
      omega
  | acquire | tryAcquire | tryAcquireFor | tryAcquireUntil => exact follows_inl_gaves ends

end Operations

/-! ## Every run -/

def obtained (c : Threads) (i : Nat) : Bool :=
  match c.ops[i]?, c.outcome i with
  | some (_, op), some outcome => op.obtains outcome
  | _, _ => false

def asked (c : Threads) (i : Nat) : Nat :=
  match c.ops[i]? with
  | some (_, op) => op.amount
  | none => 0

def AsksForTokens (c : Threads) : Prop :=
  ∀ (i : Nat) (t : ThreadId) (update : Int), c.ops[i]? = some (t, .release update) → 0 ≤ update

/-- Every operation has ended, and the releases by returning. -/
structure AtRest (c : Threads) : Prop where
  completed : ∀ (i : Nat) (t : ThreadId) (op : Operation), c.ops[i]? = some (t, op) →
    ∃ outcome, c.outcome i = some outcome
  released : ∀ (i : Nat) (t : ThreadId) (update : Int), c.ops[i]? = some (t, .release update) →
    ∃ value, c.outcome i = some (.ok value)

/-- The tokens that acquisitions report and those left are among the tokens the
semaphore was created with and was given; at rest they are exactly these. -/
structure TokensConserved (created : OsSemaphore) (c : Threads) : Prop where
  bounded : c.shared.count ≤ created.max
  noneInvented : AsksForTokens c →
    c.shared.count + c.tally (obtained c) ≤
      created.count + ∑ i ∈ Finset.range c.ops.length, asked c i
  noneLost : AtRest c →
    c.shared.count + c.tally (obtained c) =
      created.count + ∑ i ∈ Finset.range c.ops.length, asked c i

section Run
variable {freq : Int} {id : Handle} {created : OsSemaphore} {c : Threads}

theorem Explained.balance (explained : Explained (service created) (body freq id) c) :
    c.shared.max = created.max ∧
      c.shared.count + c.total (fun entry => tookToken entry.2) =
        created.count + c.total fun entry => gaveToken entry.2 := by
  have balance := legal_balance explained.legal
  rwa [List.countP_map, List.countP_map] at balance

theorem Explained.obtained_le (explained : Explained (service created) (body freq id) c) :
    c.tally (obtained c) ≤ c.total fun entry => tookToken entry.2 := by
  apply explained.tally_le_total
  intro i t op found counted
  simp only [obtained, found] at counted
  split at counted
  · rename_i outcome same ended
    cases same
    have ends := explained.ends found ended
    rw [body_tookToken ends, if_pos counted]
  · contradiction

theorem Explained.obtained_eq (explained : Explained (service created) (body freq id) c)
    (atRest : AtRest c) : c.total (fun entry => tookToken entry.2) = c.tally (obtained c) := by
  apply explained.total_eq_tally
  intro i t op found
  obtain ⟨outcome, ended⟩ := atRest.completed i t op found
  have ends := explained.ends found ended
  rw [body_tookToken ends]
  simp [obtained, found, ended]

theorem Explained.given_le (explained : Explained (service created) (body freq id) c)
    (asks : AsksForTokens c) : c.total (fun entry => gaveToken entry.2) ≤
      ∑ i ∈ Finset.range c.ops.length, asked c i := by
  apply explained.total_le_sum
  intro i t op found
  obtain ⟨rest, follows⟩ := explained.follows found
  simp only [asked, found]
  apply body_gaveToken follows
  rintro update rfl
  exact asks i t update found

theorem Explained.given_eq (explained : Explained (service created) (body freq id) c)
    (atRest : AtRest c) : c.total (fun entry => gaveToken entry.2) =
      ∑ i ∈ Finset.range c.ops.length, asked c i := by
  apply explained.total_eq_sum
  intro i t op found
  obtain ⟨outcome, ended⟩ := atRest.completed i t op found
  have ends := explained.ends found ended
  simp only [asked, found]
  apply body_gaveToken_eq ends
  rintro update rfl
  obtain ⟨value, returned⟩ := atRest.released i t update found
  rw [ended] at returned
  exact ⟨value, Option.some.inj returned⟩

end Run

/-- In every interleaving of any number of operations. -/
theorem run_tokensConserved {freq : Int} {id : Handle} {created : OsSemaphore}
    {allowed : Threads → Action clientSig ThreadId Operation → Prop}
    {acts : List (Action clientSig ThreadId Operation)} {c : Threads}
    (run : Run (system freq id created) allowed acts c) : TokensConserved created c := by
  have explained := run_explained run
  obtain ⟨max, balance⟩ := Explained.balance explained
  have atLeast := Explained.obtained_le explained
  constructor
  · rw [← max]
    exact c.shared.bounded
  · intro asks
    have given := Explained.given_le explained asks
    omega
  · intro atRest
    have taken := Explained.obtained_eq explained atRest
    have given := Explained.given_eq explained atRest
    omega

def replying (sta : OsStatus) : (call : clientSig.Call) → clientSig.Reply call
  | .inl (.osSemaphoreAcquire _ _) => sta
  | .inr (.osSemaphoreRelease _) => sta

def contended : List (Action clientSig ThreadId Operation) :=
  [.start 0 (.tryAcquireFor (.microseconds 5000)), .start 1 .acquire, .start 2 .tryAcquire,
    .next 1 (replying .osOK), .next 0 (replying .osErrorTimeout),
    .next 2 (replying .osErrorResource), .finish 2, .finish 0, .finish 1]

theorem contended_conserved :
    ∃ c, Run (system 1000 1 ⟨2, 1, by decide⟩) Unrestricted contended c ∧
      TokensConserved ⟨2, 1, by decide⟩ c := by
  have run : Run (system 1000 1 ⟨2, 1, by decide⟩) Unrestricted _ _ := Run.replayed contended rfl
  exact ⟨_, run, run_tokensConserved run⟩

end CmsisCpp.Semaphore
