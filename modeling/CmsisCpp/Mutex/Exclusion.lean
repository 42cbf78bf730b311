import CmsisCpp.Mutex
import CmsisCpp.ClientCalls

/-! # Mutual exclusion

Source: `include/Mutex.h`, `src/Mutex.cpp`.  Any number of threads lock, try and
unlock any number of mutexes of the four classes; an acquisition that has to wait
is answered when the mutex can be taken or the time is over.  The owner and the
depth that the kernel keeps are what the operations of the threads have reported. -/
set_option autoImplicit false

namespace CmsisCpp.Mutex

open CallScript ActionSystem Clients

/-! ## The four classes -/

def mutex : Script mutexSig SystemError Handle := baseTimedMutex "mutex" false

def recursiveMutex : Script mutexSig SystemError Handle := baseTimedMutex "recursive_mutex" true

def timedMutex : Script mutexSig SystemError Handle := baseTimedMutex "timed_mutex" false

def recursiveTimedMutex : Script mutexSig SystemError Handle :=
  baseTimedMutex "recursive_timed_mutex" true

inductive Kind
  | mutex
  | recursiveMutex
  | timedMutex
  | recursiveTimedMutex
  deriving DecidableEq, Repr

def Kind.construct : Kind → Script mutexSig SystemError Handle
  | .mutex => Mutex.mutex
  | .recursiveMutex => Mutex.recursiveMutex
  | .timedMutex => Mutex.timedMutex
  | .recursiveTimedMutex => Mutex.recursiveTimedMutex

def Kind.isRecursive : Kind → Bool
  | .mutex | .timedMutex => false
  | .recursiveMutex | .recursiveTimedMutex => true

theorem Kind.construct_eq (kind : Kind) :
    ∃ name, kind.construct = baseTimedMutex name kind.isRecursive := by
  cases kind <;> exact ⟨_, rfl⟩

/-! ## Threads on the mutexes -/

abbrev ThreadId := Handle

inductive Operation
  | lock (id : Handle)
  | unlock (id : Handle)
  | tryLock (id : Handle)
  | tryLockFor (id : Handle) (relTime : Duration)
  | tryLockUntil (id : Handle) (absTime now : Duration)

inductive Value
  | void
  | bool (value : Bool)
  deriving DecidableEq, Repr

def body (freq : Int) : Operation → Script mutexSig SystemError Value
  | .lock id => (Mutex.lock id).bind fun _ => .done .void
  | .unlock id => (Mutex.unlock id).bind fun _ => .done .void
  | .tryLock id => (Mutex.tryLock id).bind fun locked => .done (.bool locked)
  | .tryLockFor id relTime =>
      (Mutex.tryLockFor freq id relTime).bind fun locked => .done (.bool locked)
  | .tryLockUntil id absTime now =>
      (Mutex.tryLockUntil freq id absTime now).bind fun locked => .done (.bool locked)

abbrev Mutexes := Handle → Option OsMutex

def Refusal (m : OsMutex) (t : ThreadId) (timeout : Int) : OsStatus → Prop
  | .osOK => False
  | .osErrorResource => m.take t = none ∧ timeout = 0
  | .osErrorTimeout => m.take t = none ∧ timeout ≠ 0 ∧ timeout ≠ osWaitForever
  | _ => True

instance (m : OsMutex) (t : ThreadId) (timeout : Int) :
    (sta : OsStatus) → Decidable (Refusal m t timeout sta)
  | .osOK => .isFalse fun impossible => impossible
  | .osErrorResource => inferInstanceAs (Decidable (m.take t = none ∧ timeout = 0))
  | .osErrorTimeout =>
      inferInstanceAs (Decidable (m.take t = none ∧ timeout ≠ 0 ∧ timeout ≠ osWaitForever))
  | .osError | .osErrorParameter | .osErrorNoMemory | .osErrorISR | .osStatusReserved =>
      .isTrue trivial

def ReleaseRefusal (m : OsMutex) (t : ThreadId) : OsStatus → Prop
  | .osOK => False
  | .osErrorResource => m.release t = none
  | _ => True

instance (m : OsMutex) (t : ThreadId) : (sta : OsStatus) → Decidable (ReleaseRefusal m t sta)
  | .osOK => .isFalse fun impossible => impossible
  | .osErrorResource => inferInstanceAs (Decidable (m.release t = none))
  | .osError | .osErrorTimeout | .osErrorParameter | .osErrorNoMemory | .osErrorISR
  | .osStatusReserved => .isTrue trivial

/-- The kernel under the calls of thread `t`; the mutexes are neither created nor
deleted while the threads use them. -/
def answer (ms : Mutexes) (t : ThreadId) :
    (call : MutexCall) → mutexSig.Reply call → Option Mutexes
  | .osMutexAcquire id timeout, (sta : OsStatus) =>
      match ms id with
      | none => if sta = .osErrorParameter then some ms else none
      | some m =>
          if sta = .osOK then (m.take t).map fun taken => Function.update ms id (some taken)
          else if Refusal m t timeout sta then some ms else none
  | .osMutexRelease id, (sta : OsStatus) =>
      match ms id with
      | none => if sta = .osErrorParameter then some ms else none
      | some m =>
          if sta = .osOK then (m.release t).map fun freed => Function.update ms id (some freed)
          else if ReleaseRefusal m t sta then some ms else none
  | .osMutexNew _, _ => none
  | .osMutexDelete _, _ => none

def created (kinds : Handle → Option Kind) : Mutexes := fun id =>
  if id = 0 then none
  else (kinds id).bind fun kind =>
    (kind.construct.run (kernel ⟨0, id, fun m => (.osOK, m)⟩) none).2

theorem created_spec {kinds : Handle → Option Kind} {id : Handle} {m : OsMutex}
    (found : created kinds id = some m) :
    m.ownership = .free ∧ ∃ kind, kinds id = some kind ∧ m.recursive = kind.isRecursive := by
  simp only [created, Option.ite_none_left_eq_some] at found
  obtain ⟨valid, found⟩ := found
  obtain ⟨kind, isKind, found⟩ := Option.bind_eq_some_iff.mp found
  obtain ⟨name, same⟩ := kind.construct_eq
  have run := baseTimedMutex_run ⟨0, id, fun m => (.osOK, m)⟩ name kind.isRecursive valid
  obtain ⟨m', ran, free, recursive⟩ := run
  rw [same, ran, Option.some.injEq] at found
  subst found
  exact ⟨free, kind, isKind, recursive⟩

def service (kinds : Handle → Option Kind) : Service mutexSig ThreadId Mutexes where
  initial := created kinds
  answer := answer

abbrev Threads := Config mutexSig ThreadId Mutexes Operation SystemError Value

def system (freq : Int) (kinds : Handle → Option Kind) :
    ActionSystem Threads (Action mutexSig ThreadId Operation) :=
  Clients.system (service kinds) (body freq)

/-! ## Owners and depths -/

/-- How often thread `t` has acquired the mutex more than released it, according to
the kernel. -/
def OsMutex.depthOf (m : OsMutex) (t : ThreadId) : Nat :=
  match m.ownership with
  | .free => 0
  | .owned owner depth => if owner = t then depth else 0

def depthOf (ms : Mutexes) (id : Handle) (t : ThreadId) : Nat :=
  match ms id with
  | some m => m.depthOf t
  | none => 0

def OsMutex.WellFormed (m : OsMutex) : Prop :=
  ∀ owner depth, m.ownership = .owned owner depth →
    0 < depth ∧ (m.recursive = false → depth = 1)

section OsMutex
variable {m m' : OsMutex} {t other : ThreadId}

theorem OsMutex.take_spec (wellFormed : m.WellFormed) (taken : m.take t = some m') :
    m'.WellFormed ∧ m'.attrBits = m.attrBits ∧ m'.depthOf t = m.depthOf t + 1 ∧
      ∀ other, other ≠ t → m'.depthOf other = m.depthOf other := by
  obtain ⟨attrBits, ownership⟩ := m
  cases ownership with
  | free =>
      cases taken
      refine ⟨?_, rfl, ?_, ?_⟩
      · intro owner depth owned
        cases owned
        exact ⟨Nat.one_pos, fun _ => rfl⟩
      · simp [OsMutex.depthOf]
      · intro other ne
        simp [OsMutex.depthOf, Ne.symm ne]
  | owned owner depth =>
      simp only [OsMutex.take, Option.ite_none_right_eq_some, Option.some.injEq] at taken
      obtain ⟨⟨rfl, isRecursive⟩, rfl⟩ := taken
      refine ⟨?_, rfl, ?_, ?_⟩
      · intro owner' depth' owned
        cases owned
        refine ⟨Nat.succ_pos _, ?_⟩
        intro plain
        rw [OsMutex.recursive] at plain isRecursive
        simp [plain] at isRecursive
      · simp [OsMutex.depthOf]
      · intro other ne
        simp [OsMutex.depthOf, Ne.symm ne]

theorem OsMutex.release_spec (wellFormed : m.WellFormed) (freed : m.release t = some m') :
    m'.WellFormed ∧ m'.attrBits = m.attrBits ∧ m.depthOf t = m'.depthOf t + 1 ∧
      ∀ other, other ≠ t → m'.depthOf other = m.depthOf other := by
  obtain ⟨attrBits, ownership⟩ := m
  cases ownership with
  | free => cases freed
  | owned owner depth =>
      obtain ⟨positive, plain⟩ := wellFormed owner depth rfl
      simp only [OsMutex.release, Option.ite_none_right_eq_some, Option.some.injEq] at freed
      obtain ⟨rfl, rfl⟩ := freed
      by_cases last : depth ≤ 1
      · refine ⟨?_, rfl, ?_, ?_⟩
        · intro owner' depth' owned
          simp [last] at owned
        · have one : depth = 1 := by omega
          simp [OsMutex.depthOf, one]
        · intro other ne
          simp [OsMutex.depthOf, last, Ne.symm ne]
      · refine ⟨?_, rfl, ?_, ?_⟩
        · intro owner' depth' owned
          simp only [last, if_false, Ownership.owned.injEq] at owned
          obtain ⟨rfl, rfl⟩ := owned
          refine ⟨by omega, ?_⟩
          intro isPlain
          exact absurd (plain isPlain) (by omega)
        · simp only [OsMutex.depthOf, last, if_false, if_true]
          omega
        · intro other ne
          simp [OsMutex.depthOf, last, Ne.symm ne]

theorem OsMutex.depthOf_le_one (wellFormed : m.WellFormed) (plain : m.recursive = false) :
    m.depthOf t ≤ 1 := by
  rw [OsMutex.depthOf]
  split
  · exact Nat.zero_le _
  · rename_i owner depth owned
    obtain ⟨_, one⟩ := wellFormed owner depth owned
    rw [one plain]
    split <;> omega

theorem OsMutex.depthOf_owner (mine : 0 < m.depthOf t) (others : 0 < m.depthOf other) :
    t = other := by
  rw [OsMutex.depthOf] at mine others
  split at mine
  · omega
  · rename_i owner depth owned
    simp only [owned] at others
    split at mine
    · split at others
      · rename_i isMine isOthers
        exact isMine.symm.trans isOthers
      · omega
    · omega

end OsMutex

/-! ## What the answers add up to -/

def tookMutex (id : Handle) : Answered mutexSig → Bool
  | ⟨.osMutexAcquire id' _, (sta : OsStatus)⟩ => id' = id ∧ sta = .osOK
  | _ => false

def gaveMutex (id : Handle) : Answered mutexSig → Bool
  | ⟨.osMutexRelease id', (sta : OsStatus)⟩ => id' = id ∧ sta = .osOK
  | _ => false

structure Held (kinds : Handle → Option Kind) (entries : List (ThreadId × Answered mutexSig))
    (ms : Mutexes) : Prop where
  wellFormed : ∀ id m, ms id = some m → m.WellFormed
  plain : ∀ id m, ms id = some m → ∃ kind, kinds id = some kind ∧ m.recursive = kind.isRecursive
  balance : ∀ id t, entries.countP (fun entry => entry.1 = t ∧ tookMutex id entry.2) =
    (entries.countP fun entry => entry.1 = t ∧ gaveMutex id entry.2) + depthOf ms id t

section Kernel
variable {kinds : Handle → Option Kind} {entries : List (ThreadId × Answered mutexSig)}
  {ms ms' : Mutexes} {t : ThreadId}

theorem depthOf_update {id id' : Handle} {m : OsMutex} {other : ThreadId} :
    depthOf (Function.update ms id (some m)) id' other =
      if id' = id then m.depthOf other else depthOf ms id' other := by
  by_cases same : id' = id
  · subst same
    simp [depthOf]
  · simp [depthOf, same]

inductive AnswerChange (ms : Mutexes) (t : ThreadId) (a : Answered mutexSig) (ms' : Mutexes) : Prop
  | took {id : Handle} {m m' : OsMutex} (found : ms id = some m) (taken : m.take t = some m')
      (after : ms' = Function.update ms id (some m'))
      (took : ∀ id', tookMutex id' a = decide (id = id'))
      (gave : ∀ id', gaveMutex id' a = false)
  | gave {id : Handle} {m m' : OsMutex} (found : ms id = some m) (freed : m.release t = some m')
      (after : ms' = Function.update ms id (some m')) (took : ∀ id', tookMutex id' a = false)
      (gave : ∀ id', gaveMutex id' a = decide (id = id'))
  | kept (after : ms' = ms) (took : ∀ id', tookMutex id' a = false)
      (gave : ∀ id', gaveMutex id' a = false)

theorem answer_change {call : MutexCall} {reply : mutexSig.Reply call}
    (answered : answer ms t call reply = some ms') : AnswerChange ms t ⟨call, reply⟩ ms' := by
  cases call with
  | osMutexNew attr => cases answered
  | osMutexDelete id => cases answered
  | osMutexAcquire id timeout =>
      change OsStatus at reply
      simp only [answer] at answered
      split at answered
      · simp only [Option.ite_none_right_eq_some, Option.some.injEq] at answered
        obtain ⟨rfl, rfl⟩ := answered
        exact .kept rfl (fun _ => by simp [tookMutex]) fun _ => rfl
      · rename_i m found
        split at answered
        · rename_i ok
          obtain ⟨m', taken, rfl⟩ := Option.map_eq_some_iff.mp answered
          exact .took found taken rfl (fun _ => by simp [tookMutex, ok]) fun _ => rfl
        · rename_i failed
          simp only [Option.ite_none_right_eq_some, Option.some.injEq] at answered
          obtain ⟨_, rfl⟩ := answered
          exact .kept rfl (fun _ => by simp [tookMutex, failed]) fun _ => rfl
  | osMutexRelease id =>
      change OsStatus at reply
      simp only [answer] at answered
      split at answered
      · simp only [Option.ite_none_right_eq_some, Option.some.injEq] at answered
        obtain ⟨rfl, rfl⟩ := answered
        exact .kept rfl (fun _ => rfl) fun _ => by simp [gaveMutex]
      · rename_i m found
        split at answered
        · rename_i ok
          obtain ⟨m', freed, rfl⟩ := Option.map_eq_some_iff.mp answered
          exact .gave found freed rfl (fun _ => rfl) fun _ => by simp [gaveMutex, ok]
        · rename_i failed
          simp only [Option.ite_none_right_eq_some, Option.some.injEq] at answered
          obtain ⟨_, rfl⟩ := answered
          exact .kept rfl (fun _ => rfl) fun _ => by simp [gaveMutex, failed]

theorem Held.update {id : Handle} {m m' : OsMutex} (held : Held kinds entries ms)
    (found : ms id = some m) (wellFormed : m'.WellFormed) (same : m'.attrBits = m.attrBits) :
    (∀ id' m'', Function.update ms id (some m') id' = some m'' → m''.WellFormed) ∧
      ∀ id' m'', Function.update ms id (some m') id' = some m'' →
        ∃ kind, kinds id' = some kind ∧ m''.recursive = kind.isRecursive := by
  constructor
  · intro id' m'' found'
    by_cases isId : id' = id
    · subst isId
      rw [Function.update_self, Option.some.injEq] at found'
      exact found' ▸ wellFormed
    · rw [Function.update_of_ne isId] at found'
      exact held.wellFormed id' m'' found'
  · intro id' m'' found'
    by_cases isId : id' = id
    · subst isId
      rw [Function.update_self, Option.some.injEq] at found'
      obtain ⟨kind, isKind, recursive⟩ := held.plain id' m found
      refine ⟨kind, isKind, ?_⟩
      rw [← found', ← recursive, OsMutex.recursive, OsMutex.recursive, same]
    · rw [Function.update_of_ne isId] at found'
      exact held.plain id' m'' found'

theorem AnswerChange.depth {a : Answered mutexSig} (change : AnswerChange ms t a ms')
    (wellFormed : ∀ id m, ms id = some m → m.WellFormed) (id : Handle) (other : ThreadId) :
    depthOf ms' id other + (if t = other ∧ gaveMutex id a then 1 else 0) =
      depthOf ms id other + if t = other ∧ tookMutex id a then 1 else 0 := by
  cases change with
  | @took id' m m' found taken after took gave =>
      obtain ⟨_, _, mine, others⟩ := OsMutex.take_spec (wellFormed id' m found) taken
      have depth : depthOf ms id' other = m.depthOf other := by simp [depthOf, found]
      rw [after, depthOf_update, took, gave]
      by_cases isId : id = id' <;> by_cases isT : t = other
      · subst isT
        simp [isId, mine, depth]
      · simp [isId, isT, others other (Ne.symm isT), depth]
      · simp [isId, Ne.symm isId]
      · simp [isId, isT]
  | @gave id' m m' found freed after took gave =>
      obtain ⟨_, _, mine, others⟩ := OsMutex.release_spec (wellFormed id' m found) freed
      have depth : depthOf ms id' other = m.depthOf other := by simp [depthOf, found]
      rw [after, depthOf_update, took, gave]
      by_cases isId : id = id' <;> by_cases isT : t = other
      · subst isT
        simp [isId, mine, depth]
      · simp [isId, isT, others other (Ne.symm isT), depth]
      · simp [isId, Ne.symm isId]
      · simp [isId, isT]
  | kept after took gave => simp [after, took, gave]

theorem Held.kept {a : Answered mutexSig} (held : Held kinds entries ms)
    (change : AnswerChange ms t a ms') : (∀ id m, ms' id = some m → m.WellFormed) ∧
      ∀ id m, ms' id = some m → ∃ kind, kinds id = some kind ∧ m.recursive = kind.isRecursive := by
  cases change with
  | @took id m m' found taken after _ _ =>
      obtain ⟨wellFormed, same, _⟩ := OsMutex.take_spec (held.wellFormed id m found) taken
      rw [after]
      exact held.update found wellFormed same
  | @gave id m m' found freed after _ _ =>
      obtain ⟨wellFormed, same, _⟩ := OsMutex.release_spec (held.wellFormed id m found) freed
      rw [after]
      exact held.update found wellFormed same
  | kept after _ _ =>
      rw [after]
      exact ⟨held.wellFormed, held.plain⟩

theorem Held.step {a : Answered mutexSig} (held : Held kinds entries ms)
    (change : AnswerChange ms t a ms') : Held kinds (entries ++ [(t, a)]) ms' where
  wellFormed := (held.kept change).1
  plain := (held.kept change).2
  balance id other := by
    have before := held.balance id other
    have changed := change.depth held.wellFormed id other
    rw [List.countP_append, List.countP_append, List.countP_singleton, List.countP_singleton]
    simp only [decide_eq_true_eq]
    omega

theorem legal_held (legal : Run (service kinds).system Unrestricted entries ms) :
    Held kinds entries ms := by
  induction legal with
  | initial =>
      have free : ∀ id m, created kinds id = some m → m.ownership = .free :=
        fun id m found => (created_spec found).1
      constructor
      · intro id m found owner depth owned
        rw [free id m found] at owned
        contradiction
      · intro id m found
        exact (created_spec found).2
      · intro id t
        have none : depthOf (created kinds) id t = 0 := by
          rw [depthOf]
          split
          · rename_i m found
            simp [OsMutex.depthOf, free id m found]
          · rfl
        exact none.symm ▸ rfl
  | step _ _ answered ih => exact ih.step (answer_change answered)

end Kernel

/-! ## What an operation takes and gives -/

def Operation.acquires (id : Handle) : Operation → Except SystemError Value → Bool
  | .lock id', .ok _ => id' = id
  | .tryLock id', .ok (.bool locked) => id' = id ∧ locked
  | .tryLockFor id' _, .ok (.bool locked) => id' = id ∧ locked
  | .tryLockUntil id' _ _, .ok (.bool locked) => id' = id ∧ locked
  | _, _ => false

/-- The operation has released the mutex `id`, and returned. -/
def Operation.frees (id : Handle) : Operation → Except SystemError Value → Bool
  | .unlock id', .ok _ => id' = id
  | _, _ => false

/-- The operation is a release of the mutex `id` that has not failed so far. -/
def Operation.leaves (id : Handle) : Operation → Option (Except SystemError Value) → Bool
  | .unlock _, some (.error _) => false
  | .unlock id', _ => id' = id
  | _, _ => false

section Operations
variable {freq : Int} {id : Handle} {op : Operation} {answers : List (Answered mutexSig)}
  {rest : Script mutexSig SystemError Value} {outcome : Except SystemError Value}

theorem tryLockFor_ends {id' : Handle} {relTime : Duration}
    (ends : Ends ((Mutex.tryLockFor freq id' relTime).bind fun locked => .done (Value.bool locked))
      answers outcome) :
    answers.countP (tookMutex id) =
        (if (Operation.tryLockFor id' relTime).acquires id outcome then 1 else 0) ∧
      answers.countP (gaveMutex id) = 0 := by
  rw [Mutex.tryLockFor, tryLockForUsec] at ends
  rcases lt_or_ge relTime.toUsec 0 with negative | nonneg
  · rw [withTimeout_negative negative] at ends
    obtain ⟨rfl, rfl⟩ := ends_throw ends
    exact ⟨rfl, rfl⟩
  · rw [withTimeout_nonneg nonneg] at ends
    obtain ⟨(sta : OsStatus), later, rfl, after⟩ := ends_bind_ask ends
    obtain ⟨rfl, reported⟩ := ends_readStatus after
    refine ⟨?_, rfl⟩
    rw [List.countP_singleton]
    split at reported
    · rename_i refused
      simp [tookMutex, Operation.acquires, refused.2, reported]
    · split at reported
      · rename_i failed
        simp [tookMutex, Operation.acquires, failed.1, reported]
      · rename_i answered
        by_cases ok : sta = .osOK
        · simp [tookMutex, Operation.acquires, ok, reported]
        · have late : sta = .osErrorTimeout := not_not.mp fun other => answered ⟨ok, other⟩
          simp [tookMutex, Operation.acquires, late, reported]

/-- An acquisition takes its mutex if it reports so, a release gives its mutex if it
returns, and nothing else is taken or given. -/
theorem body_ends (ends : Ends (body freq op) answers outcome) :
    answers.countP (tookMutex id) = (if op.acquires id outcome then 1 else 0) ∧
      answers.countP (gaveMutex id) = if op.frees id outcome then 1 else 0 := by
  cases op with
  | lock id' =>
      rw [body, Mutex.lock] at ends
      obtain ⟨(sta : OsStatus), later, rfl, after⟩ := ends_bind_ask ends
      obtain ⟨rfl, rfl⟩ := ends_expectOk after
      by_cases ok : sta = .osOK <;>
        simp [tookMutex, gaveMutex, Operation.acquires, Operation.frees, ok]
  | unlock id' =>
      rw [body, Mutex.unlock] at ends
      obtain ⟨(sta : OsStatus), later, rfl, after⟩ := ends_bind_ask ends
      obtain ⟨rfl, rfl⟩ := ends_expectOk after
      by_cases ok : sta = .osOK <;>
        simp [tookMutex, gaveMutex, Operation.acquires, Operation.frees, ok]
  | tryLock id' =>
      rw [body, Mutex.tryLock] at ends
      obtain ⟨(sta : OsStatus), later, rfl, after⟩ := ends_bind_ask ends
      split at after
      · rename_i failed
        obtain ⟨rfl, rfl⟩ := ends_throw after
        simp [tookMutex, gaveMutex, Operation.acquires, Operation.frees, failed.1]
      · rename_i answered
        obtain ⟨rfl, rfl⟩ := ends_done after
        by_cases ok : sta = .osOK
        · simp [tookMutex, gaveMutex, Operation.acquires, Operation.frees, ok]
        · have late : sta = .osErrorTimeout := not_not.mp fun other => answered ⟨ok, other⟩
          simp [tookMutex, gaveMutex, Operation.acquires, Operation.frees, late]
  | tryLockFor id' relTime => exact tryLockFor_ends ends
  | tryLockUntil id' absTime now =>
      simp only [body, Mutex.tryLockUntil, withTimeLeft] at ends
      split at ends
      · obtain ⟨rfl, rfl⟩ := ends_done ends
        simp [Operation.acquires, Operation.frees]
      · have taken := @tryLockFor_ends freq id _ _ _ _ ends
        cases outcome with
        | error failure => exact taken
        | ok value => cases value <;> exact taken

theorem tryLockFor_follows {id' : Handle} {relTime : Duration}
    (follows : Follows ((Mutex.tryLockFor freq id' relTime).bind
      fun locked => .done (Value.bool locked)) answers rest) :
    answers.countP (gaveMutex id) = 0 := by
  rw [Mutex.tryLockFor, tryLockForUsec] at follows
  rcases lt_or_ge relTime.toUsec 0 with negative | nonneg
  · rw [withTimeout_negative negative] at follows
    obtain ⟨rfl, _⟩ := follows_throw follows
    rfl
  · rw [withTimeout_nonneg nonneg] at follows
    rcases follows_bind_ask follows with rfl | ⟨(sta : OsStatus), later, rfl, after⟩
    · rfl
    · rw [follows_readStatus after]
      rfl

/-- An operation in progress has given at most the mutex that it is to release. -/
theorem body_follows (follows : Follows (body freq op) answers rest) :
    answers.countP (gaveMutex id) ≤ if op.leaves id none then 1 else 0 := by
  cases op with
  | lock id' =>
      rw [body, Mutex.lock] at follows
      rcases follows_bind_ask follows with rfl | ⟨(sta : OsStatus), later, rfl, after⟩
      · exact Nat.zero_le _
      · rw [follows_expectOk after]
        exact Nat.zero_le _
  | unlock id' =>
      rw [body, Mutex.unlock] at follows
      rcases follows_bind_ask follows with rfl | ⟨(sta : OsStatus), later, rfl, after⟩
      · exact Nat.zero_le _
      · rw [follows_expectOk after, List.countP_singleton]
        by_cases same : id' = id <;> by_cases ok : sta = .osOK <;>
          simp [gaveMutex, Operation.leaves, same, ok]
  | tryLock id' =>
      rw [body, Mutex.tryLock] at follows
      rcases follows_bind_ask follows with rfl | ⟨(sta : OsStatus), later, rfl, after⟩
      · exact Nat.zero_le _
      · have none : later = [] := by
          split at after
          · exact (follows_throw after).1
          · exact (follows_done after).1
        rw [none]
        exact Nat.zero_le _
  | tryLockFor id' relTime =>
      rw [tryLockFor_follows follows]
      exact Nat.zero_le _
  | tryLockUntil id' absTime now =>
      simp only [body, Mutex.tryLockUntil, withTimeLeft] at follows
      split at follows
      · obtain ⟨rfl, _⟩ := follows_done follows
        exact Nat.zero_le _
      · rw [tryLockFor_follows follows]
        exact Nat.zero_le _

end Operations

/-! ## Every run -/

/-- How many operations of thread `t` have reported an acquisition of `id`. -/
def entered (c : Threads) (id : Handle) (t : ThreadId) : Nat :=
  c.reports t fun op outcome => op.acquires id outcome

def left (c : Threads) (id : Handle) (t : ThreadId) : Nat :=
  c.reports t fun op outcome => op.frees id outcome

/-- How many of its releases of `id` have started and not failed. -/
def leaving (c : Threads) (id : Handle) (t : ThreadId) : Nat :=
  c.tally fun i =>
    match c.ops[i]? with
    | some (t', op) => t' = t ∧ op.leaves id (c.outcome i)
    | none => false

/-- A thread is inside while it has entered more often than it has begun to leave:
one thread at a time, and only once if the mutex is not recursive.  Between its
operations a thread has the depth that these operations reported. -/
structure Exclusive (kinds : Handle → Option Kind) (c : Threads) : Prop where
  oneThread : ∀ (id : Handle) (t t' : ThreadId), leaving c id t < entered c id t →
    leaving c id t' < entered c id t' → t = t'
  plainOnce : ∀ (id : Handle) (t : ThreadId) (kind : Kind), kinds id = some kind →
    kind.isRecursive = false → entered c id t ≤ leaving c id t + 1
  accounted : ∀ (id : Handle) (t : ThreadId), c.running t = none →
    entered c id t = left c id t + depthOf c.shared id t

section Run
variable {freq : Int} {kinds : Handle → Option Kind} {c : Threads} {id : Handle} {t : ThreadId}

theorem Explained.leaving_ge (explained : Explained (service kinds) (body freq) c) :
    c.total (ofThread t (gaveMutex id)) ≤ leaving c id t := by
  apply explained.total_le_tally
  intro i t' op found
  simp only [found]
  rw [countP_ofThread]
  by_cases mine : t' = t
  · simp only [mine, if_true, true_and, Bool.decide_eq_true]
    rcases explained.all i t' op found with ⟨outcome, ended⟩ | ⟨rest, inProgress⟩
    · have ends := explained.ends found ended
      rw [(body_ends ends).2, ended]
      cases op <;> cases outcome <;> simp [Operation.frees, Operation.leaves]
    · obtain ⟨unended, op', found', follows⟩ := explained.running t' i rest inProgress
      rw [found] at found'
      cases found'
      rw [unended]
      exact body_follows follows
  · rw [if_neg mine]
    exact Nat.zero_le _

theorem Explained.held (explained : Explained (service kinds) (body freq) c) :
    Held kinds (c.history.map Prod.snd) c.shared :=
  legal_held explained.legal

theorem Explained.balance (explained : Explained (service kinds) (body freq) c) :
    c.total (ofThread t (tookMutex id)) =
      c.total (ofThread t (gaveMutex id)) + depthOf c.shared id t := by
  have balance := (Explained.held explained).balance id t
  rwa [List.countP_map, List.countP_map] at balance

theorem Explained.depth_ge (explained : Explained (service kinds) (body freq) c) :
    entered c id t ≤ leaving c id t + depthOf c.shared id t := by
  have took : entered c id t ≤ c.total (ofThread t (tookMutex id)) := by
    apply explained.reports_le
    intro op answers outcome ends acquired
    rw [(body_ends ends).1, if_pos acquired]
  have gave := @Explained.leaving_ge freq kinds c id t explained
  have balance := @Explained.balance freq kinds c id t explained
  omega

end Run

/-- In every interleaving of any number of threads and mutexes. -/
theorem run_exclusive {freq : Int} {kinds : Handle → Option Kind}
    {allowed : Threads → Action mutexSig ThreadId Operation → Prop}
    {acts : List (Action mutexSig ThreadId Operation)} {c : Threads}
    (run : Run (system freq kinds) allowed acts c) : Exclusive kinds c := by
  have explained := run_explained run
  have held := Explained.held explained
  constructor
  · intro id t t' inside inside'
    have depth := @Explained.depth_ge freq kinds c id t explained
    have depth' := @Explained.depth_ge freq kinds c id t' explained
    have mine : 0 < depthOf c.shared id t := by omega
    have others : 0 < depthOf c.shared id t' := by omega
    rw [depthOf] at mine others
    split at mine
    · rename_i m found
      simp only [found] at others
      exact OsMutex.depthOf_owner mine others
    · omega
  · intro id t kind isKind plain
    have depth := @Explained.depth_ge freq kinds c id t explained
    have once : depthOf c.shared id t ≤ 1 := by
      rw [depthOf]
      split
      · rename_i m found
        obtain ⟨kind', isKind', recursive⟩ := held.plain id m found
        rw [isKind, Option.some.injEq] at isKind'
        subst isKind'
        exact OsMutex.depthOf_le_one (held.wellFormed id m found) (recursive.trans plain)
      · exact Nat.zero_le _
    omega
  · intro id t idle
    have took : c.total (ofThread t (tookMutex id)) = entered c id t := by
      apply explained.reports_eq idle
      intro op answers outcome ends
      exact (body_ends ends).1
    have gave : c.total (ofThread t (gaveMutex id)) = left c id t := by
      apply explained.reports_eq idle
      intro op answers outcome ends
      exact (body_ends ends).2
    rw [← took, ← gave]
    exact Explained.balance explained

def replying (sta : OsStatus) : (call : MutexCall) → mutexSig.Reply call
  | .osMutexNew _ => (0 : Handle)
  | .osMutexDelete _ => sta
  | .osMutexAcquire _ _ => sta
  | .osMutexRelease _ => sta

/-- Thread 1 holds a recursive mutex twice, while 2 waits for it in vain and 3 has a
plain one. -/
def shared : List (Action mutexSig ThreadId Operation) :=
  [.start 1 (.lock 8), .start 2 (.tryLockFor 8 (.microseconds 5000)), .next 1 (replying .osOK),
    .finish 1, .start 1 (.tryLock 8), .start 3 (.lock 9), .next 3 (replying .osOK),
    .next 1 (replying .osOK), .next 2 (replying .osErrorTimeout), .finish 1, .finish 2, .finish 3,
    .start 1 (.unlock 8), .next 1 (replying .osOK), .start 3 (.lock 8)]

def sharedKinds : Handle → Option Kind
  | 8 => some .recursiveTimedMutex
  | 9 => some .mutex
  | _ => none

theorem shared_exclusive :
    ∃ c, Run (system 1000 sharedKinds) Unrestricted shared c ∧ Exclusive sharedKinds c := by
  have run : Run (system 1000 sharedKinds) Unrestricted _ _ := Run.replayed shared rfl
  exact ⟨_, run, run_exclusive run⟩

end CmsisCpp.Mutex
