import CmsisCpp.TimedCall

/-! # Mutexes

Source: `include/Mutex.h`, `src/Mutex.cpp`.

`mutex`, `recursive_mutex`, `timed_mutex` and `recursive_timed_mutex` are one class,
`base_timed_mutex`, constructed with or without the recursive attribute.  The
kernel's side of a mutex is `OsMutex`.  `try_lock` and `try_lock_for` read the
answer to an acquisition without waiting differently. -/
set_option autoImplicit false

namespace CmsisCpp.Mutex

open CallScript

def osMutexRecursive : Nat := 0x00000001
def osMutexPrioInherit : Nat := 0x00000002

structure MutexAttr where
  name : String
  attrBits : Nat
  deriving DecidableEq, Repr

inductive MutexCall
  | osMutexNew (attr : MutexAttr)
  | osMutexDelete (id : Handle)
  | osMutexAcquire (id : Handle) (timeout : Int)
  | osMutexRelease (id : Handle)
  deriving DecidableEq, Repr

abbrev mutexSig : Signature where
  Call := MutexCall
  Reply
    | .osMutexNew _ => Handle
    | .osMutexDelete _ => OsStatus
    | .osMutexAcquire _ _ => OsStatus
    | .osMutexRelease _ => OsStatus

/-! ## The library -/

/-- The constructor of `base_timed_mutex`; its value is `m_id`. -/
def baseTimedMutex (name : String) (recursive : Bool) : Script mutexSig SystemError Handle :=
  let attrBits := if recursive then osMutexPrioInherit ||| osMutexRecursive else osMutexPrioInherit
  .ask (.osMutexNew ⟨name, attrBits⟩) fun (id : Handle) =>
    if id = 0 then .throw (osFailure .osError "osMutexNew") else .done id

/-- The destructor. -/
def destroy (id : Handle) : Script mutexSig SystemError Unit :=
  .ask (.osMutexDelete id) fun (sta : OsStatus) => expectOk sta (strError "osMutexDelete" id)

def lock (id : Handle) : Script mutexSig SystemError Unit :=
  .ask (.osMutexAcquire id osWaitForever) fun (sta : OsStatus) =>
    expectOk sta (strError "osMutexAcquire" id)

def unlock (id : Handle) : Script mutexSig SystemError Unit :=
  .ask (.osMutexRelease id) fun (sta : OsStatus) => expectOk sta (strError "osMutexRelease" id)

/-- `base_timed_mutex::try_lock`; it has no case for `osErrorResource`. -/
def tryLock (id : Handle) : Script mutexSig SystemError Bool :=
  .ask (.osMutexAcquire id 0) fun (sta : OsStatus) =>
    if sta ≠ .osOK ∧ sta ≠ .osErrorTimeout then
      .throw (osFailure sta (strError "osMutexAcquire" id))
    else .done (sta != .osErrorTimeout)

def tryLockForUsec (freq : Int) (id : Handle) (usec : Int) : Script mutexSig SystemError Bool :=
  withTimeout freq usec "base_timed_mutex: negative timer" fun timeout =>
    .ask (.osMutexAcquire id timeout) fun (sta : OsStatus) =>
      readStatus timeout sta (strError "osMutexAcquire" id) false (sta != .osErrorTimeout)

/-- `base_timed_mutex::try_lock_for`; only the durations that convert to
microseconds without a cast are accepted. -/
def tryLockFor (freq : Int) (id : Handle) (relTime : Duration) : Script mutexSig SystemError Bool :=
  tryLockForUsec freq id relTime.toUsec

/-- `base_timed_mutex::try_lock_until`, where `Clock::now()` answers `now`. -/
def tryLockUntil (freq : Int) (id : Handle) (absTime now : Duration) :
    Script mutexSig SystemError Bool :=
  withTimeLeft (absTime.sub now) (tryLockFor freq id)

/-! ## The kernel -/

inductive Ownership
  | free
  | owned (owner : Handle) (depth : Nat)
  deriving DecidableEq, Repr

structure OsMutex where
  attrBits : Nat
  ownership : Ownership
  deriving DecidableEq, Repr

namespace OsMutex

def recursive (m : OsMutex) : Bool := m.attrBits &&& osMutexRecursive != 0

/-- The mutex after an acquisition by `caller`, when it can be acquired now. -/
def take (m : OsMutex) (caller : Handle) : Option OsMutex :=
  match m.ownership with
  | .free => some { m with ownership := .owned caller 1 }
  | .owned owner depth =>
      if owner = caller ∧ m.recursive = true then
        some { m with ownership := .owned owner (depth + 1) }
      else none

def release (m : OsMutex) (caller : Handle) : Option OsMutex :=
  match m.ownership with
  | .free => none
  | .owned owner depth =>
      if owner = caller then
        some { m with ownership := if depth ≤ 1 then .free else .owned owner (depth - 1) }
      else none

def Acquirable (m : OsMutex) (caller : Handle) : Prop :=
  m.ownership = .free ∨ (m.recursive = true ∧ ∃ depth, m.ownership = .owned caller depth)

theorem take_isSome_iff (m : OsMutex) (caller : Handle) :
    (m.take caller).isSome ↔ m.Acquirable caller := by
  rw [take, Acquirable]
  cases m.ownership with
  | free => simp
  | owned owner depth =>
      by_cases same : owner = caller <;> by_cases recursive : m.recursive = true <;>
        simp [same, recursive]

end OsMutex

/-- What a call finds around it: the thread that makes it, the identifier a
creation answers with (`0` when it fails), and what an acquisition that has to
wait ends in. -/
structure Environment where
  caller : Handle
  newId : Handle
  wait : OsMutex → OsStatus × OsMutex

def kernel (env : Environment) :
    (call : MutexCall) → Option OsMutex → mutexSig.Reply call × Option OsMutex
  | .osMutexNew attr, m =>
      if env.newId = 0 then (0, m) else (env.newId, some ⟨attr.attrBits, .free⟩)
  | .osMutexDelete _, some _ => (OsStatus.osOK, none)
  | .osMutexDelete _, none => (OsStatus.osErrorParameter, none)
  | .osMutexAcquire _ timeout, some m =>
      match m.take env.caller with
      | some taken => (OsStatus.osOK, some taken)
      | none =>
          if timeout = 0 then (OsStatus.osErrorResource, some m)
          else ((env.wait m).1, some (env.wait m).2)
  | .osMutexAcquire _ _, none => (OsStatus.osErrorParameter, none)
  | .osMutexRelease _, some m =>
      match m.release env.caller with
      | some released => (OsStatus.osOK, some released)
      | none => (OsStatus.osErrorResource, some m)
  | .osMutexRelease _, none => (OsStatus.osErrorParameter, none)

/-- A mutex is created free, with the attribute its constructor was given. -/
theorem baseTimedMutex_run (env : Environment) (name : String) (recursive : Bool)
    (created : env.newId ≠ 0) :
    ∃ m, (baseTimedMutex name recursive).run (kernel env) none = (.ok env.newId, some m) ∧
      m.ownership = .free ∧ m.recursive = recursive := by
  cases recursive with
  | false =>
      exact ⟨⟨osMutexPrioInherit, .free⟩, by simp [baseTimedMutex, kernel, created], rfl, rfl⟩
  | true =>
      exact ⟨⟨osMutexPrioInherit ||| osMutexRecursive, .free⟩,
        by simp [baseTimedMutex, kernel, created], rfl, rfl⟩

theorem baseTimedMutex_destroyed (env : Environment) (name : String) (recursive : Bool)
    (created : env.newId ≠ 0) :
    ((baseTimedMutex name recursive).bind destroy).run (kernel env) none = (.ok (), none) := by
  obtain ⟨m, run, _⟩ := baseTimedMutex_run env name recursive created
  rw [Script.run_bind_ok run]
  rfl

/-! ## `try_lock` -/

section TryLock
variable (env : Environment) (id : Handle) (m : OsMutex)

theorem tryLock_run_of_take {taken : OsMutex} (found : m.take env.caller = some taken) :
    (tryLock id).run (kernel env) (some m) = (.ok true, some taken) := by
  simp [tryLock, kernel, found]

/-- Contention is answered by `osErrorResource`, which `try_lock` throws. -/
theorem tryLock_run_of_none (contended : m.take env.caller = none) :
    (tryLock id).run (kernel env) (some m) =
      (.error (osFailure .osErrorResource (strError "osMutexAcquire" id)), some m) := by
  simp [tryLock, kernel, contended]

theorem timeoutTicks_zero (freq : Int) : timeoutTicks freq 0 = 0 := by
  rw [timeoutTicks_of_lt] <;> simp

theorem tryLockForUsec_zero_run (freq : Int) :
    (tryLockForUsec freq id 0).run (kernel env) (some m) =
      match m.take env.caller with
      | some taken => (.ok true, some taken)
      | none => (.ok false, some m) := by
  cases found : m.take env.caller with
  | some taken =>
      simp [tryLockForUsec, withTimeout_nonneg, readStatus, timeoutTicks_zero, kernel, found]
  | none =>
      simp [tryLockForUsec, withTimeout_nonneg, readStatus, timeoutTicks_zero, kernel, found]

/-- `try_lock` returns true exactly when it acquires, false with the mutex as it
was exactly when it cannot, throws in neither case, and agrees with
`try_lock_for` a zero time. -/
structure TryLockLaw (freq : Int) : Prop where
  acquires : ∀ taken, m.take env.caller = some taken →
    (tryLock id).run (kernel env) (some m) = (.ok true, some taken)
  trueOnly : ((tryLock id).run (kernel env) (some m)).1 = .ok true → (m.take env.caller).isSome
  refuses : m.take env.caller = none →
    (tryLock id).run (kernel env) (some m) = (.ok false, some m)
  falseOnly : ((tryLock id).run (kernel env) (some m)).1 = .ok false → m.take env.caller = none
  noThrow : ∀ error, ((tryLock id).run (kernel env) (some m)).1 ≠ .error error
  zeroTime : (tryLock id).run (kernel env) (some m) =
    (tryLockFor freq id (.microseconds 0)).run (kernel env) (some m)

/-- For any kind of mutex, owner, depth and caller: `try_lock` keeps its contract
exactly when the mutex can be acquired. -/
theorem tryLockLaw_iff (freq : Int) : TryLockLaw env id m freq ↔ m.Acquirable env.caller := by
  rw [← OsMutex.take_isSome_iff]
  cases found : m.take env.caller with
  | some taken =>
      have outcome := tryLock_run_of_take env id m found
      have sibling := tryLockForUsec_zero_run env id m freq
      rw [found] at sibling
      refine iff_of_true ?_ rfl
      constructor
      · intro other same
        rw [outcome]
        exact congrArg _ (found.symm.trans same)
      · intro _
        rw [found]
        rfl
      · intro none
        rw [found] at none
        contradiction
      · intro returned
        simp [outcome] at returned
      · intro error
        rw [outcome]
        simp
      · rw [outcome, tryLockFor, Duration.toUsec_microseconds_of_range (by decide) (by decide),
          sibling]
  | none =>
      have outcome := tryLock_run_of_none env id m found
      refine iff_of_false ?_ (by simp)
      intro law
      apply law.noThrow (osFailure .osErrorResource (strError "osMutexAcquire" id))
      rw [outcome]

end TryLock

theorem tryLock_contended :
    ¬ ∀ (env : Environment) (id : Handle) (m : OsMutex) (freq : Int), TryLockLaw env id m freq := by
  intro claimed
  have law := claimed ⟨2, 0, fun m => (.osErrorTimeout, m)⟩ 1 ⟨osMutexPrioInherit, .owned 1 1⟩ 1000
  exact law.noThrow _ rfl

end CmsisCpp.Mutex
