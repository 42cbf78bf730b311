import CmsisCpp.OSException
import CmsisCpp.Library.CallScript
import CmsisCpp.Library.Nesting
import Mathlib.Logic.Function.Basic

/-! # Locking the scheduler

Source: `include/OS.h`, `src/OS.cpp`; `threads::enumerate` in `src/Threads.cpp` is a
user.  A `dispatch` object locks the scheduler of the kernel and keeps the state it
found, which its `unlock()` restores.  The objects share the one lock of the kernel,
which is no counter: what makes them nest is the state each of them keeps. -/
set_option autoImplicit false

namespace CmsisCpp.Dispatch

open CallScript

/-! ## The library -/

inductive DispatchCall
  | osKernelLock
  | osKernelRestoreLock (lock : Int)
  deriving DecidableEq, Repr

abbrev dispatchSig : Signature where
  Call := DispatchCall
  Reply
    | .osKernelLock => Int
    | .osKernelRestoreLock _ => Int

/-- An exception, and the member `m_previous_lock_state` it leaves behind. -/
structure Failure where
  error : SystemError
  previousLockState : Int
  deriving DecidableEq, Repr

/-- The constructor; its value is `m_previous_lock_state`. -/
def dispatch : Int := OsStatus.osError.code

/-- The value of `lock` and of `unlock` is the new `m_previous_lock_state`. -/
def lock : Script dispatchSig Failure Int :=
  .ask .osKernelLock fun (previousLockState : Int) =>
    if previousLockState < 0 then
      .throw ⟨⟨previousLockState, .os, "osKernelLock"⟩, previousLockState⟩
    else .done previousLockState

def unlock (previousLockState : Int) : Script dispatchSig Failure Int :=
  if previousLockState < 0 then
    .throw ⟨⟨previousLockState, .os, "Bad kernel previous state"⟩, previousLockState⟩
  else
    .ask (.osKernelRestoreLock previousLockState) fun (restored : Int) =>
      if restored < 0 then .throw ⟨⟨restored, .os, "osKernelRestoreLock"⟩, restored⟩
      else .done restored

/-! ## The kernel -/

inductive KernelLock
  | unlocked
  | locked
  deriving DecidableEq, Repr

def KernelLock.code : KernelLock → Int
  | .unlocked => 0
  | .locked => 1

def kernel : (call : DispatchCall) → KernelLock → dispatchSig.Reply call × KernelLock
  | .osKernelLock, k => (k.code, .locked)
  | .osKernelRestoreLock lock, k =>
      if lock = 0 then (KernelLock.unlocked.code, .unlocked)
      else if lock = 1 then (KernelLock.locked.code, .locked)
      else (OsStatus.osError.code, k)

theorem lock_run (k : KernelLock) : lock.run kernel k = (.ok k.code, .locked) := by
  cases k <;> rfl

theorem unlock_run (saved k : KernelLock) :
    (unlock saved.code).run kernel k = (.ok saved.code, saved) := by
  cases saved <;> rfl

/-! ## Any number of objects -/

/-- The kernel, `m_previous_lock_state` of every object, and the exception that has
ended the sequence, if any. -/
structure State (Obj : Type) where
  kernel : KernelLock
  previous : Obj → Int
  raised : Option SystemError

section Objects
variable {Obj : Type} [DecidableEq Obj]

open Nesting

def settle (s : State Obj) (o : Obj) : Except Failure Int × KernelLock → State Obj
  | (.ok previousLockState, k) => ⟨k, Function.update s.previous o previousLockState, none⟩
  | (.error failure, k) =>
      ⟨k, Function.update s.previous o failure.previousLockState, some failure.error⟩

def exec (s : State Obj) (event : Event Obj) : State Obj :=
  match s.raised with
  | some _ => s
  | none =>
      match event with
      | .enter o => settle s o (lock.run Dispatch.kernel s.kernel)
      | .leave o => settle s o ((unlock (s.previous o)).run Dispatch.kernel s.kernel)

def run (s : State Obj) (word : List (Event Obj)) : State Obj := word.foldl exec s

/-- A `std::lock_guard` on `o` around `inner`. -/
def lockGuard (o : Obj) (inner : List (Event Obj)) : List (Event Obj) :=
  .enter o :: inner ++ [.leave o]

/-! ## The saved states -/

def level (start : KernelLock) : List Obj → KernelLock
  | [] => start
  | _ :: _ => .locked

/-- Each held object keeps the state of the kernel without it and those locked after
it.  Nothing is said about the members of the others. -/
structure Saved (start : KernelLock) (held : List Obj) (s : State Obj) : Prop where
  noThrow : s.raised = none
  kernel : s.kernel = level start held
  saved : ∀ o rest, (o :: rest) <:+ held → s.previous o = (level start rest).code

theorem exec_saved (start : KernelLock) (held held' : List Obj) (event : Event Obj)
    (s : State Obj) (nodup : held.Nodup) (taken : step held event = some held')
    (inv : Saved start held s) : Saved start held' (exec s event) := by
  rcases step_cases taken with ⟨o, rfl, fresh, rfl⟩ | ⟨o, rfl, rfl⟩
  · have outcome : exec s (.enter o) =
        ⟨.locked, Function.update s.previous o s.kernel.code, none⟩ := by
      simp only [exec, inv.noThrow, lock_run, settle]
    rw [outcome]
    refine ⟨rfl, rfl, ?_⟩
    intro other rest isSuffix
    rcases List.suffix_cons_iff.mp isSuffix with same | earlier
    · cases same
      exact (Function.update_self ..).trans (congrArg KernelLock.code inv.kernel)
    · have different : other ≠ o := by
        intro same
        apply fresh
        rw [← same]
        exact earlier.subset List.mem_cons_self
      exact (Function.update_of_ne different ..).trans (inv.saved other rest earlier)
  · have own : s.previous o = (level start held').code := inv.saved o held' (List.suffix_refl _)
    have outcome : exec s (.leave o) =
        ⟨level start held', Function.update s.previous o (level start held').code, none⟩ := by
      simp only [exec, inv.noThrow, own, unlock_run, settle]
    rw [outcome]
    refine ⟨rfl, rfl, ?_⟩
    intro other rest isSuffix
    have different : other ≠ o := by
      intro same
      apply (List.nodup_cons.mp nodup).1
      rw [← same]
      exact isSuffix.subset List.mem_cons_self
    have earlier := inv.saved other rest (isSuffix.trans (List.suffix_cons o held'))
    exact (Function.update_of_ne different ..).trans earlier

theorem run_saved {start : KernelLock} {previous : Obj → Int} {word : List (Event Obj)}
    {held : List Obj} (nested : after [] word = some held) :
    Saved start held (run ⟨start, previous, none⟩ word) := by
  have base : Saved start [] (⟨start, previous, none⟩ : State Obj) := by
    refine ⟨rfl, rfl, ?_⟩
    intro o rest isSuffix
    cases List.suffix_nil.mp isSuffix
  exact after_invariant (Saved start) (exec_saved start) word List.nodup_nil nested base

structure Nests (start : State Obj) (word : List (Event Obj)) (held : List Obj) : Prop where
  noThrow : (run start word).raised = none
  locked : held ≠ [] → (run start word).kernel = .locked
  restored : ∀ before o inner, word = before ++ lockGuard o inner → after [] inner = some [] →
    (run start word).kernel = (run start before).kernel

/-- Well-nested calls on any objects, whatever their members hold from earlier use. -/
theorem run_nests (start : KernelLock) (previous : Obj → Int) {word : List (Event Obj)}
    {held : List Obj} (nested : after [] word = some held) :
    Nests ⟨start, previous, none⟩ word held := by
  have whole : Saved start held (run ⟨start, previous, none⟩ word) := run_saved nested
  refine ⟨whole.noThrow, ?_, ?_⟩
  · intro someHeld
    rw [whole.kernel]
    cases held with
    | nil => contradiction
    | cons o rest => rfl
  · intro before o inner split matched
    rw [split, after_append] at nested
    obtain ⟨heldBefore, nestedBefore, guarded⟩ := Option.bind_eq_some_iff.mp nested
    have same := after_matched matched guarded
    rw [whole.kernel, (run_saved nestedBefore).kernel, same]

end Objects

theorem run_nests_reused :
    Nests ⟨.unlocked, fun _ => dispatch, none⟩
      (lockGuard 1 [] ++ lockGuard 2 (lockGuard 1 [] ++ lockGuard 3 [])) [] :=
  run_nests .unlocked (fun _ => dispatch) (by decide)

end CmsisCpp.Dispatch
