import Mathlib.Tactic.Common
import CmsisCpp.Thread.Steps

/-! # What the end of a `thread` object does to OS threads

`~thread_impl` asks the OS to terminate the thread with the identifier it has
stored, also after a `join` or a `detach`.  A detached thread that is still running
is killed by the end of its object, and after the OS has given the identifier to a
new thread that one is.  In a run in which no object ends while a thread of
concern runs under its identifier, detached threads live on and the end of a
joined object terminates nothing. -/
set_option autoImplicit false

namespace CmsisCpp.Thread

open ActionSystem CallScript

/-! ## What a step does to OS threads -/

inductive Change (s : State) (a : Action) (s' : State) : Prop
  | silent (threads : s'.os.threads = s.os.threads) (impls : s'.impls = s.impls)
      (allocated : s'.allocated = s.allocated) (log : s'.log = s.log)
  | created {id : Handle} {thread : OsThread} (free : s.os.threads id = none)
      (argument : thread.argument = s.allocated) (running : thread.running = true)
      (threads : s'.os.threads = Function.update s.os.threads id (some thread))
      (impls : s'.impls = Function.update s.impls s.allocated (some ⟨id, false⟩))
      (allocated : s'.allocated = s.allocated + 1)
      (log : s'.log = s.log ++ [.created thread.serial s.allocated])
  | joined {i : ImplId} {impl : ThreadImpl} {thread : OsThread} (found : s.impls i = some impl)
      (present : s.os.threads impl.id = some thread) (hasEnded : thread.running = false)
      (threads : s'.os.threads = Function.update s.os.threads impl.id none)
      (impls : s'.impls = Function.update s.impls i (some { impl with detached := true }))
      (allocated : s'.allocated = s.allocated) (log : s'.log = s.log ++ [.joined i])
  | detached {i : ImplId} {impl : ThreadImpl} {thread : OsThread} (found : s.impls i = some impl)
      (present : s.os.threads impl.id = some thread)
      (threads : s'.os.threads = Function.update s.os.threads impl.id
        (if thread.running = true then some { thread with detached := true } else none))
      (impls : s'.impls = Function.update s.impls i (some { impl with detached := true }))
      (allocated : s'.allocated = s.allocated) (log : s'.log = s.log ++ [.detached thread.serial])
  | finished {id : Handle} {thread : OsThread} (present : s.os.threads id = some thread)
      (threads : s'.os.threads = Function.update s.os.threads id thread.ended)
      (impls : s'.impls = s.impls) (allocated : s'.allocated = s.allocated)
      (log : s'.log = s.log ++ [.finished thread.serial])
  | destroyed {i : ImplId} {impl : ThreadImpl} (found : s.impls i = some impl)
      (quiet : ∀ thread, s.os.threads impl.id = some thread → thread.running = false)
      (threads : s'.os.threads = s.os.threads) (impls : s'.impls = Function.update s.impls i none)
      (allocated : s'.allocated = s.allocated) (log : s'.log = s.log ++ [.destroyed i])
  | killed {i : ImplId} {impl : ThreadImpl} {thread : OsThread} {o : ObjId} {env : Environment}
      (act : a = .user (.destroy o) env) (owned : s.objs o = some (some i))
      (found : s.impls i = some impl) (present : s.os.threads impl.id = some thread)
      (running : thread.running = true)
      (threads : s'.os.threads = Function.update s.os.threads impl.id thread.ended)
      (impls : s'.impls = Function.update s.impls i none) (allocated : s'.allocated = s.allocated)
      (log : s'.log = s.log ++ [.terminated thread.serial i, .destroyed i])

section Inversion
variable {s s' : State} {a : Action} {claims : List Nat}

theorem deleteImpl_change {o : ObjId} {i : ImplId} {impl : ThreadImpl} {env : Environment}
    (act : a = .user (.destroy o) env) (owned : s.objs o = some (some i))
    (found : s.impls i = some impl) : Change s a ((s.setObj o none).deleteImpl env i impl) := by
  have answered := destroy_run env s.os impl
  have threads : ((s.setObj o none).deleteImpl env i impl).os =
      ((impl.destroy).run (kernel env) s.os).2 := rfl
  have log : ((s.setObj o none).deleteImpl env i impl).log =
      s.log ++ (s.terminations impl.id i ++ [.destroyed i]) := rfl
  rw [answered] at threads
  cases present : s.os.threads impl.id with
  | none =>
      simp only [State.terminations, present, List.nil_append] at threads log
      exact .destroyed found (by simp [present]) (by rw [threads]) rfl rfl log
  | some thread =>
      cases running : thread.running with
      | true =>
          simp only [State.terminations, present, running, if_true] at threads log
          exact .killed act owned found present running (by rw [threads]; rfl) rfl rfl log
      | false =>
          simp only [State.terminations, present, running, Bool.false_eq_true, if_false,
            List.nil_append] at threads log
          exact .destroyed found (by simp_all) (by rw [threads]) rfl rfl log

theorem Taken.change (taken : Taken s a claims s') : Change s a s' := by
  cases taken with
  | moved transfers => exact .silent rfl rfl rfl rfl
  | terminated => exact .silent rfl rfl rfl rfl
  | constructed absent valid free => exact .created free rfl rfl rfl rfl rfl rfl
  | joined act owned found joinable present hasEnded =>
      exact .joined found present hasEnded rfl rfl rfl rfl
  | detached act owned found joinable present => exact .detached found present rfl rfl rfl rfl
  | finished present => exact .finished present rfl rfl rfl rfl
  | destroyed act owned found claimed => exact deleteImpl_change act owned found

theorem step_change (taken : s.step a = some s') : Change s a s' := (step_taken taken).change

end Inversion

/-! ## Invariants -/

def Runs (s : State) (serial : Nat) (i : ImplId) : Prop :=
  ∃ id thread, s.os.threads id = some thread ∧ thread.serial = serial ∧ thread.argument = i ∧
    thread.running = true ∧ ∃ impl, s.impls i = some impl ∧ impl.id = id

def Ended (s : State) (serial : Nat) : Prop :=
  .finished serial ∈ s.log ∨ ∃ destroyer, .terminated serial destroyer ∈ s.log

structure LifetimeInv (s : State) : Prop where
  allocated : ∀ i impl, s.impls i = some impl → i < s.allocated
  gone : ∀ i, (.destroyed i ∈ s.log ∨ ∃ serial, .terminated serial i ∈ s.log) →
    s.impls i = none ∧ i < s.allocated
  runs : ∀ serial i, .created serial i ∈ s.log → Runs s serial i ∨ Ended s serial

section Step
variable {s s' : State} {a : Action}

theorem Change.log_mono (change : Change s a s') {event : Event} (logged : event ∈ s.log) :
    event ∈ s'.log := by
  cases change <;> simp_all

theorem Ended.step {serial : Nat} (change : Change s a s') (ended : Ended s serial) :
    Ended s' serial := by
  rcases ended with finished | ⟨destroyer, terminated⟩
  · exact .inl (change.log_mono finished)
  · exact .inr ⟨destroyer, change.log_mono terminated⟩

/-- A step leaves a thread running, or it ends the thread and says so. -/
theorem Runs.step {serial : Nat} {i : ImplId} (change : Change s a s') (inv : LifetimeInv s)
    (runs : Runs s serial i) : Runs s' serial i ∨ Ended s' serial := by
  obtain ⟨id, thread, present, rfl, argument, running, impl, found, rfl⟩ := runs
  have keep (present' : s'.os.threads impl.id = some thread) (found' : s'.impls i = some impl) :
      Runs s' thread.serial i :=
    ⟨impl.id, thread, present', rfl, argument, running, impl, found', rfl⟩
  have different {j : ImplId} {other : ThreadImpl} (foundOther : s.impls j = some other)
      (otherId : impl.id ≠ other.id) : i ≠ j := by
    rintro rfl
    rw [foundOther, Option.some.injEq] at found
    exact otherId (by rw [found])
  cases change with
  | silent threads impls allocated log =>
      exact .inl (keep (by rw [threads, present]) (by rw [impls, found]))
  | @created id new free newArgument newRunning threads impls allocated log =>
      have otherId : impl.id ≠ id := by
        intro same
        rw [same, free] at present
        contradiction
      have older : i ≠ s.allocated := Nat.ne_of_lt (inv.allocated i impl found)
      left
      apply keep
      · rw [threads, Function.update_of_ne otherId, present]
      · rw [impls, Function.update_of_ne older, found]
  | @joined j joinedImpl hasEnded found' present' notRunning threads impls allocated log =>
      have otherId : impl.id ≠ joinedImpl.id := by
        intro same
        rw [same, present', Option.some.injEq] at present
        rw [← present, notRunning] at running
        contradiction
      left
      apply keep
      · rw [threads, Function.update_of_ne otherId, present]
      · rw [impls, Function.update_of_ne (different found' otherId), found]
  | @detached j detachedImpl target found' present' threads impls allocated log =>
      left
      by_cases own : impl.id = detachedImpl.id
      · have kept : ∃ impl', s'.impls i = some impl' ∧ impl'.id = impl.id := by
          rw [impls]
          by_cases same : i = j
          · refine ⟨{ detachedImpl with detached := true }, ?_, own.symm⟩
            rw [same, Function.update_self]
          · exact ⟨impl, by rw [Function.update_of_ne same, found], rfl⟩
        obtain ⟨impl', found'', sameId⟩ := kept
        rw [own, present', Option.some.injEq] at present
        subst present
        refine ⟨impl.id, { target with detached := true }, ?_, rfl, argument, running, impl',
          found'', sameId⟩
        rw [threads, own, Function.update_self, if_pos running]
      · apply keep
        · rw [threads, Function.update_of_ne own, present]
        · rw [impls, Function.update_of_ne (different found' own), found]
  | @finished id target present' threads impls allocated log =>
      by_cases same : impl.id = id
      · right
        rw [same, present', Option.some.injEq] at present
        left
        simp [log, present]
      · left
        apply keep
        · rw [threads, Function.update_of_ne same, present]
        · rw [impls, found]
  | @destroyed j destroyedImpl found' quiet threads impls allocated log =>
      have otherId : impl.id ≠ destroyedImpl.id := by
        intro same
        rw [quiet thread (same ▸ present)] at running
        contradiction
      left
      apply keep
      · rw [threads, present]
      · rw [impls, Function.update_of_ne (different found' otherId), found]
  | @killed j destroyedImpl victim o env act owned found' present' victimRuns threads impls allocated
      log =>
      by_cases same : impl.id = destroyedImpl.id
      · right
        rw [same, present', Option.some.injEq] at present
        exact .inr ⟨j, by simp [log, present]⟩
      · left
        apply keep
        · rw [threads, Function.update_of_ne same, present]
        · rw [impls, Function.update_of_ne (different found' same), found]

theorem Change.allocated_le (change : Change s a s') : s.allocated ≤ s'.allocated := by
  cases change <;> simp_all

theorem Change.impl_before {i : ImplId} {impl : ThreadImpl} (change : Change s a s')
    (found : s'.impls i = some impl) :
    (i = s.allocated ∧ s'.allocated = s.allocated + 1) ∨ ∃ old, s.impls i = some old := by
  cases change with
  | silent threads impls allocated log => exact .inr ⟨impl, by rw [← impls, found]⟩
  | created free argument running threads impls allocated log =>
      by_cases new : i = s.allocated
      · exact .inl ⟨new, allocated⟩
      · exact .inr ⟨impl, by rw [← found, impls, Function.update_of_ne new]⟩
  | @joined j old thread found' present hasEnded threads impls allocated log =>
      by_cases same : i = j
      · exact .inr ⟨old, same ▸ found'⟩
      · exact .inr ⟨impl, by rw [← found, impls, Function.update_of_ne same]⟩
  | @detached j old thread found' present threads impls allocated log =>
      by_cases same : i = j
      · exact .inr ⟨old, same ▸ found'⟩
      · exact .inr ⟨impl, by rw [← found, impls, Function.update_of_ne same]⟩
  | finished present threads impls allocated log => exact .inr ⟨impl, by rw [← impls, found]⟩
  | @destroyed j old found' quiet threads impls allocated log =>
      by_cases same : i = j
      · exact .inr ⟨old, same ▸ found'⟩
      · exact .inr ⟨impl, by rw [← found, impls, Function.update_of_ne same]⟩
  | @killed j old victim o env act owned found' present running threads impls allocated log =>
      by_cases same : i = j
      · exact .inr ⟨old, same ▸ found'⟩
      · exact .inr ⟨impl, by rw [← found, impls, Function.update_of_ne same]⟩

def Caused (s s' : State) : Event → Prop
  | .created serial i => Runs s' serial i
  | .joined i => ∃ impl, s.impls i = some impl
  | .terminated _ i => (∃ impl, s.impls i = some impl) ∧ s'.impls i = none
  | .destroyed i => (∃ impl, s.impls i = some impl) ∧ s'.impls i = none
  | .detached _ => True
  | .finished _ => True

theorem Change.caused (change : Change s a s') {event : Event} (logged : event ∈ s'.log) :
    event ∈ s.log ∨ Caused s s' event := by
  cases change with
  | silent threads impls allocated log => exact .inl (log ▸ logged)
  | @created id thread free argument running threads impls allocated log =>
      rw [log, List.mem_append, List.mem_singleton] at logged
      refine logged.imp_right ?_
      rintro rfl
      exact ⟨id, thread, by rw [threads, Function.update_self], rfl, argument, running, ⟨id, false⟩,
        by rw [impls, Function.update_self], rfl⟩
  | @joined i impl thread found present hasEnded threads impls allocated log =>
      rw [log, List.mem_append, List.mem_singleton] at logged
      refine logged.imp_right ?_
      rintro rfl
      exact ⟨impl, found⟩
  | detached found present threads impls allocated log =>
      rw [log, List.mem_append, List.mem_singleton] at logged
      refine logged.imp_right ?_
      rintro rfl
      trivial
  | finished present threads impls allocated log =>
      rw [log, List.mem_append, List.mem_singleton] at logged
      refine logged.imp_right ?_
      rintro rfl
      trivial
  | @destroyed i impl found quiet threads impls allocated log =>
      have none : s'.impls i = none := by rw [impls, Function.update_self]
      rw [log, List.mem_append, List.mem_singleton] at logged
      refine logged.imp_right ?_
      rintro rfl
      exact ⟨⟨impl, found⟩, none⟩
  | @killed i impl victim o env act owned found present running threads impls allocated log =>
      have none : s'.impls i = none := by rw [impls, Function.update_self]
      rw [log, List.mem_append, List.mem_cons, List.mem_singleton] at logged
      refine logged.imp_right ?_
      rintro (rfl | rfl)
      · exact ⟨⟨impl, found⟩, none⟩
      · exact ⟨⟨impl, found⟩, none⟩

theorem Change.gone_logged {i : ImplId} (change : Change s a s')
    (logged : .destroyed i ∈ s'.log ∨ ∃ serial, .terminated serial i ∈ s'.log) :
    (.destroyed i ∈ s.log ∨ ∃ serial, .terminated serial i ∈ s.log) ∨
      ((∃ impl, s.impls i = some impl) ∧ s'.impls i = none) := by
  rcases logged with destroyed | ⟨serial, terminated⟩
  · rcases change.caused destroyed with before | gone
    · exact .inl (.inl before)
    · exact .inr gone
  · rcases change.caused terminated with before | gone
    · exact .inl (.inr ⟨serial, before⟩)
    · exact .inr gone

theorem Change.lifetimeInv (change : Change s a s') (inv : LifetimeInv s) : LifetimeInv s' where
  allocated := by
    intro i impl found
    rcases change.impl_before found with ⟨new, allocated⟩ | ⟨old, found'⟩
    · rw [new, allocated]
      exact Nat.lt_succ_self _
    · exact lt_of_lt_of_le (inv.allocated i old found') change.allocated_le
  gone := by
    intro i logged
    rcases change.gone_logged logged with before | ⟨⟨old, found⟩, none⟩
    · obtain ⟨none, earlier⟩ := inv.gone i before
      refine ⟨?_, lt_of_lt_of_le earlier change.allocated_le⟩
      cases found : s'.impls i with
      | none => rfl
      | some impl =>
          rcases change.impl_before found with ⟨new, _⟩ | ⟨old, found'⟩
          · exact absurd new (Nat.ne_of_lt earlier)
          · simp [none] at found'
    · exact ⟨none, lt_of_lt_of_le (inv.allocated i old found) change.allocated_le⟩
  runs := by
    intro serial i logged
    rcases change.caused logged with before | runs
    · rcases inv.runs serial i before with running | ended
      · exact running.step change inv
      · exact .inr (ended.step change)
    · exact .inl runs

end Step

theorem run_lifetimeInv {allowed : State → Action → Prop} {acts : List Action} {s : State}
    (run : Run system allowed acts s) : LifetimeInv s := by
  refine run.invariant LifetimeInv ?_ ?_
  · constructor <;> simp [system, State.initial]
  · intro s a s' inv _ taken
    exact (step_change taken).lifetimeInv inv

/-! ## Detached threads and joined objects -/

/-- No `thread` object ends while a detached thread runs under its identifier or,
if it was joined, while any thread does. -/
def EndsQuietly (s : State) : Action → Prop
  | .user (.destroy o) _ =>
      ∀ i ∈ (s.objs o).join, ∀ impl ∈ s.impls i, ∀ thread ∈ s.os.threads impl.id,
        thread.running = true → .detached thread.serial ∉ s.log ∧ .joined i ∉ s.log
  | _ => True

instance (s : State) (a : Action) : Decidable (EndsQuietly s a) := by
  unfold EndsQuietly
  split <;> infer_instance

/-- A detached thread is not terminated afterwards; an object, and with it the
callable, is gone only when its thread has ended; the end of a joined object
terminates no thread. -/
structure LivesOn (s : State) : Prop where
  detached : ∀ serial i, ¬ [.detached serial, .terminated serial i].Sublist s.log
  callable : ∀ serial i, .created serial i ∈ s.log → .destroyed i ∈ s.log → Ended s serial
  joined : ∀ serial i, .joined i ∈ s.log → .terminated serial i ∉ s.log

section Runs
variable {s s' : State} {a : Action}

/-- What a step adds to the history: a termination only where `EndsQuietly` speaks
about it, and then nothing else but the end of the object. -/
theorem Change.log_extends (change : Change s a s') (quietly : EndsQuietly s a) :
    ∃ events, s'.log = s.log ++ events ∧
      ((∀ serial i, .terminated serial i ∉ events) ∨
        ∃ serial i, events = [.terminated serial i, .destroyed i] ∧ .detached serial ∉ s.log ∧
          .joined i ∉ s.log) := by
  cases change with
  | @killed i impl thread o env act owned found present running threads impls allocated log =>
      subst act
      have concern := quietly i (by simp [owned]) impl (by simp [found]) thread (by simp [present])
        running
      exact ⟨_, log, .inr ⟨thread.serial, i, rfl, concern⟩⟩
  | silent threads impls allocated log =>
      exact ⟨[], by rw [log, List.append_nil], .inl (by simp)⟩
  | created free argument running threads impls allocated log => exact ⟨_, log, .inl (by simp)⟩
  | joined found present hasEnded threads impls allocated log => exact ⟨_, log, .inl (by simp)⟩
  | detached found present threads impls allocated log => exact ⟨_, log, .inl (by simp)⟩
  | finished present threads impls allocated log => exact ⟨_, log, .inl (by simp)⟩
  | destroyed found quiet threads impls allocated log => exact ⟨_, log, .inl (by simp)⟩

theorem pair_sublist_append {first second : Event} {log events : List Event}
    (found : [first, second].Sublist (log ++ events)) :
    [first, second].Sublist log ∨ second ∈ events := by
  obtain ⟨old, new, split, inLog, inEvents⟩ := List.sublist_append_iff.mp found
  rcases List.eq_nil_or_concat new with rfl | ⟨rest, last, rfl⟩
  · left
    rwa [split, List.append_nil]
  · right
    have sameLast : second = last := by
      have reversed := congrArg List.getLast? split
      simpa using reversed
    rw [sameLast]
    exact inEvents.subset (by simp)

theorem Change.livesOn (change : Change s a s') (inv : LifetimeInv s) (quietly : EndsQuietly s a)
    (before : LivesOn s) (inv' : LifetimeInv s') : LivesOn s' where
  detached := by
    intro serial i ordered
    obtain ⟨events, log, added⟩ := change.log_extends quietly
    rw [log] at ordered
    rcases pair_sublist_append ordered with old | new
    · exact before.detached serial i old
    · rcases added with noTermination | ⟨victim, destroyer, rfl, notDetached, _⟩
      · exact noTermination serial i new
      · obtain ⟨rfl, rfl⟩ : serial = victim ∧ i = destroyer := by simpa using new
        have wasDetached : .detached serial ∈ s.log ++ _ := ordered.subset (by simp)
        exact notDetached (by simpa using wasDetached)
  callable := by
    intro serial i created destroyed
    rcases inv'.runs serial i created with ⟨_, _, _, _, _, _, impl, found, _⟩ | ended
    · rw [(inv'.gone i (.inl destroyed)).1] at found
      contradiction
    · exact ended
  joined := by
    intro serial i joined terminated
    obtain ⟨events, log, added⟩ := change.log_extends quietly
    rw [log, List.mem_append] at terminated
    rcases terminated with earlier | new
    · rcases change.caused joined with wasJoined | ⟨impl, found⟩
      · exact before.joined serial i wasJoined earlier
      · rw [(inv.gone i (.inr ⟨serial, earlier⟩)).1] at found
        contradiction
    · rcases added with noTermination | ⟨victim, destroyer, rfl, _, notJoined⟩
      · exact noTermination serial i new
      · obtain ⟨rfl, rfl⟩ : serial = victim ∧ i = destroyer := by simpa using new
        rw [log] at joined
        exact notJoined (by simpa using joined)

end Runs

theorem endsQuietly_livesOn {acts : List Action} {s : State}
    (run : Run system EndsQuietly acts s) : LivesOn s := by
  refine run.invariant_under LifetimeInv LivesOn run_lifetimeInv ?_ ?_
  · constructor <;> simp [system, State.initial]
  · intro s a s' inv before quietly taken
    have change := step_change taken
    exact change.livesOn inv quietly before (change.lifetimeInv inv)

def detachedFinished : List Action :=
  [.user (.construct 0 ⟨0, 0, osPriorityNone, none⟩) ⟨1, .osOK, 9⟩,
    .user (.detach 0) ⟨0, .osOK, 9⟩, .finish 1, .user (.destroy 0) ⟨0, .osOK, 9⟩]

theorem detachedFinished_livesOn :
    ∃ s, Run system EndsQuietly detachedFinished s ∧
      s.log = [.created 0 0, .detached 0, .finished 0, .destroyed 0] ∧ LivesOn s := by
  have run : Run system EndsQuietly _ _ := Run.replayed detachedFinished rfl
  exact ⟨_, run, rfl, endsQuietly_livesOn run⟩

/-- The object ends while its detached thread runs, which the destructor terminates. -/
theorem detachedRunning_terminated :
    ¬ ∀ acts s, Run system Unrestricted acts s → LivesOn s := by
  intro claimed
  have run : Run system Unrestricted _ _ := Run.replayed [
    .user (.construct 0 ⟨0, 0, osPriorityNone, none⟩) ⟨1, .osOK, 9⟩,
    .user (.detach 0) ⟨0, .osOK, 9⟩,
    .user (.destroy 0) ⟨0, .osOK, 9⟩] rfl
  exact (claimed _ _ run).detached 0 0 (by decide)

end CmsisCpp.Thread
