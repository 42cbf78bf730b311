import CmsisCpp.Library.LifeCycle
import CmsisCpp.Thread.Ownership

/-! # The life of an OS thread

Source: `src/Thread.cpp`.  An OS thread runs, attached to its object or detached from it,
until its function is over or it is terminated; attached, it is then kept until it is
joined or detached.  In every run of the objects each OS thread goes through these
phases in order, and what has happened to it tells the phase that the kernel has
it in. -/
set_option autoImplicit false

namespace CmsisCpp.Thread

open ActionSystem CallScript

inductive Phase
  | unborn
  | running (detached : Bool)
  | ended
  | gone
  deriving DecidableEq, Repr

inductive Happening
  | created
  | finished
  | terminated
  | joined
  | detached
  deriving DecidableEq, Repr

def Happening.isEnd : Happening → Bool
  | .finished | .terminated => true
  | _ => false

def Happening.isClaim : Happening → Bool
  | .joined | .detached => true
  | _ => false

def threadCycle : LifeCycle Phase Happening where
  start := .unborn
  next
    | .unborn, .created => some (.running false)
    | .running false, .finished => some .ended
    | .running false, .terminated => some .ended
    | .running false, .detached => some (.running true)
    | .running true, .finished => some .gone
    | .running true, .terminated => some .gone
    | .ended, .joined => some .gone
    | .ended, .detached => some .gone
    | _, _ => none

/-! ## What happens to one thread -/

section Cycle
variable {history : List Happening} {phase phase' : Phase} {kind : Happening}

inductive Proceeds : Phase → Happening → Phase → Prop
  | created : Proceeds .unborn .created (.running false)
  | detached : Proceeds (.running false) .detached (.running true)
  | ended {kind : Happening} (isEnd : kind.isEnd = true) : Proceeds (.running false) kind .ended
  | endedDetached {kind : Happening} (isEnd : kind.isEnd = true) :
      Proceeds (.running true) kind .gone
  | claimed {kind : Happening} (isClaim : kind.isClaim = true) : Proceeds .ended kind .gone

theorem proceeds_of_next (taken : threadCycle.next phase kind = some phase') :
    Proceeds phase kind phase' := by
  cases phase with
  | unborn =>
      cases kind <;> cases taken
      exact .created
  | running detached =>
      cases detached <;> cases kind <;> cases taken
      · exact .ended rfl
      · exact .ended rfl
      · exact .detached
      · exact .endedDetached rfl
      · exact .endedDetached rfl
  | ended =>
      cases kind <;> cases taken
      · exact .claimed rfl
      · exact .claimed rfl
  | gone => cases kind <;> cases taken

def Phase.ends : Phase → Nat
  | .unborn | .running _ => 0
  | .ended | .gone => 1

def Phase.claims : Phase → Nat
  | .unborn | .running false | .ended => 0
  | .running true | .gone => 1

theorem endedOnce_of_reached (led : threadCycle.reached history = some phase) :
    history.countP Happening.isEnd ≤ 1 := by
  have counted := LifeCycle.after_countP_le Happening.isEnd Phase.ends ?_ led
  · have bound : phase.ends ≤ 1 := by cases phase <;> simp [Phase.ends]
    omega
  · intro phase kind phase' taken
    cases proceeds_of_next taken with
    | created | detached => decide
    | ended isEnd | endedDetached isEnd => simp [isEnd, Phase.ends]
    | claimed isClaim => cases kind <;> simp [Happening.isClaim, Happening.isEnd, Phase.ends] at *

theorem claimedOnce_of_reached (led : threadCycle.reached history = some phase) :
    history.countP Happening.isClaim ≤ 1 := by
  have counted := LifeCycle.after_countP_le Happening.isClaim Phase.claims ?_ led
  · have bound : phase.claims ≤ 1 := by
      rcases phase with _ | (_ | _) | _ | _ <;> simp [Phase.claims]
    omega
  · intro phase kind phase' taken
    cases proceeds_of_next taken with
    | created | detached => decide
    | claimed isClaim => simp [isClaim, Phase.claims]
    | ended isEnd | endedDetached isEnd =>
        cases kind <;> simp [Happening.isClaim, Happening.isEnd, Phase.claims] at *

/-- A thread that is joined has ended before. -/
theorem endedBeforeJoin_of_reached (led : threadCycle.reached history = some phase)
    (joined : .joined ∈ history) :
    ∃ kind, Happening.isEnd kind = true ∧ [kind, .joined].Sublist history := by
  refine LifeCycle.preceded_of_reached (fun phase => phase = .ended) _ ?_ ?_ ?_ led joined
  · rintro phase kind _ taken - rfl
    cases proceeds_of_next taken with
    | ended isEnd => exact isEnd
  · intro phase phase' taken
    cases proceeds_of_next taken with
    | claimed => rfl
    | ended isEnd | endedDetached isEnd => cases isEnd
  · simp [threadCycle]

theorem detached_of_reached (led : threadCycle.reached history = some (.running true)) :
    .detached ∈ history := by
  have enters : ∀ phase kind phase', threadCycle.next phase kind = some phase' →
      ¬ phase = .running true → phase' = .running true → kind = .detached := by
    intro phase kind phase' taken _ enters
    subst enters
    cases proceeds_of_next taken with
    | detached => rfl
  obtain ⟨kind, member, rfl⟩ := LifeCycle.exists_of_after (fun phase => phase = .running true)
    (fun kind => kind = .detached) enters led (by simp [threadCycle]) rfl
  exact member

end Cycle

/-! ## The threads of the kernel -/

/-- What an event of the log says about one OS thread; the thread of the `thread_impl`
number `i` is the thread number `i`. -/
def Event.entry : Event → Option (Nat × Happening)
  | .created serial _ => some (serial, .created)
  | .joined i => some (i, .joined)
  | .detached serial => some (serial, .detached)
  | .finished serial => some (serial, .finished)
  | .terminated serial _ => some (serial, .terminated)
  | .destroyed _ => none

def State.entries (s : State) : List (Nat × Happening) := s.log.filterMap Event.entry

def State.life (s : State) (n : Nat) : List Happening := History.of n s.entries

def OsThread.phase (thread : OsThread) : Phase :=
  if thread.running = true then .running thread.detached else .ended

inductive InPhase (os : OsState) (n : Nat) : Phase → Prop
  | unborn (unknown : os.created ≤ n) : InPhase os n .unborn
  | present {id : Handle} {thread : OsThread} (present : os.threads id = some thread)
      (serial : thread.serial = n) : InPhase os n thread.phase
  | gone (known : n < os.created)
      (absent : ∀ id thread, os.threads id = some thread → thread.serial ≠ n) :
      InPhase os n .gone

structure TableInv (s : State) : Prop where
  nullFree : s.os.threads 0 = none
  serials : ∀ id thread, s.os.threads id = some thread → thread.serial < s.os.created
  unique : ∀ id id' thread thread', s.os.threads id = some thread →
    s.os.threads id' = some thread' → thread.serial = thread'.serial → id = id'
  kept : ∀ id thread, s.os.threads id = some thread → thread.running = false →
    thread.detached = false
  lived : ∀ n, ∃ phase, threadCycle.reached (s.life n) = some phase ∧ InPhase s.os n phase

def OsThread.after (thread : OsThread) : Happening → Option OsThread
  | .created => some thread
  | .finished | .terminated => thread.ended
  | .joined => none
  | .detached => if thread.running = true then some { thread with detached := true } else none

inductive TableChange (s s' : State) : Prop
  | same (os : s'.os = s.os) (entries : s'.entries = s.entries)
  | born {id : Handle} {argument : ImplId} (valid : id ≠ 0) (free : s.os.threads id = none)
      (threads : s'.os.threads =
        Function.update s.os.threads id (some ⟨s.os.created, argument, true, false⟩))
      (created : s'.os.created = s.os.created + 1)
      (entries : s'.entries = s.entries ++ [(s.os.created, .created)])
  | happened {id : Handle} {thread : OsThread} {kind : Happening}
      (present : s.os.threads id = some thread)
      (inOrder : (threadCycle.next thread.phase kind).isSome = true)
      (threads : s'.os.threads = Function.update s.os.threads id (thread.after kind))
      (created : s'.os.created = s.os.created)
      (entries : s'.entries = s.entries ++ [(thread.serial, kind)])

section Table
variable {s s' : State} {a : Action} {thread : OsThread} {kind : Happening} {n : Nat}

/-- The kernel follows the life cycle. -/
theorem OsThread.after_phase {phase : Phase}
    (taken : threadCycle.next thread.phase kind = some phase)
    (kept : thread.running = false → thread.detached = false) :
    match thread.after kind with
    | some thread' => thread'.phase = phase ∧ thread'.serial = thread.serial ∧
        (thread'.running = false → thread'.detached = false)
    | none => phase = .gone := by
  obtain ⟨serial, argument, running, detached⟩ := thread
  cases running <;> cases detached <;> cases kind <;>
    simp_all [OsThread.phase, OsThread.after, OsThread.ended, threadCycle]

theorem InPhase.phase_unique (inv : TableInv s) {id : Handle} {phase : Phase}
    (present : s.os.threads id = some thread) (inPhase : InPhase s.os thread.serial phase) :
    phase = thread.phase := by
  cases inPhase with
  | unborn unknown => exact absurd (inv.serials id thread present) (Nat.not_lt.mpr unknown)
  | @present id' thread' present' serial =>
      cases inv.unique id' id thread' thread present' present serial
      rw [present, Option.some.injEq] at present'
      rw [present']
  | gone known absent => exact absurd rfl (absent id thread present)

theorem InPhase.unborn_of_le (inv : TableInv s) {phase : Phase}
    (inPhase : InPhase s.os s.os.created phase) : phase = .unborn := by
  cases inPhase with
  | unborn unknown => rfl
  | @present id thread present serial =>
      exact absurd (inv.serials id thread present) (by omega)
  | gone known absent => exact absurd known (Nat.lt_irrefl _)

theorem TableInv.born (inv : TableInv s) {id : Handle} {argument : ImplId} (valid : id ≠ 0)
    (free : s.os.threads id = none)
    (threads : s'.os.threads =
      Function.update s.os.threads id (some ⟨s.os.created, argument, true, false⟩))
    (created : s'.os.created = s.os.created + 1)
    (entries : s'.entries = s.entries ++ [(s.os.created, .created)]) : TableInv s' := by
  have cases_of {x : Handle} {thread : OsThread} (present : s'.os.threads x = some thread) :
      (x = id ∧ thread = ⟨s.os.created, argument, true, false⟩) ∨
        (x ≠ id ∧ s.os.threads x = some thread) := by
    rw [threads] at present
    by_cases same : x = id
    · rw [same, Function.update_self, Option.some.injEq] at present
      exact .inl ⟨same, present.symm⟩
    · rw [Function.update_of_ne same] at present
      exact .inr ⟨same, present⟩
  constructor
  · rw [threads, Function.update_of_ne (Ne.symm valid), inv.nullFree]
  · intro x thread present
    rw [created]
    rcases cases_of present with ⟨-, rfl⟩ | ⟨-, old⟩
    · exact Nat.lt_succ_self _
    · exact Nat.lt_succ_of_lt (inv.serials x thread old)
  · intro x x' thread thread' present present' same
    rcases cases_of present with ⟨rfl, rfl⟩ | ⟨-, old⟩ <;>
      rcases cases_of present' with ⟨rfl, rfl⟩ | ⟨-, old'⟩
    · rfl
    · exact absurd (inv.serials x' thread' old') (by rw [← same]; exact Nat.lt_irrefl _)
    · exact absurd (inv.serials x thread old) (by rw [same]; exact Nat.lt_irrefl _)
    · exact inv.unique x x' thread thread' old old' same
  · intro x thread present hasEnded
    rcases cases_of present with ⟨-, rfl⟩ | ⟨-, old⟩
    · rfl
    · exact inv.kept x thread old hasEnded
  · intro n
    obtain ⟨phase, led, inPhase⟩ := inv.lived n
    by_cases new : n = s.os.created
    · subst new
      cases inPhase.unborn_of_le inv
      have present : s'.os.threads id = some ⟨s.os.created, argument, true, false⟩ := by
        rw [threads, Function.update_self]
      refine ⟨.running false, ?_, .present present rfl⟩
      rw [State.life, entries]
      exact LifeCycle.reached_record led rfl
    · refine ⟨phase, ?_, ?_⟩
      · rw [State.life, entries, LifeCycle.reached_record_other (Ne.symm new)]
        exact led
      · cases inPhase with
        | unborn unknown => exact .unborn (by omega)
        | @present x thread present serial =>
            have other : x ≠ id := by
              intro same
              rw [same, free] at present
              contradiction
            have kept : s'.os.threads x = some thread := by
              rw [threads, Function.update_of_ne other, present]
            exact .present kept serial
        | gone known absent =>
            refine .gone (by omega) ?_
            intro x thread present
            rcases cases_of present with ⟨-, rfl⟩ | ⟨-, old⟩
            · exact Ne.symm new
            · exact absent x thread old

theorem TableInv.happened (inv : TableInv s) {id : Handle}
    (present : s.os.threads id = some thread)
    (inOrder : (threadCycle.next thread.phase kind).isSome = true)
    (threads : s'.os.threads = Function.update s.os.threads id (thread.after kind))
    (created : s'.os.created = s.os.created)
    (entries : s'.entries = s.entries ++ [(thread.serial, kind)]) : TableInv s' := by
  obtain ⟨phase', taken⟩ := Option.isSome_iff_exists.mp inOrder
  have follows := OsThread.after_phase taken (inv.kept id thread present)
  have cases_of {x : Handle} {other : OsThread} (present' : s'.os.threads x = some other) :
      (x = id ∧ thread.after kind = some other ∧ other.phase = phase' ∧
          other.serial = thread.serial ∧ (other.running = false → other.detached = false)) ∨
        (x ≠ id ∧ s.os.threads x = some other) := by
    rw [threads] at present'
    by_cases same : x = id
    · rw [same, Function.update_self] at present'
      rw [present'] at follows
      exact .inl ⟨same, present', follows⟩
    · rw [Function.update_of_ne same] at present'
      exact .inr ⟨same, present'⟩
  constructor
  · have valid : id ≠ 0 := by
      intro null
      rw [null, inv.nullFree] at present
      contradiction
    rw [threads, Function.update_of_ne (Ne.symm valid), inv.nullFree]
  · intro x other present'
    rw [created]
    rcases cases_of present' with ⟨-, -, -, serial, -⟩ | ⟨-, old⟩
    · rw [serial]
      exact inv.serials id thread present
    · exact inv.serials x other old
  · intro x x' other other' present' present'' same
    rcases cases_of present' with ⟨rfl, -, -, serial, -⟩ | ⟨-, old⟩ <;>
      rcases cases_of present'' with ⟨rfl, -, -, serial', -⟩ | ⟨-, old'⟩
    · rfl
    · exact inv.unique x x' thread other' present old' (by rw [← serial, same])
    · exact inv.unique x x' other thread old present (by rw [same, serial'])
    · exact inv.unique x x' other other' old old' same
  · intro x other present' hasEnded
    rcases cases_of present' with ⟨-, -, -, -, kept⟩ | ⟨-, old⟩
    · exact kept hasEnded
    · exact inv.kept x other old hasEnded
  · intro n
    obtain ⟨phase, led, inPhase⟩ := inv.lived n
    by_cases own : n = thread.serial
    · subst own
      cases inPhase.phase_unique inv present
      refine ⟨phase', ?_, ?_⟩
      · rw [State.life, entries]
        exact LifeCycle.reached_record led taken
      · cases result : thread.after kind with
        | some other =>
            rw [result] at follows
            obtain ⟨rfl, serial, -⟩ := follows
            have kept : s'.os.threads id = some other := by
              rw [threads, Function.update_self, result]
            exact .present kept serial
        | none =>
            rw [result] at follows
            subst follows
            refine .gone (by rw [created]; exact inv.serials id thread present) ?_
            intro x other present' serial
            rcases cases_of present' with ⟨-, found, -⟩ | ⟨different, old⟩
            · rw [result] at found
              contradiction
            · exact different (inv.unique x id other thread old present serial)
    · refine ⟨phase, ?_, ?_⟩
      · rw [State.life, entries, LifeCycle.reached_record_other (Ne.symm own)]
        exact led
      · cases inPhase with
        | unborn unknown => exact .unborn (by omega)
        | @present x other found serial =>
            have different : x ≠ id := by
              intro same
              rw [same, present, Option.some.injEq] at found
              exact own (by rw [← serial, found])
            have kept : s'.os.threads x = some other := by
              rw [threads, Function.update_of_ne different, found]
            exact .present kept serial
        | gone known absent =>
            refine .gone (by omega) ?_
            intro x other present'
            rcases cases_of present' with ⟨-, -, -, serial, -⟩ | ⟨-, old⟩
            · rw [serial]
              exact Ne.symm own
            · exact absent x other old

theorem TableChange.inv (change : TableChange s s') (inv : TableInv s) : TableInv s' := by
  cases change with
  | same os entries =>
      have lives : s'.life = s.life := by
        funext n
        rw [State.life, entries, State.life]
      constructor
      · rw [os, inv.nullFree]
      · rw [os]
        exact inv.serials
      · rw [os]
        exact inv.unique
      · rw [os]
        exact inv.kept
      · rw [lives, os]
        exact inv.lived
  | born valid free threads created entries => exact inv.born valid free threads created entries
  | happened present inOrder threads created entries =>
      exact inv.happened present inOrder threads created entries

theorem TableChange.origin (change : TableChange s s') (inv : TableInv s) {id : Handle}
    (present : s'.os.threads id = some thread) :
    (∃ before, s.os.threads id = some before ∧ before.serial = thread.serial) ∨
      (thread.serial = s.os.created ∧ s'.os.created = s.os.created + 1) := by
  cases change with
  | same os entries => exact .inl ⟨thread, by rw [← os, present], rfl⟩
  | @born newId argument valid free threads created entries =>
      rw [threads] at present
      by_cases same : id = newId
      · rw [same, Function.update_self, Option.some.injEq] at present
        rw [← present]
        exact .inr ⟨rfl, created⟩
      · rw [Function.update_of_ne same] at present
        exact .inl ⟨thread, present, rfl⟩
  | @happened place old kind presentOld inOrder threads created entries =>
      obtain ⟨phase, taken⟩ := Option.isSome_iff_exists.mp inOrder
      have follows := OsThread.after_phase taken (inv.kept place old presentOld)
      rw [threads] at present
      by_cases same : id = place
      · rw [same, Function.update_self] at present
        rw [present] at follows
        exact .inl ⟨old, same ▸ presentOld, follows.2.1.symm⟩
      · rw [Function.update_of_ne same] at present
        exact .inl ⟨thread, present, rfl⟩

theorem TableChange.created_le (change : TableChange s s') : s.os.created ≤ s'.os.created := by
  cases change with
  | same os entries => rw [os]
  | born valid free threads created entries => omega
  | happened present inOrder threads created entries => omega

end Table

/-! ## The steps -/

section Step
variable {s s' : State} {a : Action} {env : Environment} {i : ImplId} {impl : ThreadImpl}

def Operation.logs : Operation → Event → Bool
  | .construct _ _, .created _ _ => true
  | .join _, .joined _ => true
  | .detach _, .detached _ => true
  | .destroy _, .terminated _ _ => true
  | .destroy _, .destroyed _ => true
  | _, _ => false

theorem userStep_logs {op : Operation} (taken : s.userStep env op = some s') :
    ∃ events, s'.log = s.log ++ events ∧ ∀ event ∈ events, op.logs event = true := by
  have silent (same : s'.log = s.log) :
      ∃ events, s'.log = s.log ++ events ∧ ∀ event ∈ events, op.logs event = true :=
    ⟨[], by rw [same, List.append_nil], by simp⟩
  cases op with
  | default o =>
      simp only [State.userStep, Option.ite_none_right_eq_some, Option.some.injEq] at taken
      exact silent (by rw [← taken.2]; rfl)
  | construct o attr =>
      simp only [State.userStep, State.construct, Option.ite_none_right_eq_some] at taken
      obtain ⟨_, taken⟩ := taken
      split at taken
      · exact silent (by rw [← Option.some.inj taken]; rfl)
      · cases taken
        exact ⟨[.created s.os.created s.allocated], rfl, by simp [Operation.logs]⟩
  | moveConstruct o source | swap o other =>
      simp only [State.userStep] at taken
      split at taken
      · exact silent (by rw [← Option.some.inj taken]; rfl)
      · contradiction
  | moveAssign o source =>
      simp only [State.userStep] at taken
      split at taken
      · split at taken
        · exact silent (by rw [← Option.some.inj taken])
        · exact silent (by rw [← Option.some.inj taken]; rfl)
      · contradiction
  | join o =>
      obtain ⟨obj, owned, rfl⟩ := Option.map_eq_some_iff.mp taken
      simp only [State.joinObj]
      split
      · exact ⟨[.joined _], rfl, by simp [Operation.logs]⟩
      · exact ⟨[], (List.append_nil _).symm, by simp⟩
  | detach o =>
      obtain ⟨obj, owned, rfl⟩ := Option.map_eq_some_iff.mp taken
      simp only [State.detachObj]
      split
      · exact ⟨_, rfl, by simp [Operation.logs]⟩
      · exact ⟨[], (List.append_nil _).symm, by simp⟩
  | destroy o =>
      simp only [State.userStep] at taken
      split at taken
      · contradiction
      · exact silent (by rw [← Option.some.inj taken]; rfl)
      · split at taken
        · contradiction
        · split at taken
          · exact silent (by rw [← Option.some.inj taken])
          · cases taken
            refine ⟨_, rfl, ?_⟩
            simp only [State.terminations]
            split
            · simp [Operation.logs]
            · split <;> simp [Operation.logs]

theorem logs_of_step {op : Operation} {event : Event}
    (stepped : s.step (.user op env) = some s') (log : s'.log = s.log ++ [event]) :
    op.logs event = true := by
  simp only [State.step, Option.ite_none_right_eq_some] at stepped
  obtain ⟨events, log', logs⟩ := userStep_logs stepped.2
  have same := List.append_cancel_left (log.symm.trans log')
  exact logs event (same ▸ List.mem_singleton_self _)

theorem finished_running {serial : Nat} (stepped : s.step a = some s')
    (log : s'.log = s.log ++ [.finished serial]) :
    ∃ id thread, s.os.threads id = some thread ∧ thread.running = true ∧
      s' = { s with os := s.os.set id thread.ended }.record [.finished thread.serial] := by
  cases a with
  | user op env => cases op <;> cases logs_of_step stepped log
  | finish id =>
      simp only [State.step, State.finish, Option.ite_none_right_eq_some] at stepped
      obtain ⟨_, stepped⟩ := stepped
      split at stepped
      · contradiction
      · rename_i thread present
        simp only [Option.ite_none_right_eq_some, Option.some.injEq] at stepped
        exact ⟨id, thread, present, stepped.1, stepped.2.symm⟩

/-- Only a constructor creates a thread. -/
theorem constructs_of_created (stepped : s.step a = some s')
    (new : s'.os.created ≠ s.os.created) : ∃ o attr env, a = .user (.construct o attr) env := by
  have taken := step_taken stepped
  generalize s.claims a = claims at taken
  cases taken with
  | constructed absent valid free =>
      cases a with
      | user op env =>
          cases op with
          | construct o attr => exact ⟨o, attr, env, rfl⟩
          | _ => cases logs_of_step stepped (State.addThread_log s _ _)
      | finish id =>
          simp only [State.step, State.finish, Option.ite_none_right_eq_some] at stepped
          obtain ⟨_, stepped⟩ := stepped
          split at stepped
          · contradiction
          · simp only [Option.ite_none_right_eq_some, Option.some.injEq] at stepped
            have created := congrArg (fun s => s.os.created) stepped.2
            exact absurd created.symm new
  | destroyed => exact absurd (deleteImpl_created ..) new
  | _ => exact absurd rfl new

theorem entries_record (s : State) (events : List Event) :
    (s.record events).entries = s.entries ++ events.filterMap Event.entry :=
  List.filterMap_append

theorem deleteImpl_table (s : State) (env : Environment) (o : ObjId) (i : ImplId)
    (impl : ThreadImpl) : TableChange s ((s.setObj o none).deleteImpl env i impl) := by
  have os : ((s.setObj o none).deleteImpl env i impl).os =
      ((impl.destroy).run (kernel env) s.os).2 := rfl
  have entries : ((s.setObj o none).deleteImpl env i impl).entries =
      s.entries ++ (s.terminations impl.id i ++ [Event.destroyed i]).filterMap Event.entry :=
    entries_record _ _
  rw [destroy_run] at os
  cases present : s.os.threads impl.id with
  | none =>
      simp only [State.terminations, present, List.nil_append] at os entries
      exact .same os (by rw [entries]; exact List.append_nil _)
  | some thread =>
      cases running : thread.running with
      | false =>
          simp only [State.terminations, present, running, Bool.false_eq_true, if_false,
            List.nil_append] at os entries
          exact .same os (by rw [entries]; exact List.append_nil _)
      | true =>
          simp only [State.terminations, present, running, if_true] at os entries
          have inOrder : (threadCycle.next thread.phase .terminated).isSome = true := by
            rw [OsThread.phase, if_pos running]
            cases thread.detached <;> rfl
          exact .happened present inOrder (by rw [os]; rfl) (by rw [os]; rfl) entries

theorem step_table {claims : List Nat} (inv : ClaimInv s claims)
    (stepped : s.step a = some s') : TableChange s s' := by
  have taken := step_taken stepped
  generalize s.claims a = new at taken
  cases taken with
  | moved transfers => exact .same rfl rfl
  | terminated => exact .same rfl rfl
  | constructed absent valid free => exact .born valid free rfl rfl (entries_record _ _)
  | @joined o env i impl thread act owned found joinable present hasEnded =>
      obtain ⟨thread', present', serial, _, _⟩ := inv.attached i impl found joinable
      obtain rfl : thread' = thread := Option.some.inj (present'.symm.trans present)
      have inOrder : (threadCycle.next thread'.phase .joined).isSome = true := by
        simp [OsThread.phase, hasEnded, threadCycle]
      refine .happened present inOrder rfl rfl ?_
      rw [serial]
      exact entries_record _ _
  | @detached o env i impl thread act owned found joinable present =>
      obtain ⟨thread', present', serial, attached, _⟩ := inv.attached i impl found joinable
      obtain rfl : thread' = thread := Option.some.inj (present'.symm.trans present)
      have inOrder : (threadCycle.next thread'.phase .detached).isSome = true := by
        cases running : thread'.running <;> simp [OsThread.phase, running, attached, threadCycle]
      exact .happened present inOrder rfl rfl (entries_record _ _)
  | @finished id thread present =>
      obtain ⟨id, thread, present, running, same⟩ := finished_running stepped rfl
      rw [same]
      have inOrder : (threadCycle.next thread.phase .finished).isSome = true := by
        rw [OsThread.phase, if_pos running]
        cases thread.detached <;> rfl
      exact .happened present inOrder rfl rfl (entries_record _ _)
  | @destroyed o i impl env act owned found claimed =>
      exact deleteImpl_table s env o i impl

/-! ## Where the thread of an object is -/

/-- The thread of an object is under the identifier that the object keeps, or gone; a
thread that has come there since is younger. -/
structure HomeInv (s : State) : Prop where
  home : ∀ i impl, s.impls i = some impl → ∀ id thread, s.os.threads id = some thread →
    thread.serial = i → id = impl.id ∧ thread.detached = impl.detached
  older : ∀ i impl thread, s.impls i = some impl → s.os.threads impl.id = some thread →
    i ≤ thread.serial

theorem HomeInv.kept (inv : HomeInv s)
    (impls : ∀ i impl, s'.impls i = some impl → s.impls i = some impl)
    (threads : ∀ id thread, s'.os.threads id = some thread → ∃ before,
      s.os.threads id = some before ∧ before.serial = thread.serial ∧
        before.detached = thread.detached) : HomeInv s' where
  home := by
    intro i impl found id thread present serial
    obtain ⟨before, presentBefore, sameSerial, sameFlag⟩ := threads id thread present
    obtain ⟨place, flag⟩ := inv.home i impl (impls i impl found) id before presentBefore
      (by rw [sameSerial, serial])
    exact ⟨place, by rw [← sameFlag, flag]⟩
  older := by
    intro i impl thread found present
    obtain ⟨before, presentBefore, sameSerial, _⟩ := threads impl.id thread present
    rw [← sameSerial]
    exact inv.older i impl before (impls i impl found) presentBefore

theorem ended_before {threads : Handle → Option OsThread} {id x : Handle}
    {thread after : OsThread} (present : threads id = some thread)
    (found : Function.update threads id thread.ended x = some after) :
    ∃ before, threads x = some before ∧ before.serial = after.serial ∧
      before.detached = after.detached := by
  by_cases same : x = id
  · rw [same, Function.update_self] at found
    simp only [OsThread.ended, Option.ite_none_left_eq_some, Option.some.injEq] at found
    rw [← found.2, same]
    exact ⟨thread, present, rfl, rfl⟩
  · rw [Function.update_of_ne same] at found
    exact ⟨after, found, rfl, rfl⟩

theorem HomeInv.constructed (inv : HomeInv s) (implInv : ImplInv s) (table : TableInv s)
    {o : ObjId} {id : Handle} : HomeInv (s.addThread o id) where
  home := by
    intro i impl found x thread present serial
    rw [State.addThread_impls] at found
    rw [State.addThread_threads] at present
    by_cases new : i = s.allocated
    · rw [new, Function.update_self, Option.some.injEq] at found
      subst found
      by_cases same : x = id
      · rw [same, Function.update_self, Option.some.injEq] at present
        rw [← present]
        exact ⟨same, rfl⟩
      · rw [Function.update_of_ne same] at present
        have known := table.serials x thread present
        rw [serial, new, implInv.sync] at known
        exact absurd known (Nat.lt_irrefl _)
    · rw [Function.update_of_ne new] at found
      by_cases same : x = id
      · rw [same, Function.update_self, Option.some.injEq] at present
        rw [← present] at serial
        exact absurd (implInv.sync.trans serial).symm new
      · rw [Function.update_of_ne same] at present
        exact inv.home i impl found x thread present serial
  older := by
    intro i impl thread found present
    rw [State.addThread_impls] at found
    rw [State.addThread_threads] at present
    have sync := implInv.sync
    by_cases new : i = s.allocated
    · rw [new, Function.update_self, Option.some.injEq] at found
      subst found
      rw [Function.update_self, Option.some.injEq] at present
      rw [← present, new, sync]
    · rw [Function.update_of_ne new] at found
      by_cases same : impl.id = id
      · rw [same, Function.update_self, Option.some.injEq] at present
        rw [← present]
        have known := implInv.fresh i (by rw [found]; rfl)
        rw [sync] at known
        exact Nat.le_of_lt known
      · rw [Function.update_of_ne same] at present
        exact inv.older i impl thread found present

/-- A join or detach takes the thread away, or marks it as it marks the object. -/
theorem HomeInv.claim (inv : HomeInv s) {thread : OsThread} (found : s.impls i = some impl)
    (present : s.os.threads impl.id = some thread) (serial : thread.serial = i)
    {after : Option OsThread}
    (marked : ∀ thread', after = some thread' →
      thread'.serial = thread.serial ∧ thread'.detached = true) (event : Event) :
    HomeInv ((s.claim i impl after).record [event]) where
  home := by
    intro j impl' found' x thread' present' serial'
    rw [State.record_impls, State.claim_impls] at found'
    rw [State.record_os, State.claim_threads] at present'
    by_cases own : x = impl.id
    · rw [own, Function.update_self] at present'
      obtain ⟨sameSerial, flag⟩ := marked thread' present'
      obtain rfl : j = i := by rw [← serial', sameSerial, serial]
      rw [Function.update_self, Option.some.injEq] at found'
      rw [← found']
      exact ⟨own, flag⟩
    · rw [Function.update_of_ne own] at present'
      by_cases same : j = i
      · subst same
        exact absurd (inv.home j impl found x thread' present' serial').1 own
      · rw [Function.update_of_ne same] at found'
        exact inv.home j impl' found' x thread' present' serial'
  older := by
    intro j impl' thread' found' present'
    rw [State.record_impls, State.claim_impls] at found'
    rw [State.record_os, State.claim_threads] at present'
    have before : ∃ old, s.impls j = some old ∧ old.id = impl'.id := by
      by_cases same : j = i
      · rw [same, Function.update_self, Option.some.injEq] at found'
        exact ⟨impl, by rw [same, found], by rw [← found']⟩
      · rw [Function.update_of_ne same] at found'
        exact ⟨impl', found', rfl⟩
    obtain ⟨old, foundOld, place⟩ := before
    by_cases own : impl'.id = impl.id
    · rw [own, Function.update_self] at present'
      rw [(marked thread' present').1]
      exact inv.older j old thread foundOld (by rw [place, own, present])
    · rw [Function.update_of_ne own] at present'
      exact inv.older j old thread' foundOld (by rw [place, present'])

theorem Taken.homeInv {claims new : List Nat} (taken : Taken s a new s') (inv : HomeInv s)
    (implInv : ImplInv s) (table : TableInv s) (claimInv : ClaimInv s claims) : HomeInv s' := by
  cases taken with
  | moved transfers | terminated =>
      exact inv.kept (fun _ _ found => found) fun _ thread present => ⟨thread, present, rfl, rfl⟩
  | constructed absent valid free => exact inv.constructed implInv table
  | @joined o env i impl thread act owned found joinable present hasEnded =>
      obtain ⟨thread', present', serial, _, _⟩ := claimInv.attached i impl found joinable
      obtain rfl : thread' = thread := Option.some.inj (present'.symm.trans present)
      exact inv.claim found present serial (by simp) _
  | @detached o env i impl thread act owned found joinable present =>
      obtain ⟨thread', present', serial, _, _⟩ := claimInv.attached i impl found joinable
      obtain rfl : thread' = thread := Option.some.inj (present'.symm.trans present)
      refine inv.claim found present serial ?_ _
      intro kept result
      simp only [Option.ite_none_right_eq_some, Option.some.injEq] at result
      rw [← result.2]
      exact ⟨rfl, rfl⟩
  | finished present =>
      exact inv.kept (fun _ _ found => found) fun _ _ found => ended_before present found
  | @destroyed o i impl env act owned found claimed =>
      refine inv.kept ?_ ?_
      · intro j impl' found'
        change Function.update s.impls i none j = some impl' at found'
        by_cases same : j = i
        · rw [same, Function.update_self] at found'
          contradiction
        · rwa [Function.update_of_ne same] at found'
      · intro x thread found'
        change ((impl.destroy).run (kernel env) s.os).2.threads x = some thread at found'
        rw [destroy_run] at found'
        split at found'
        · exact ⟨thread, found', rfl, rfl⟩
        · rename_i victim present
          split at found'
          · exact ended_before present found'
          · exact ⟨thread, found', rfl, rfl⟩

/-! ## Terminations -/

theorem entries_mono (change : TableChange s s') {entry : Nat × Happening}
    (member : entry ∈ s.entries) : entry ∈ s'.entries := by
  cases change with
  | same os entries => exact entries ▸ member
  | born valid free threads created entries => exact entries ▸ List.mem_append_left _ member
  | happened present inOrder threads created entries =>
      exact entries ▸ List.mem_append_left _ member

theorem mem_life {n : Nat} {kind : Happening} : kind ∈ s.life n ↔ (n, kind) ∈ s.entries := by
  simp [State.life, History.of]

theorem gone_stays (change : TableChange s s') (inv : TableInv s) {n : Nat}
    (gone : threadCycle.reached (s.life n) = some .gone) :
    threadCycle.reached (s'.life n) = some .gone := by
  have after := (change.inv inv).lived n
  obtain ⟨phase, led, _⟩ := after
  have appended : ∃ more, s'.life n = s.life n ++ more := by
    simp only [State.life]
    cases change with
    | same os entries => exact ⟨[], by rw [entries, List.append_nil]⟩
    | born valid free threads created entries => exact ⟨_, by rw [entries, History.of_append]⟩
    | happened present inOrder threads created entries =>
        exact ⟨_, by rw [entries, History.of_append]⟩
  obtain ⟨more, life⟩ := appended
  rw [LifeCycle.reached] at gone
  rw [life, LifeCycle.reached, LifeCycle.after_append, gone, Option.bind_some] at led
  cases more with
  | nil => rw [life, List.append_nil, LifeCycle.reached, gone]
  | cons kind rest =>
      obtain ⟨next, taken, _⟩ := Option.bind_eq_some_iff.mp led
      cases proceeds_of_next taken

/-- A thread is terminated by the end of its own object, which was detached from it, or of
an older object, whose own thread is gone. -/
def TerminatorsKnown (s : State) : Prop :=
  ∀ m i, .terminated m i ∈ s.log → (m = i ∧ .detached ∈ s.life m) ∨
    (i < m ∧ threadCycle.reached (s.life i) = some .gone)

theorem deleteImpl_terminator (inv : HomeInv s) (implInv : ImplInv s) (table : TableInv s)
    (found : s.impls i = some impl) (claimed : impl.detached = true) {m : Nat}
    (terminated : .terminated m i ∈ s.terminations impl.id i) :
    (m = i ∧ .detached ∈ s.life m) ∨ (i < m ∧ threadCycle.reached (s.life i) = some .gone) := by
  rw [State.terminations] at terminated
  split at terminated
  · simp at terminated
  · rename_i thread present
    split at terminated
    · rename_i running
      obtain rfl : m = thread.serial := by simpa using terminated
      obtain ⟨phase, led, inPhase⟩ := table.lived i
      by_cases own : thread.serial = i
      · subst own
        cases inPhase.phase_unique table present
        have flag := (inv.home _ impl found impl.id thread present rfl).2
        rw [OsThread.phase, if_pos running, flag, claimed] at led
        exact .inl ⟨rfl, detached_of_reached led⟩
      · right
        have older := inv.older i impl thread found present
        refine ⟨Nat.lt_of_le_of_ne older (Ne.symm own), ?_⟩
        have known : i < s.os.created := by
          rw [← implInv.sync]
          exact implInv.fresh i (by rw [found]; rfl)
        cases inPhase with
        | unborn unknown => exact absurd known (Nat.not_lt.mpr unknown)
        | gone known absent => exact led
        | @present id other presentOther serial =>
            obtain ⟨rfl, _⟩ := inv.home i impl found id other presentOther serial
            rw [present, Option.some.injEq] at presentOther
            exact absurd (presentOther ▸ serial) own
    · simp at terminated

theorem terminated_new (stepped : s.step a = some s') {m j : Nat}
    (logged : .terminated m j ∈ s'.log) :
    .terminated m j ∈ s.log ∨ ∃ impl, s.impls j = some impl ∧ impl.detached = true ∧
      .terminated m j ∈ s.terminations impl.id j := by
  have taken := step_taken stepped
  generalize s.claims a = new at taken
  cases taken with
  | moved transfers | terminated => exact .inl logged
  | constructed absent valid free =>
      rw [State.addThread_log, List.mem_append, List.mem_singleton] at logged
      exact .inl (logged.resolve_right (by simp))
  | joined | detached | finished =>
      rw [State.record, List.mem_append, List.mem_singleton] at logged
      exact .inl (logged.resolve_right (by simp))
  | @destroyed o i impl env act owned found claimed =>
      rw [State.deleteImpl, State.record, List.mem_append, List.mem_append] at logged
      rcases logged with old | new | destroyed
      · exact .inl old
      · have names : j = i := by
          revert new
          simp only [State.terminations]
          split
          · simp
          · split <;> simp
        subst names
        exact .inr ⟨impl, found, claimed, new⟩
      · simp at destroyed

theorem TerminatorsKnown.step {claims : List Nat} (known : TerminatorsKnown s) (inv : HomeInv s)
    (implInv : ImplInv s) (table : TableInv s) (claimInv : ClaimInv s claims)
    (stepped : s.step a = some s') : TerminatorsKnown s' := by
  intro m i logged
  have change := step_table claimInv stepped
  have before : (m = i ∧ .detached ∈ s.life m) ∨
      (i < m ∧ threadCycle.reached (s.life i) = some .gone) := by
    rcases terminated_new stepped logged with old | ⟨impl, found, claimed, terminated⟩
    · exact known m i old
    · exact deleteImpl_terminator inv implInv table found claimed terminated
  rcases before with ⟨same, detached⟩ | ⟨older, gone⟩
  · exact .inl ⟨same, mem_life.mpr (entries_mono change (mem_life.mp detached))⟩
  · exact .inr ⟨older, gone_stays change table gone⟩

end Step

/-! ## Every run -/

structure PhaseInv (s : State) : Prop where
  impls : ImplInv s
  claims : ∃ claims, ClaimInv s claims
  table : TableInv s
  home : HomeInv s
  terminators : TerminatorsKnown s

theorem phaseInv_initial : PhaseInv .initial where
  impls := implInv_initial
  claims := ⟨[], by constructor <;> simp [State.initial]⟩
  table := by
    constructor
    · rfl
    · simp [State.initial]
    · simp [State.initial]
    · simp [State.initial]
    · intro n
      exact ⟨.unborn, rfl, .unborn (Nat.zero_le n)⟩
  home := by constructor <;> simp [State.initial]
  terminators := by simp [TerminatorsKnown, State.initial]

theorem PhaseInv.step {s s' : State} {a : Action} (inv : PhaseInv s)
    (stepped : s.step a = some s') : PhaseInv s' := by
  obtain ⟨claims, claimInv⟩ := inv.claims
  have taken := step_taken stepped
  exact {
    impls := taken.implInv inv.impls
    claims := ⟨_, taken.claimInv inv.impls claimInv⟩
    table := (step_table claimInv stepped).inv inv.table
    home := taken.homeInv inv.home inv.impls inv.table claimInv
    terminators := inv.terminators.step inv.home inv.impls inv.table claimInv stepped }

theorem run_phaseInv {allowed : State → Action → Prop} {acts : List Action} {s : State}
    (run : Run system allowed acts s) : PhaseInv s := by
  refine run.invariant PhaseInv phaseInv_initial ?_
  intro s a s' inv _ stepped
  exact inv.step stepped

/-- What happened to each OS thread is in the order of its life cycle and tells the phase
that the kernel has it in; so it ends once, is joined or detached once, and is joined
only after its end. -/
structure LivesInOrder (s : State) : Prop where
  lived : ∀ n, ∃ phase, threadCycle.reached (s.life n) = some phase ∧ InPhase s.os n phase
  endedOnce : ∀ n, (s.life n).countP Happening.isEnd ≤ 1
  claimedOnce : ∀ n, (s.life n).countP Happening.isClaim ≤ 1
  endedBeforeJoin : ∀ n, .joined ∈ s.life n →
    ∃ kind, Happening.isEnd kind = true ∧ [kind, .joined].Sublist (s.life n)
  terminators : TerminatorsKnown s

theorem run_livesInOrder {allowed : State → Action → Prop} {acts : List Action} {s : State}
    (run : Run system allowed acts s) : LivesInOrder s := by
  have inv := run_phaseInv run
  refine ⟨inv.table.lived, ?_, ?_, ?_, inv.terminators⟩
  · intro n
    obtain ⟨phase, led, _⟩ := inv.table.lived n
    exact endedOnce_of_reached led
  · intro n
    obtain ⟨phase, led, _⟩ := inv.table.lived n
    exact claimedOnce_of_reached led
  · intro n joined
    obtain ⟨phase, led, _⟩ := inv.table.lived n
    exact endedBeforeJoin_of_reached led joined

/-- The end of object 1 terminates the thread of object 2, which has the identifier of
the joined one; the end of object 0 terminates the thread it was detached from. -/
def terminatesTwo : List Action :=
  [.user (.construct 0 ⟨0, 0, osPriorityNone, none⟩) ⟨1, .osOK, 9⟩, .user (.detach 0) ⟨0, .osOK, 9⟩,
    .user (.construct 1 ⟨0, 0, osPriorityNone, none⟩) ⟨2, .osOK, 9⟩, .finish 2,
    .user (.join 1) ⟨0, .osOK, 9⟩, .user (.construct 2 ⟨0, 0, osPriorityNone, none⟩) ⟨2, .osOK, 9⟩,
    .user (.destroy 1) ⟨0, .osOK, 9⟩, .user (.destroy 0) ⟨0, .osOK, 9⟩]

theorem terminatesTwo_livesInOrder :
    ∃ s, Run system Unrestricted terminatesTwo s ∧
      s.log.filterMap Event.destroys = [1, 0] ∧ LivesInOrder s := by
  have run : Run system Unrestricted _ _ := Run.replayed terminatesTwo rfl
  exact ⟨_, run, rfl, run_livesInOrder run⟩

end CmsisCpp.Thread
