import CmsisCpp.ConditionVariable.Order
import CmsisCpp.Library.Refinement
import CmsisCpp.Library.WaitQueue

/-! # The condition variable is a line of waiters

What a condition variable is for: its calls enrol in a line, notifiers serve the
line from the front, and a call that times out withdraws.  The threads with
their critical sections and semaphores refine this line in every run, acquisitions
that expire late or throw included. -/
set_option autoImplicit false

namespace CmsisCpp.ConditionVariable

open ActionSystem WaitQueue

def Pc.withdrawn : Pc → Bool
  | .unlockErase | .leave (.returned .timeout) => true
  | _ => false

structure Represents (freq : Int) (s : State) (line : Line Call) : Prop where
  invariants : Invariants freq s
  once : RegisteredOnce s
  waiting : line.waiting = s.waiters
  enrolled : line.enrolled = s.registrations
  served : line.served = s.notified
  withdrawing : ∀ t, (s.pc t).withdrawn = true → s.current t ∈ line.withdrawn
  left : ∀ c usec owns, .left c usec (.returned .timeout) owns ∈ s.log → c ∈ line.withdrawn

section Step
variable {freq : Int} {s s' : State} {t : ThreadId} {answer : Answer}

inductive LineChange (s : State) (t : ThreadId) (s' : State) : Prop
  | same (waiters : s'.waiters = s.waiters) (registrations : s'.registrations = s.registrations)
      (notified : s'.notified = s.notified) (stays : s.pc t = .erase → s.current t ∉ s.mWait)
  | enrolled (pc : s.pc t = .insert) (waiters : s'.waiters = s.waiters ++ [s.current t])
      (registrations : s'.registrations = s.registrations ++ [s.current t])
      (notified : s'.notified = s.notified)
  | served {c : Call} (waiters : s.waiters = c :: s'.waiters)
      (registrations : s'.registrations = s.registrations)
      (notified : s'.notified = s.notified ++ [c]) (notErase : s.pc t ≠ .erase)
  | withdrew (pc : s.pc t = .erase) (present : s.current t ∈ s.waiters)
      (waiters : s'.waiters = s.waiters.erase (s.current t))
      (registrations : s'.registrations = s.registrations) (notified : s'.notified = s.notified)

theorem Taken.lineChange_erase (taken : Taken freq s t answer s') (inv : Invariants freq s)
    (pc : s.pc t = .erase) : LineChange s t s' := by
  have shown := inv.queue.list.of_holder inv.mutex (t := t) (by rw [pc]; rfl) (by simp [pc])
    (by simp [pc])
  cases taken with
  | erased _ present =>
      refine .withdrew pc (shown ▸ present) ?_ ?_ ?_
      · simp [State.waiters, State.goto, State.record, waitersAfter]
      · exact (registrations_record _ _).trans (List.append_nil _)
      · exact (notified_record _ _).trans (List.append_nil _)
  | eraseMissing _ missing =>
      refine .same ?_ ?_ ?_ fun _ => missing
      · rw [shown] at missing
        have kept := waiters_record { s with status := .undefined } (.removed (s.current t))
        exact kept.trans (List.erase_of_not_mem missing)
      · exact (registrations_record _ _).trans (List.append_nil _)
      · exact (notified_record _ _).trans (List.append_nil _)
  | released target _ _ => exact absurd pc target.not_erase
  | dangling target _ => exact absurd pc target.not_erase
  | overflowed target _ _ => exact absurd pc target.not_erase
  | _ => simp_all

theorem Taken.lineChange (taken : Taken freq s t answer s') (inv : Invariants freq s) :
    LineChange s t s' := by
  by_cases pc : s.pc t = .erase
  · exact taken.lineChange_erase inv pc
  · cases taken.noticeChange inv.mutex inv.queue with
    | same registrations notified waiters =>
        exact .same (waiters.resolve_left pc) registrations notified fun at_erase => absurd at_erase pc
    | registered atInsert notified registrations waiters =>
        exact .enrolled atInsert waiters registrations notified
    | released target registrations notified waiters =>
        exact .served waiters registrations notified pc

theorem Taken.withdrawn_self (taken : Taken freq s t answer s')
    (withdrawn : (s'.pc t).withdrawn = true) : s'.current t = s.current t ∧
      ((s.pc t = .erase ∧ s.current t ∈ s.mWait) ∨ (s.pc t).withdrawn = true) := by
  cases taken with
  | erased pc present => exact ⟨rfl, .inl ⟨pc, present⟩⟩
  | unlockErase pc => exact ⟨rfl, .inr (by rw [pc]; rfl)⟩
  | dangling target destroyed => exact ⟨rfl, .inr withdrawn⟩
  | overflowed target found full => exact ⟨rfl, .inr withdrawn⟩
  | released target found room => cases target <;> simp [State.goto, Pc.withdrawn] at withdrawn
  | left pc => simp [State.finish, State.goto, Pc.withdrawn] at withdrawn
  | _ => simp_all [State.goto, State.finish, State.record, State.unlockMutex, Pc.withdrawn]

/-- The line after a step stands for the state after it, when the two agree on the
queue and the line remembers the call that has just withdrawn. -/
theorem Represents.advance {line line' : Line Call} (represents : Represents freq s line)
    (taken : Taken freq s t answer s') (waiting : line'.waiting = s'.waiters)
    (enrolled : line'.enrolled = s'.registrations) (served : line'.served = s'.notified)
    (grows : ∀ c ∈ line.withdrawn, c ∈ line'.withdrawn)
    (withdraws : s.pc t = .erase → s.current t ∈ s.mWait → s.current t ∈ line'.withdrawn) :
    Represents freq s' line' where
  invariants := taken.invariants represents.invariants
  once := taken.registeredOnce represents.once
  waiting := waiting
  enrolled := enrolled
  served := served
  withdrawing other withdrawn := by
    by_cases same : other = t
    · subst same
      obtain ⟨current, ⟨pc, present⟩ | before⟩ := taken.withdrawn_self withdrawn
      · rw [current]
        exact withdraws pc present
      · rw [current]
        exact grows _ (represents.withdrawing other before)
    · rw [taken.current_other same]
      rw [taken.pc_other same] at withdrawn
      exact grows _ (represents.withdrawing other withdrawn)
  left c usec owns logged := by
    rcases taken.left_logged logged with old | ⟨rfl, _, _, leaves | ⟨_, exn, threw⟩, _⟩
    · exact grows c (represents.left c usec owns old)
    · exact grows _ (represents.withdrawing t (by rw [leaves]; rfl))
    · contradiction

theorem Represents.step {line : Line Call} (represents : Represents freq s line)
    (taken : Taken freq s t answer s') :
    ∃ moves line', (WaitQueue.system Call).Path line moves line' ∧ Represents freq s' line' := by
  have inv := represents.invariants
  cases taken.lineChange inv with
  | same waiters registrations notified stays =>
      refine ⟨[], line, .stay line, represents.advance taken ?_ ?_ ?_ ?_ ?_⟩
      · rw [waiters, represents.waiting]
      · rw [registrations, represents.enrolled]
      · rw [notified, represents.served]
      · exact fun _ member => member
      · exact fun pc present => absurd present (stays pc)
  | enrolled pc waiters registrations notified =>
      have fresh : s.current t ∉ line.enrolled := by
        rw [represents.enrolled]
        exact represents.once.fresh pc
      refine ⟨[.enrol (s.current t)], _, .one (if_neg fresh), represents.advance taken ?_ ?_ ?_ ?_ ?_⟩
      · rw [waiters, represents.waiting]
      · rw [registrations, represents.enrolled]
      · rw [notified, represents.served]
      · exact fun _ member => member
      · simp [pc]
  | @served c waiters registrations notified notErase =>
      have front : line.waiting = c :: s'.waiters := by rw [represents.waiting, waiters]
      have serves : line.step .serve =
          some { line with waiting := s'.waiters, served := line.served ++ [c] } := by
        simp only [Line.step, front]
      refine ⟨[.serve], _, .one serves, represents.advance taken rfl ?_ ?_ ?_ ?_⟩
      · rw [registrations, represents.enrolled]
      · rw [notified, represents.served]
      · exact fun _ member => member
      · exact fun pc _ => absurd pc notErase
  | withdrew pc present waiters registrations notified =>
      have waits : s.current t ∈ line.waiting := by rwa [represents.waiting]
      refine ⟨[.withdraw (s.current t)], _, .one (if_pos waits),
        represents.advance taken ?_ ?_ ?_ ?_ ?_⟩
      · rw [waiters, represents.waiting]
      · rw [registrations, represents.enrolled]
      · rw [notified, represents.served]
      · exact fun c member => List.mem_append_left _ member
      · exact fun _ _ => List.mem_append_right _ (List.mem_singleton_self _)

end Step

theorem Represents.initial (freq : Int) : Represents freq .initial (WaitQueue.system Call).initial where
  invariants := .initial freq
  once _ := .inl rfl
  waiting := rfl
  enrolled := rfl
  served := rfl
  withdrawing t withdrawn := by simp [State.initial, Pc.withdrawn] at withdrawn
  left c usec owns logged := by simp [State.initial] at logged

theorem refines_line (freq : Int) (allowed : State → Action → Prop) :
    Refines (system freq) allowed (WaitQueue.system Call) (Represents freq) where
  initial := .initial freq
  step _ _ _ _ represents _ stepped := represents.step (step_taken stepped).2

/-- Every run of the threads is a run of the line, of which `m_wait` shows the
waiting calls whenever `m_mutex` is free. -/
theorem run_line {freq : Int} {allowed : State → Action → Prop} {acts : List Action} {s : State}
    (run : Run (system freq) allowed acts s) :
    ∃ moves line, Run (WaitQueue.system Call) Unrestricted moves line ∧
      line.enrolled = s.registrations ∧ line.served = s.notified ∧
      (s.mMutex = none → line.waiting = s.mWait) ∧
      ∀ c usec owns, .left c usec (.returned .timeout) owns ∈ s.log → c ∈ line.withdrawn := by
  obtain ⟨moves, line, lineRun, represents⟩ := (refines_line freq allowed).run run
  refine ⟨moves, line, lineRun, represents.enrolled, represents.served, ?_, represents.left⟩
  intro free
  rw [represents.waiting, represents.invariants.queue.list.of_free free]

theorem notifiedInTime_line :
    ∃ s, Run (system 1000) Unrestricted notifiedInTime s ∧
      ∃ moves line, Run (WaitQueue.system Call) Unrestricted moves line ∧
        line.enrolled = s.registrations ∧ line.served = s.notified ∧
        (s.mMutex = none → line.waiting = s.mWait) ∧
        ∀ c usec owns, .left c usec (.returned .timeout) owns ∈ s.log → c ∈ line.withdrawn := by
  have run : Run (system 1000) Unrestricted _ _ := Run.replayed notifiedInTime rfl
  exact ⟨_, run, run_line run⟩

/-! ## What the line says about the calls -/

/-- The calls are notified in the order of their registration, each at most once and
none while an earlier one still waits; a call that returns `no_timeout` was
notified, one that returns `timeout` was not and does not wait any more. -/
structure NotifiesFairly (s : State) : Prop where
  once : s.registrations.Nodup
  inOrder : (s.notified ++ s.waiters).Sublist s.registrations
  returned : ∀ c usec owns, .left c usec (.returned .noTimeout) owns ∈ s.log →
    s.notified.count c = 1 ∧ c ∉ s.waiters
  timedOut : ∀ c usec owns, .left c usec (.returned .timeout) owns ∈ s.log →
    c ∈ s.registrations ∧ c ∉ s.notified ∧ c ∉ s.waiters

theorem run_notifiesFairly {freq : Int} {allowed : State → Action → Prop} {acts : List Action}
    {s : State} (run : Run (system freq) allowed acts s) : NotifiesFairly s := by
  obtain ⟨line, represents, fair⟩ := (refines_line freq allowed).invariant Line.Fair fair_initial
    (fun _ _ _ fair taken => Line.step_fair fair taken) run
  constructor
  · rw [← represents.enrolled]
    exact fair.once
  · rw [← represents.enrolled, ← represents.served, ← represents.waiting]
    exact fair.inOrder
  · intro c usec owns logged
    have notified := mem_notified.mpr (represents.invariants.history.leftNotified c usec owns logged)
    rw [← represents.served] at notified ⊢
    rw [← represents.waiting]
    exact ⟨List.count_eq_one_of_mem fair.served_nodup notified, fair.served_not_waiting notified⟩
  · intro c usec owns logged
    have withdrawn := represents.left c usec owns logged
    rw [← represents.enrolled, ← represents.served, ← represents.waiting]
    refine ⟨fair.mem_enrolled_iff.mpr (.inr (.inr withdrawn)), ?_, ?_⟩
    · exact fun served => fair.served_not_withdrawn served withdrawn
    · exact fun waits => fair.waiting_not_withdrawn waits withdrawn

theorem notifiedInTime_fair :
    ∃ s, Run (system 1000) Unrestricted notifiedInTime s ∧ NotifiesFairly s := by
  have run : Run (system 1000) Unrestricted _ _ := Run.replayed notifiedInTime rfl
  exact ⟨_, run, run_notifiesFairly run⟩

end CmsisCpp.ConditionVariable
