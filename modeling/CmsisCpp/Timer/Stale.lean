import CmsisCpp.Library.History
import CmsisCpp.Timer.OneShot

/-! # Expiries from before a stop

`cmsis_timer::handler` decides by `running()` at the time of the dispatch.  An expiry
that was queued before `stop()` is delivered all the same when the timer has been
started again by then. -/
set_option autoImplicit false

namespace CmsisCpp.Timer

open ActionSystem

/-- The queued expiries and the one that the handler is about to deliver. -/
def State.undelivered (s : State) : List Expiry := s.handler.undelivered.toList ++ s.queue

/-- A timer is started only when none of its expiries is still to be delivered. -/
def StartsSettled (s : State) (a : Action) : Prop :=
  ∀ e ∈ s.undelivered, s.starts a ≠ some e.argument

instance (s : State) (a : Action) : Decidable (StartsSettled s a) :=
  inferInstanceAs (Decidable (∀ e ∈ s.undelivered, _))

/-- An expiry does not pass the check when it was queued before a stop, and none
is delivered from before a start; one that is delivered has expired after a
start and has passed the check. -/
structure DeliversCurrent (s : State) : Prop where
  withdrawn : ∀ e, ¬ [.expired e, .stopped e.argument, .passed e].Sublist s.log
  latest : ∀ e, ¬ [.expired e, .started e.argument, .invoked e].Sublist s.log
  origin : ∀ e, .invoked e ∈ s.log →
    [.started e.argument, .expired e, .passed e, .invoked e].Sublist s.log

/-! ## What a step records -/

structure Records (s : State) (a : Action) (s' : State) (events : List Event) : Prop where
  log : s'.log = s.log ++ events
  started : ∀ i, .started i ∈ events → s.starts a = some i
  stopped : ∀ i, .stopped i ∈ events → s'.isRunning i = false
  expired : ∀ e, .expired e ∈ events → e.serial = s.expiries ∧ s'.expiries = s.expiries + 1
  passed : ∀ e, .passed e ∈ events → events = [.passed e] ∧ s.handler = .check e ∧
    s.isRunning e.argument = true
  invoked : ∀ e, .invoked e ∈ events → events = [.invoked e] ∧ s.handler = .invoke e

section Step
variable {s s' : State} {a : Action} {e : Expiry} {i : ImplId}

theorem TimerInv.isRunning_setRunning {timer : CmsisTimer} (inv : TimerInv s)
    (found : s.impls i = some timer) (osTimer : OsTimer) (running : Bool) (j : ImplId) :
    (s.setRunning timer.id osTimer running).isRunning j =
      if j = i then running else s.isRunning j := by
  by_cases same : j = i
  · subst same
    simp [State.isRunning, State.setRunning, found]
  · cases found' : s.impls j with
    | none => simp [State.isRunning, State.setRunning, found', same]
    | some timer' =>
        have differs : timer'.id ≠ timer.id := fun sameId => same (inv.unique found' found sameId)
        simp [State.isRunning, State.setRunning, found', same, differs]

@[simp] theorem isRunning_record (s : State) (events : List Event) (i : ImplId) :
    (s.record events).isRunning i = s.isRunning i := rfl

@[simp] theorem isRunning_handled (s : State) (e : Expiry) (i : ImplId) :
    (s.handled e).isRunning i = s.isRunning i := rfl

/-- A timer comes to run only by a start. -/
theorem Taken.isRunning_before (taken : Taken s a s') (inv : TimerInv s)
    (running : s'.isRunning i = true) : s.isRunning i = true ∨
      (s.starts a = some i ∧ s'.log = s.log ++ [.started i]) := by
  cases taken with
  | @constructed objs id usec type fresh =>
      left
      obtain ⟨timer, found⟩ := alive_of_isRunning running
      by_cases new : i = s.allocated
      · subst new
        simp [State.isRunning] at running
      · simp only [Function.update_of_ne new] at found
        obtain ⟨_, osTimer, os, _⟩ := inv.impl i timer found
        have differs : timer.id ≠ id := by
          rintro rfl
          rw [fresh] at os
          contradiction
        simpa [State.isRunning, new, found, differs] using running
  | @deleted objs j timer deletes found =>
      left
      by_cases same : i = j
      · subst same
        simp [State.isRunning] at running
      · obtain ⟨timer', found'⟩ := alive_of_isRunning running
        simp only [Function.update_of_ne same] at found'
        have differs : timer'.id ≠ timer.id := fun sameId => same (inv.unique found' found sameId)
        simpa [State.isRunning, same, found', differs] using running
  | @started j timer osTimer starts found os =>
      rw [isRunning_record, inv.isRunning_setRunning found] at running
      by_cases same : i = j
      · subst same
        exact .inr ⟨starts, rfl⟩
      · rw [if_neg same] at running
        exact .inl running
  | @stopped j timer osTimer found os =>
      rw [isRunning_record, inv.isRunning_setRunning found] at running
      simp_all
  | handlerStopped stopping found os =>
      rw [isRunning_handled, isRunning_record, inv.isRunning_setRunning found] at running
      simp_all
  | @expired id osTimer os ran =>
      left
      obtain ⟨timer, found, rfl⟩ := inv.argument id osTimer os
      have kept := inv.isRunning_setRunning found osTimer (osTimer.type = .osTimerPeriodic) i
      change State.isRunning (s.setRunning _ _ _) i = true at running
      rw [kept] at running
      by_cases same : i = osTimer.argument
      · rw [same, inv.isRunning_argument os, ran]
      · rwa [if_neg same] at running
  | _ => exact .inl running

theorem Taken.records (taken : Taken s a s') (inv : TimerInv s) :
    ∃ events, Records s a s' events := by
  cases taken with
  | started starts found os =>
      refine ⟨[.started _], rfl, ?_, ?_, ?_, ?_, ?_⟩ <;> simp_all
  | stopped found os =>
      refine ⟨[.stopped _], rfl, ?_, ?_, ?_, ?_, ?_⟩ <;> simp [inv.isRunning_setRunning found]
  | expired os running =>
      refine ⟨[.expired _], rfl, ?_, ?_, ?_, ?_, ?_⟩ <;> simp [State.record]
  | passed act checking running =>
      refine ⟨[.passed _], rfl, ?_, ?_, ?_, ?_, ?_⟩ <;> simp_all
  | dropped act checking notRunning =>
      refine ⟨[.handled _], rfl, ?_, ?_, ?_, ?_, ?_⟩ <;> simp
  | invoked invoking found =>
      refine ⟨[.invoked _], rfl, ?_, ?_, ?_, ?_, ?_⟩ <;> simp_all
  | satisfied calling =>
      refine ⟨[.handled _], rfl, ?_, ?_, ?_, ?_, ?_⟩ <;> simp
  | handlerStopped stopping found os =>
      refine ⟨[.stopped _, .handled _], List.append_assoc .., ?_, ?_, ?_, ?_, ?_⟩ <;>
        simp [inv.isRunning_setRunning found]
  | _ => refine ⟨[], (List.append_nil _).symm, ?_, ?_, ?_, ?_, ?_⟩ <;> simp

/-! ## What holds of the expiries that are still to be delivered -/

structure StaleInv (s : State) : Prop where
  logged : ∀ e, .expired e ∈ s.log → e.serial < s.expiries
  origin : ∀ e ∈ s.undelivered, [.started e.argument, .expired e].Sublist s.log
  current : ∀ e ∈ s.undelivered, ¬ [.expired e, .started e.argument].Sublist s.log
  stopped : ∀ e, e ∈ s.queue ∨ s.handler = .check e →
    [.expired e, .stopped e.argument].Sublist s.log → s.isRunning e.argument = false
  checked : ∀ e, s.handler = .invoke e →
    [.started e.argument, .expired e, .passed e].Sublist s.log
  running : ∀ i, s.isRunning i = true → .started i ∈ s.log

theorem mem_undelivered :
    e ∈ s.undelivered ↔ e ∈ s.queue ∨ s.handler = .check e ∨ s.handler = .invoke e := by
  cases handler : s.handler <;>
    simp [State.undelivered, HandlerPc.undelivered, handler, or_comm, eq_comm]

theorem Taken.undelivered_before (taken : Taken s a s') (inv : TimerInv s)
    (member : e ∈ s'.undelivered) : e ∈ s.undelivered ∨
      (e.serial = s.expiries ∧ s.isRunning e.argument = true ∧
        s'.log = s.log ++ [.expired e]) := by
  rw [mem_undelivered] at member ⊢
  rcases member with queued | checking | invoking
  · rcases taken.queued_before inv queued with old | ⟨serial, running, _, log⟩
    · exact .inl (.inl old)
    · exact .inr ⟨serial, running, log⟩
  · rcases taken.checking_before checking with old | queued
    · exact .inl (.inr (.inl old))
    · exact .inl (.inl queued)
  · rcases taken.invoking_before invoking with old | ⟨checking, _⟩
    · exact .inl (.inr (.inr old))
    · exact .inl (.inr (.inl checking))

theorem StaleInv.nothing_after (stale : StaleInv s) {event : Event}
    (serial : e.serial = s.expiries) (differs : event ≠ .expired e)
    (log : s'.log = s.log ++ [.expired e]) : ¬ [.expired e, event].Sublist s'.log := by
  intro sub
  rw [log] at sub
  have old := History.sublist_of_notMem_new rfl (by simpa using differs) sub
  have earlier := stale.logged e (old.subset List.mem_cons_self)
  omega

theorem Records.kept {events pattern : List Event} (records : Records s a s' events)
    (sub : pattern.Sublist s.log) : pattern.Sublist s'.log := by
  rw [records.log]
  exact List.sublist_append_of_sublist_left sub

/-- Nobody starts the timer while one of its expiries is still to be delivered. -/
theorem StaleInv.current_after (stale : StaleInv s) (inv : TimerInv s) (taken : Taken s a s')
    (settled : StartsSettled s a) (member : e ∈ s'.undelivered) :
    ¬ [.expired e, .started e.argument].Sublist s'.log := by
  obtain ⟨events, records⟩ := taken.records inv
  rcases taken.undelivered_before inv member with old | ⟨serial, _, log⟩
  · intro sub
    rw [records.log] at sub
    rcases History.sublist_or_mem_new rfl sub with before | new
    · exact stale.current e old before
    · exact settled e old (records.started _ new)
  · exact stale.nothing_after serial (by simp) log

/-- A stop after the expiry leaves the timer stopped until the check. -/
theorem StaleInv.stopped_after (stale : StaleInv s) (inv : TimerInv s) (taken : Taken s a s')
    (settled : StartsSettled s a) (waiting : e ∈ s'.queue ∨ s'.handler = .check e)
    (sub : [.expired e, .stopped e.argument].Sublist s'.log) :
    s'.isRunning e.argument = false := by
  obtain ⟨events, records⟩ := taken.records inv
  have before : (e ∈ s.queue ∨ s.handler = .check e) ∨
      (e.serial = s.expiries ∧ s'.log = s.log ++ [.expired e]) := by
    rcases waiting with queued | checking
    · rcases taken.queued_before inv queued with old | ⟨serial, _, _, log⟩
      · exact .inl (.inl old)
      · exact .inr ⟨serial, log⟩
    · exact .inl (taken.checking_before checking).symm
  rcases before with old | ⟨serial, log⟩
  · have member : e ∈ s.undelivered := by
      rw [mem_undelivered]
      exact old.imp_right .inl
    rw [records.log] at sub
    rcases History.sublist_or_mem_new rfl sub with earlier | new
    · rw [← Bool.not_eq_true]
      intro running
      rcases taken.isRunning_before inv running with ran | ⟨starts, _⟩
      · rw [stale.stopped e old earlier] at ran
        contradiction
      · exact settled e member starts
    · exact records.stopped _ new
  · exact absurd sub (stale.nothing_after serial (by simp) log)

theorem StaleInv.step (stale : StaleInv s) (inv : TimerInv s) (taken : Taken s a s')
    (settled : StartsSettled s a) : StaleInv s' := by
  obtain ⟨events, records⟩ := taken.records inv
  constructor
  · intro e logged
    have grown := taken.change.expiries_le
    rw [records.log] at logged
    rcases List.mem_append.mp logged with old | new
    · have earlier := stale.logged e old
      omega
    · have fresh := records.expired e new
      omega
  · intro e member
    rcases taken.undelivered_before inv member with old | ⟨_, running, log⟩
    · exact records.kept (stale.origin e old)
    · rw [log]
      have started := List.singleton_sublist.mpr (stale.running _ running)
      exact started.append (List.Sublist.refl [Event.expired e])
  · intro e member
    exact stale.current_after inv taken settled member
  · intro e waiting sub
    exact stale.stopped_after inv taken settled waiting sub
  · intro e invoking
    rcases taken.invoking_before invoking with old | ⟨checking, _, log⟩
    · exact records.kept (stale.checked e old)
    · have member : e ∈ s.undelivered := mem_undelivered.mpr (.inr (.inl checking))
      rw [log]
      exact (stale.origin e member).append (List.Sublist.refl [Event.passed e])
  · intro i running
    rcases taken.isRunning_before inv running with ran | ⟨_, log⟩
    · rw [records.log]
      exact List.mem_append_left _ (stale.running i ran)
    · simp [log]

theorem DeliversCurrent.step (delivers : DeliversCurrent s) (stale : StaleInv s) (inv : TimerInv s)
    (taken : Taken s a s') : DeliversCurrent s' := by
  obtain ⟨events, records⟩ := taken.records inv
  constructor
  · intro e sub
    rw [records.log] at sub
    rcases History.sublist_or_mem_new rfl sub with old | new
    · exact delivers.withdrawn e old
    · obtain ⟨only, checking, running⟩ := records.passed e new
      rw [only] at sub
      have stopped := History.dropLast_sublist rfl sub
      rw [stale.stopped e (.inr checking) stopped] at running
      contradiction
  · intro e sub
    rw [records.log] at sub
    rcases History.sublist_or_mem_new rfl sub with old | new
    · exact delivers.latest e old
    · obtain ⟨only, invoking⟩ := records.invoked e new
      rw [only] at sub
      have restarted := History.dropLast_sublist rfl sub
      have member : e ∈ s.undelivered := mem_undelivered.mpr (.inr (.inr invoking))
      exact stale.current e member restarted
  · intro e invoked
    rw [records.log] at invoked ⊢
    rcases List.mem_append.mp invoked with old | new
    · exact List.sublist_append_of_sublist_left (delivers.origin e old)
    · obtain ⟨only, invoking⟩ := records.invoked e new
      rw [only]
      exact (stale.checked e invoking).append (List.Sublist.refl [Event.invoked e])

end Step

/-! ## Runs -/

theorem run_staleInv {freq : Int} {acts : List Action} {s : State}
    (run : Run (system freq) StartsSettled acts s) : StaleInv s := by
  refine run.invariant_under TimerInv StaleInv run_timerInv ?_ ?_
  · constructor <;>
      simp [system, State.initial, State.undelivered, HandlerPc.undelivered, State.isRunning]
  · intro s a s' inv stale settled stepped
    exact stale.step inv (step_taken stepped) settled

/-- In a run in which a timer is started only when all its expiries have been
handled, every callback stems from an expiry since the latest start. -/
theorem startsSettled_deliversCurrent {freq : Int} {acts : List Action} {s : State}
    (run : Run (system freq) StartsSettled acts s) : DeliversCurrent s := by
  refine run.invariant_under (fun s => TimerInv s ∧ StaleInv s) DeliversCurrent
    (fun before => ⟨run_timerInv before, run_staleInv before⟩) ?_ ?_
  · constructor <;> simp [system, State.initial]
  · intro s a s' known delivers _ stepped
    exact delivers.step known.2 known.1 (step_taken stepped)

def startPeriodic : List Action :=
  [.user (.construct 0 1000 true false) ⟨1, .osOK⟩, .user (.start 0) ⟨0, .osOK⟩]

/-- The timer is stopped and started while its expiry is queued. -/
def restartedQueued : List Action :=
  startPeriodic ++ [.expire 1, .user (.stop 0) ⟨0, .osOK⟩, .user (.start 0) ⟨0, .osOK⟩,
    .dispatch, .check, .invoke]

theorem restartedQueued_stale :
    ¬ ∀ (acts : List Action) (s : State), Run (system 1000) Unrestricted acts s →
      DeliversCurrent s := by
  intro claimed
  have run : Run (system 1000) Unrestricted _ _ := Run.replayed restartedQueued rfl
  have withdrawn := (claimed _ _ run).withdrawn ⟨0, 0⟩
  revert withdrawn
  decide

def restartedSettled : List Action :=
  startPeriodic ++ [.expire 1, .user (.stop 0) ⟨0, .osOK⟩, .dispatch, .check,
    .user (.start 0) ⟨0, .osOK⟩, .expire 1, .dispatch, .check, .invoke, .callback true]

theorem restartedSettled_current :
    ∃ s, Run (system 1000) StartsSettled restartedSettled s ∧ DeliversCurrent s := by
  have run : Run (system 1000) StartsSettled _ _ := Run.replayed restartedSettled rfl
  exact ⟨_, run, startsSettled_deliversCurrent run⟩

end CmsisCpp.Timer
