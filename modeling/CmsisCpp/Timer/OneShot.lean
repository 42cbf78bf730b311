import CmsisCpp.Timer.Steps

/-! # One-shot timers and the handler's guard

`cmsis_timer::handler` drops an expiry when the timer is not running.  The OS stops a
one-shot timer at its expiry, so its callback is invoked only when the timer has
been started again before the expiry is dispatched. -/
set_option autoImplicit false

namespace CmsisCpp.Timer

open ActionSystem CallScript

/-! ## What a step does to the expiries -/

def Event.isExpiry : Event → Bool
  | .expired _ | .invoked _ | .handled _ => true
  | .started _ | .stopped _ | .passed _ => false

def State.expiryLog (s : State) : List Event := s.log.filter Event.isExpiry

inductive Change (s : State) (a : Action) (s' : State) : Prop
  | silent (handler : s'.handler = s.handler) (queue : s'.queue = s.queue)
      (expiries : s'.expiries = s.expiries) (log : s'.expiryLog = s.expiryLog)
  | expired {e : Expiry} (fresh : e.serial = s.expiries) (handler : s'.handler = s.handler)
      (queue : s'.queue = s.queue ++ [e]) (expiries : s'.expiries = s.expiries + 1)
      (log : s'.expiryLog = s.expiryLog ++ [.expired e])
  | dispatched {e : Expiry} (idle : s.handler = .idle) (handler : s'.handler = .check e)
      (queue : s.queue = e :: s'.queue) (expiries : s'.expiries = s.expiries)
      (log : s'.expiryLog = s.expiryLog)
  | passed {e : Expiry} (checking : s.handler = .check e) (handler : s'.handler = .invoke e)
      (queue : s'.queue = s.queue) (expiries : s'.expiries = s.expiries)
      (log : s'.expiryLog = s.expiryLog)
  | invoked {e : Expiry} (invoking : s.handler = .invoke e)
      (handler : s'.handler = .callback e) (queue : s'.queue = s.queue)
      (expiries : s'.expiries = s.expiries) (log : s'.expiryLog = s.expiryLog ++ [.invoked e])
  | dropped {e : Expiry} (act : a = .check) (checking : s.handler = .check e)
      (notRunning : s.isRunning e.argument = false) (handler : s'.handler = .idle)
      (queue : s'.queue = s.queue) (expiries : s'.expiries = s.expiries)
      (log : s'.expiryLog = s.expiryLog ++ [.handled e])
  | unsatisfied {e : Expiry} (called : s.handler = .callback e) (handler : s'.handler = .stop e)
      (queue : s'.queue = s.queue) (expiries : s'.expiries = s.expiries)
      (log : s'.expiryLog = s.expiryLog)
  | returned {e : Expiry} (called : s.handler = .callback e ∨ s.handler = .stop e)
      (handler : s'.handler = .idle) (queue : s'.queue = s.queue)
      (expiries : s'.expiries = s.expiries) (log : s'.expiryLog = s.expiryLog ++ [.handled e])

section History
variable {s s' : State} {a : Action} {e : Expiry}

@[simp] theorem expiryLog_record (s : State) (events : List Event) :
    (s.record events).expiryLog = s.expiryLog ++ events.filter Event.isExpiry :=
  List.filter_append ..

@[simp] theorem mem_expiryLog {event : Event} :
    event ∈ s.expiryLog ↔ event ∈ s.log ∧ event.isExpiry = true :=
  List.mem_filter

@[simp] theorem count_expiryLog : s.expiryLog.count (.invoked e) = s.log.count (.invoked e) :=
  List.count_filter rfl

theorem Taken.change (taken : Taken s a s') : Change s a s' := by
  cases taken with
  | expired os running => exact .expired rfl rfl rfl rfl (expiryLog_record _ _)
  | dispatched idle queue => exact .dispatched idle rfl queue rfl rfl
  | passed act checking running =>
      exact .passed checking rfl rfl rfl ((expiryLog_record _ _).trans (List.append_nil _))
  | dropped act checking notRunning =>
      exact .dropped act checking notRunning rfl rfl rfl (expiryLog_record _ _)
  | invoked invoking found => exact .invoked invoking rfl rfl rfl (expiryLog_record _ _)
  | satisfied calling => exact .returned (.inl calling) rfl rfl rfl (expiryLog_record _ _)
  | unsatisfied act calling => exact .unsatisfied calling rfl rfl rfl rfl
  | handlerStopped stopping found os =>
      refine .returned (.inr stopping) rfl rfl rfl ((expiryLog_record _ _).trans ?_)
      exact congrArg (· ++ _) ((expiryLog_record _ _).trans (List.append_nil _))
  | started starts found os =>
      exact .silent rfl rfl rfl ((expiryLog_record _ _).trans (List.append_nil _))
  | stopped found os =>
      exact .silent rfl rfl rfl ((expiryLog_record _ _).trans (List.append_nil _))
  | _ => exact .silent rfl rfl rfl rfl

end History

/-! ## The life of an expiry -/

/-- Queued expiries are distinct, and an expiry that has not been delivered, or
that is still to come, has invoked nothing. -/
structure ExpiryInv (s : State) : Prop where
  known : ∀ e ∈ s.queue, e.serial < s.expiries
  nodup : s.queue.Nodup
  held : ∀ e, s.handler.undelivered = some e → e.serial < s.expiries ∧ e ∉ s.queue
  uninvoked : ∀ e, (e ∈ s.queue ∨ s.handler.undelivered = some e ∨ s.expiries ≤ e.serial) →
    s.log.count (.invoked e) = 0

/-- The callback has not been invoked for an expiry that is to be delivered, and
once for one that has been. -/
def Delivered (s : State) (e : Expiry) : Prop :=
  ((e ∈ s.queue ∨ s.handler.undelivered = some e) ∧ s.log.count (.invoked e) = 0) ∨
    ((s.handler = .callback e ∨ s.handler = .stop e ∨ .handled e ∈ s.log) ∧
      s.log.count (.invoked e) = 1)

def DeliversOnce (i : ImplId) (s : State) : Prop :=
  ∀ e, e.argument = i → .expired e ∈ s.log → Delivered s e

/-- The handler finds the timer `i` running whenever it checks one of its expiries. -/
def RunningWhenChecked (i : ImplId) (s : State) (a : Action) : Prop :=
  match a, s.handler with
  | .check, .check e => e.argument = i → s.isRunning i = true
  | _, _ => True

instance (i : ImplId) (s : State) (a : Action) : Decidable (RunningWhenChecked i s a) := by
  unfold RunningWhenChecked
  split <;> infer_instance

section Step
variable {s s' : State} {a : Action} {e : Expiry}

def Awaiting (s : State) (e : Expiry) : Prop :=
  e ∈ s.queue ∨ s.handler.undelivered = some e ∨ s.expiries ≤ e.serial

theorem Change.expiries_le (change : Change s a s') : s.expiries ≤ s'.expiries := by
  cases change <;> omega

theorem Change.queued_before (change : Change s a s') (member : e ∈ s'.queue) :
    e ∈ s.queue ∨ (e.serial = s.expiries ∧ s'.expiries = s.expiries + 1) := by
  cases change with
  | expired fresh handler queue expiries log =>
      rw [queue, List.mem_append, List.mem_singleton] at member
      rcases member with old | rfl
      · exact .inl old
      · exact .inr ⟨fresh, expiries⟩
  | dispatched idle handler queue expiries log =>
      left
      rw [queue]
      exact List.mem_cons_of_mem _ member
  | _ =>
      left
      simp_all

/-- What the handler has still to deliver it had before, or it was the head of the queue. -/
theorem Change.undelivered_before (change : Change s a s')
    (undelivered : s'.handler.undelivered = some e) :
    s.handler.undelivered = some e ∨ s.queue = e :: s'.queue := by
  cases change with
  | dispatched idle handler queue expiries log =>
      simp only [handler, HandlerPc.undelivered, Option.some.injEq] at undelivered
      exact .inr (undelivered ▸ queue)
  | _ =>
      left
      simp_all [HandlerPc.undelivered]

theorem Change.awaiting_before (change : Change s a s') (awaiting : Awaiting s' e) :
    Awaiting s e := by
  rcases awaiting with member | undelivered | later
  · rcases change.queued_before member with old | ⟨fresh, _⟩
    · exact .inl old
    · exact .inr (.inr (by omega))
  · rcases change.undelivered_before undelivered with same | queue
    · exact .inr (.inl same)
    · exact .inl (queue ▸ List.mem_cons_self)
  · have grown := change.expiries_le
    exact .inr (.inr (by omega))

theorem Change.count_other (change : Change s a s')
    (other : s.handler = .invoke e → s'.handler ≠ .callback e) :
    s'.log.count (.invoked e) = s.log.count (.invoked e) := by
  rw [← count_expiryLog, ← count_expiryLog]
  cases change with
  | @invoked current invoking handler queue expiries log =>
      have differs : current ≠ e := by
        rintro rfl
        exact other invoking handler
      simp [log, differs]
  | _ =>
      rename_i log
      simp [log]

theorem Change.count_of_awaiting (change : Change s a s') (inv : ExpiryInv s)
    (awaiting : Awaiting s' e) : s'.log.count (.invoked e) = s.log.count (.invoked e) := by
  apply change.count_other
  intro invoking handler
  obtain ⟨earlier, notQueued⟩ := inv.held e (by rw [invoking]; rfl)
  rcases awaiting with member | contrary | later
  · rcases change.queued_before member with old | ⟨fresh, _⟩
    · exact notQueued old
    · omega
  · rw [handler] at contrary
    contradiction
  · have grown := change.expiries_le
    omega

theorem Change.queue_nodup (change : Change s a s') (inv : ExpiryInv s) : s'.queue.Nodup := by
  have nodup := inv.nodup
  cases change with
  | @expired new fresh handler queue expiries log =>
      rw [queue, List.nodup_append]
      refine ⟨nodup, by simp, ?_⟩
      intro e member e' isNew
      rintro rfl
      have earlier := inv.known e member
      rw [List.mem_singleton.mp isNew] at earlier
      omega
  | dispatched idle handler queue expiries log =>
      rw [queue] at nodup
      exact nodup.of_cons
  | _ =>
      rename_i queue expiries log
      rwa [queue]

theorem Change.expiryInv (change : Change s a s') (inv : ExpiryInv s) : ExpiryInv s' where
  known := by
    intro e member
    have grown := change.expiries_le
    rcases change.queued_before member with old | ⟨fresh, expiries⟩
    · have earlier := inv.known e old
      omega
    · omega
  nodup := change.queue_nodup inv
  held := by
    intro e undelivered
    have grown := change.expiries_le
    rcases change.undelivered_before undelivered with same | queue
    · obtain ⟨earlier, notQueued⟩ := inv.held e same
      refine ⟨by omega, ?_⟩
      intro member
      rcases change.queued_before member with old | ⟨fresh, _⟩
      · exact notQueued old
      · omega
    · have earlier := inv.known e (queue ▸ List.mem_cons_self)
      refine ⟨by omega, ?_⟩
      have nodup := inv.nodup
      rw [queue] at nodup
      exact (List.nodup_cons.mp nodup).1
  uninvoked := by
    intro e awaiting
    rw [change.count_of_awaiting inv awaiting]
    exact inv.uninvoked e (change.awaiting_before awaiting)

theorem Change.queued_after (change : Change s a s') (member : e ∈ s.queue) :
    e ∈ s'.queue ∨ s'.handler.undelivered = some e := by
  cases change with
  | dispatched idle handler queue expiries log =>
      rw [queue] at member
      rcases List.mem_cons.mp member with rfl | later
      · right
        rw [handler]
        rfl
      · exact .inl later
  | _ =>
      left
      simp_all

theorem Change.handled_after (change : Change s a s') (handled : .handled e ∈ s.log) :
    .handled e ∈ s'.log := by
  have before : .handled e ∈ s.expiryLog := mem_expiryLog.mpr ⟨handled, rfl⟩
  have after : .handled e ∈ s'.expiryLog := by
    cases change <;> simp_all
  exact (mem_expiryLog.mp after).1

/-- A delivered expiry is with the callback or the stop that follows it, or has been
handled. -/
theorem Change.stage_after (change : Change s a s')
    (stage : s.handler = .callback e ∨ s.handler = .stop e ∨ .handled e ∈ s.log) :
    s'.handler = .callback e ∨ s'.handler = .stop e ∨ .handled e ∈ s'.log := by
  have recorded (logged : .handled e ∈ s'.expiryLog) : .handled e ∈ s'.log :=
    (mem_expiryLog.mp logged).1
  rcases stage with calling | stopping | handled
  · cases change with
    | unsatisfied called handler queue expiries log =>
        right
        left
        simp_all
    | returned called handler queue expiries log =>
        right
        right
        exact recorded (by simp_all)
    | _ =>
        left
        simp_all
  · cases change with
    | returned called handler queue expiries log =>
        right
        right
        exact recorded (by simp_all)
    | _ =>
        right
        left
        simp_all
  · exact .inr (.inr (change.handled_after handled))

/-- What the handler holds it invokes next, unless a check finds its timer stopped. -/
theorem Change.held_after (change : Change s a s') (runs : RunningWhenChecked e.argument s a)
    (held : s.handler.undelivered = some e) :
    s'.handler.undelivered = some e ∨
      (s'.handler = .callback e ∧ s'.expiryLog = s.expiryLog ++ [.invoked e]) := by
  cases change with
  | invoked invoking handler queue expiries log =>
      right
      simp_all [HandlerPc.undelivered]
  | dropped act checking notRunning handler queue expiries log =>
      subst act
      obtain rfl : _ = e := by simpa [checking, HandlerPc.undelivered] using held
      simp only [RunningWhenChecked, checking] at runs
      rw [runs trivial] at notRunning
      contradiction
  | returned called handler queue expiries log =>
      rcases called with calling | stopping <;> simp_all [HandlerPc.undelivered]
  | _ =>
      left
      simp_all [HandlerPc.undelivered]

/-- An expiry keeps to its stages while no check finds its timer stopped. -/
theorem Change.delivered (change : Change s a s') (inv : ExpiryInv s)
    (runs : RunningWhenChecked e.argument s a) (delivered : Delivered s e) : Delivered s' e := by
  rcases delivered with ⟨queued | held, count⟩ | ⟨stage, count⟩
  · have kept := change.count_other (e := e) (by
      intro invoking _
      exact (inv.held e (by rw [invoking]; rfl)).2 queued)
    exact .inl ⟨change.queued_after queued, kept.trans count⟩
  · rcases change.held_after runs held with still | ⟨calling, log⟩
    · have kept := change.count_of_awaiting inv (.inr (.inl still))
      exact .inl ⟨.inr still, kept.trans count⟩
    · refine .inr ⟨.inl calling, ?_⟩
      rw [← count_expiryLog] at count ⊢
      rw [log, List.count_append, count, List.count_singleton_self]
  · have kept := change.count_other (e := e) (by
      intro invoking _
      have notInvoked := inv.uninvoked e (.inr (.inl (by rw [invoking]; rfl)))
      omega)
    exact .inr ⟨change.stage_after stage, kept.trans count⟩

theorem Change.newly_expired (change : Change s a s') (inv : ExpiryInv s)
    (logged : .expired e ∈ s'.log) (new : .expired e ∉ s.log) : Delivered s' e := by
  have logged' : .expired e ∈ s'.expiryLog := mem_expiryLog.mpr ⟨logged, rfl⟩
  have new' : .expired e ∉ s.expiryLog := fun member => new (mem_expiryLog.mp member).1
  cases change with
  | @expired fresh serial handler queue expiries log =>
      obtain rfl : e = fresh := by simpa only [log, List.mem_append, new', false_or,
        List.mem_singleton, Event.expired.injEq] using logged'
      have count := inv.uninvoked e (.inr (.inr (by omega)))
      have kept : s'.log.count (.invoked e) = s.log.count (.invoked e) := by
        rw [← count_expiryLog, log]
        simp
      exact .inl ⟨.inl (by simp [queue]), kept.trans count⟩
  | _ =>
      rename_i log
      rw [log] at logged'
      simp_all

end Step

/-! ## Runs -/

theorem run_expiryInv {freq : Int} {allowed : State → Action → Prop} {acts : List Action}
    {s : State} (run : Run (system freq) allowed acts s) : ExpiryInv s := by
  refine run.invariant ExpiryInv ?_ ?_
  · constructor <;> simp [system, State.initial, HandlerPc.undelivered]
  · intro s a s' inv _ taken
    exact (step_taken taken).change.expiryInv inv

/-- In a run in which the timer is running again whenever one of its expiries is
checked, every dispatched expiry of the timer invokes the callback once. -/
theorem runningWhenChecked_deliversOnce {freq : Int} {i : ImplId} {acts : List Action} {s : State}
    (run : Run (system freq) (RunningWhenChecked i) acts s) : DeliversOnce i s := by
  refine run.invariant_under ExpiryInv (DeliversOnce i) run_expiryInv ?_ ?_
  · intro e _ logged
    simp [system, State.initial] at logged
  · intro s a s' inv delivers runs taken e argument logged
    have change := (step_taken taken).change
    by_cases old : .expired e ∈ s.log
    · exact change.delivered inv (argument ▸ runs) (delivers e argument old)
    · exact change.newly_expired inv logged old

def Undisturbed (i : ImplId) (s : State) : Action → Prop
  | .user (.stop o) _ => s.objs o ≠ some (some i)
  | .user (.moveAssign o _) _ => s.objs o ≠ some (some i)
  | .user (.destroy o) _ => s.objs o ≠ some (some i)
  | .handlerStop => ∀ e, s.handler = .stop e → e.argument ≠ i
  | _ => True

instance (i : ImplId) (s : State) (a : Action) : Decidable (Undisturbed i s a) := by
  unfold Undisturbed
  split
  case h_4 =>
      cases handler : s.handler with
      | stop e => exact decidable_of_iff (e.argument ≠ i) (by simp)
      | idle => exact .isTrue (by simp)
      | check e => exact .isTrue (by simp)
      | invoke e => exact .isTrue (by simp)
      | callback e => exact .isTrue (by simp)
  all_goals infer_instance

def startOnce : List Action :=
  [.user (.construct 0 1000 true true) ⟨1, .osOK⟩, .user (.start 0) ⟨0, .osOK⟩]

theorem startOnce_notInvoked :
    ¬ ∀ (acts : List Action) (s : State),
      Run (system 1000) (Undisturbed 0) (startOnce ++ acts) s → DeliversOnce 0 s := by
  intro claimed
  have run : Run (system 1000) (Undisturbed 0) _ _ :=
    Run.replayed (startOnce ++ [.expire 1, .dispatch, .check]) rfl
  rcases claimed _ _ run ⟨0, 0⟩ rfl (by decide) with ⟨member | checking, _⟩ | ⟨_, count⟩
  · exact absurd member (by decide)
  · exact absurd checking (by decide)
  · exact absurd count (by decide)

/-- The timer is started again before its expiry is dispatched. -/
theorem startOnce_restarted_invoked :
    ∃ s, Run (system 1000) (RunningWhenChecked 0) (startOnce ++
      [.expire 1, .user (.start 0) ⟨0, .osOK⟩, .dispatch, .check, .invoke, .callback true]) s ∧
        DeliversOnce 0 s := by
  have run : Run (system 1000) (RunningWhenChecked 0) _ _ := Run.replayed (startOnce ++
    [.expire 1, .user (.start 0) ⟨0, .osOK⟩, .dispatch, .check, .invoke, .callback true]) rfl
  exact ⟨_, run, runningWhenChecked_deliversOnce run⟩

end CmsisCpp.Timer
