import CmsisCpp.Timer.Handler
import CmsisCpp.Timer.Stale

/-! # What the timer thread does with the expiries

The OS hands every expiry to the timer thread, which goes through `cmsis_timer::handler` with
one after the other.  `running()` shows what was last done to a timer: it was started,
stopped, or it expired. -/
set_option autoImplicit false

namespace CmsisCpp.Timer

open ActionSystem CallScript

/-! ## The history of the timer thread -/

def Event.expiredOf : Event → Option Expiry
  | .expired e => some e
  | _ => none

def Event.handledOf : Event → Option Expiry
  | .handled e => some e
  | _ => none

def Event.invokedOf : Event → Option Expiry
  | .invoked e => some e
  | _ => none

def HandlerPc.current : HandlerPc → Option Expiry
  | .idle => none
  | .check e | .invoke e | .callback e | .stop e => some e

def HandlerPc.called : HandlerPc → Option Expiry
  | .callback e | .stop e => some e
  | .idle | .check _ | .invoke _ => none

/-- The handler has been through the expiries in their order, is at one, and the others
are waiting; the callback is invoked at most once for each. -/
structure ServesInOrder (s : State) : Prop where
  line : s.log.filterMap Event.expiredOf =
    s.log.filterMap Event.handledOf ++ s.handler.current.toList ++ s.queue
  serials : (s.log.filterMap Event.expiredOf).map Expiry.serial = List.range s.expiries
  invokes : (s.log.filterMap Event.invokedOf).Sublist
    (s.log.filterMap Event.handledOf ++ s.handler.called.toList)

section Order
variable {s s' : State} {a : Action}

theorem filterMap_expiryLog {f : Event → Option Expiry}
    (onExpiries : ∀ event, event.isExpiry = false → f event = none) (s : State) :
    s.expiryLog.filterMap f = s.log.filterMap f := by
  rw [State.expiryLog, List.filterMap_filter]
  congr 1
  funext event
  cases isExpiry : event.isExpiry with
  | true => rfl
  | false => exact (onExpiries event isExpiry).symm

theorem expiredOf_expiryLog (s : State) :
    s.expiryLog.filterMap Event.expiredOf = s.log.filterMap Event.expiredOf := by
  apply filterMap_expiryLog
  intro event other
  cases event <;> first | rfl | contradiction

theorem handledOf_expiryLog (s : State) :
    s.expiryLog.filterMap Event.handledOf = s.log.filterMap Event.handledOf := by
  apply filterMap_expiryLog
  intro event other
  cases event <;> first | rfl | contradiction

theorem invokedOf_expiryLog (s : State) :
    s.expiryLog.filterMap Event.invokedOf = s.log.filterMap Event.invokedOf := by
  apply filterMap_expiryLog
  intro event other
  cases event <;> first | rfl | contradiction

theorem Change.line (change : Change s a s') (serves : ServesInOrder s) :
    s'.expiryLog.filterMap Event.expiredOf =
      s'.expiryLog.filterMap Event.handledOf ++ s'.handler.current.toList ++ s'.queue := by
  have line := serves.line
  rw [← expiredOf_expiryLog, ← handledOf_expiryLog] at line
  cases change with
  | silent handler queue expiries log => rw [log, handler, queue, line]
  | expired fresh handler queue expiries log =>
      rw [log, handler, queue, List.filterMap_append, List.filterMap_append, line]
      simp [Event.expiredOf, Event.handledOf]
  | dispatched idle handler queue expiries log =>
      rw [log, handler, line, idle, queue]
      simp [HandlerPc.current]
  | passed checking handler queue expiries log =>
      rw [log, handler, line, checking, queue]
      rfl
  | invoked invoking handler queue expiries log =>
      rw [log, handler, queue, List.filterMap_append, List.filterMap_append, line, invoking]
      simp [Event.expiredOf, Event.handledOf, HandlerPc.current, List.filterMap_cons]
  | dropped act checking notRunning handler queue expiries log =>
      rw [log, handler, queue, List.filterMap_append, List.filterMap_append, line, checking]
      simp [Event.expiredOf, Event.handledOf, HandlerPc.current]
  | unsatisfied called handler queue expiries log =>
      rw [log, handler, line, called, queue]
      rfl
  | returned called handler queue expiries log =>
      rw [log, handler, queue, List.filterMap_append, List.filterMap_append, line]
      rcases called with called | called <;>
        simp [called, Event.expiredOf, Event.handledOf, HandlerPc.current]

/-- Only an expiry adds to the expiries, and it takes the next number. -/
theorem Change.serials (change : Change s a s') (serves : ServesInOrder s) :
    (s'.expiryLog.filterMap Event.expiredOf).map Expiry.serial = List.range s'.expiries := by
  have serials := serves.serials
  rw [← expiredOf_expiryLog] at serials
  cases change with
  | expired fresh handler queue expiries log =>
      rw [log, expiries, List.filterMap_append, List.map_append, serials, List.range_succ, ← fresh]
      rfl
  | invoked invoking handler queue expiries log
  | dropped act checking notRunning handler queue expiries log
  | returned called handler queue expiries log =>
      rw [log, expiries, List.filterMap_append, List.map_append, serials]
      exact List.append_nil _
  | silent handler queue expiries log
  | dispatched idle handler queue expiries log
  | passed checking handler queue expiries log
  | unsatisfied called handler queue expiries log => rw [log, expiries, serials]

theorem Change.invokes (change : Change s a s') (serves : ServesInOrder s) :
    (s'.expiryLog.filterMap Event.invokedOf).Sublist
      (s'.expiryLog.filterMap Event.handledOf ++ s'.handler.called.toList) := by
  have invokes := serves.invokes
  rw [← invokedOf_expiryLog, ← handledOf_expiryLog] at invokes
  cases change with
  | silent handler queue expiries log => rwa [log, handler]
  | expired fresh handler queue expiries log =>
      rw [log, handler, List.filterMap_append, List.filterMap_append]
      simpa [Event.invokedOf, Event.handledOf, List.filterMap_cons] using invokes
  | dispatched idle handler queue expiries log =>
      rw [log, handler]
      rwa [idle] at invokes
  | passed checking handler queue expiries log =>
      rw [log, handler]
      rwa [checking] at invokes
  | @invoked e invoking handler queue expiries log =>
      rw [invoking] at invokes
      rw [log, handler, List.filterMap_append, List.filterMap_append]
      have more := invokes.append (List.Sublist.refl [e])
      simpa [Event.invokedOf, Event.handledOf, HandlerPc.called, List.filterMap_cons] using more
  | @dropped e act checking notRunning handler queue expiries log =>
      rw [checking] at invokes
      rw [log, handler, List.filterMap_append, List.filterMap_append]
      have more := invokes.append (List.nil_sublist [e])
      simpa [Event.invokedOf, Event.handledOf, HandlerPc.called, List.filterMap_cons] using more
  | unsatisfied called handler queue expiries log =>
      rw [log, handler]
      rwa [called] at invokes
  | returned called handler queue expiries log =>
      rw [log, handler, List.filterMap_append, List.filterMap_append]
      rcases called with called | called <;> rw [called] at invokes <;>
        simpa [Event.invokedOf, Event.handledOf, HandlerPc.called, List.filterMap_cons]
          using invokes

theorem ServesInOrder.step (serves : ServesInOrder s) (change : Change s a s') :
    ServesInOrder s' := by
  have line := change.line serves
  have serials := change.serials serves
  have invokes := change.invokes serves
  rw [expiredOf_expiryLog] at line serials
  rw [handledOf_expiryLog] at line invokes
  rw [invokedOf_expiryLog] at invokes
  exact ⟨line, serials, invokes⟩

end Order

/-! ## What was done to a timer -/

/-- What an event leaves of whether the timer `i` runs. -/
def Event.leaves (type : TimerType) (i : ImplId) : Event → Option Bool
  | .started j => if j = i then some true else none
  | .stopped j => if j = i then some false else none
  | .expired e => if e.argument = i then some (type = .osTimerPeriodic) else none
  | _ => none

def runsAfter (type : TimerType) (i : ImplId) (log : List Event) : Bool :=
  ((log.filterMap (Event.leaves type i)).getLast?).getD false

def expiriesOf (i : ImplId) (log : List Event) : List Expiry :=
  (log.filterMap Event.expiredOf).filter fun e => e.argument = i

def invocationsOf (i : ImplId) (log : List Event) : List Expiry :=
  (log.filterMap Event.invokedOf).filter fun e => e.argument = i

def State.osTimerOf (s : State) (i : ImplId) : Option OsTimer :=
  (s.impls i).bind fun timer => s.osTimers timer.id

/-- `timer::running`, of an object that is there. -/
def State.timerRunning (s : State) (o : ObjId) : Option (Except SystemError Bool) :=
  match s.objs o with
  | none => none
  | some none => some (.ok false)
  | some (some i) => (s.impls i).map fun timer => (s.call handlerEnv (running timer.id)).1

/-- A timer runs as it was last told; a one-shot timer expires once a start at most. -/
structure AsCommanded (i : ImplId) (osTimer : OsTimer) (log : List Event) : Prop where
  runs : osTimer.running = runsAfter osTimer.type i log
  oneShot : osTimer.type = .osTimerOnce →
    (expiriesOf i log).length + osTimer.running.toNat ≤ log.count (.started i)

def Event.changes : Event → Option ImplId
  | .started i | .stopped i => some i
  | .expired e => some e.argument
  | _ => none

structure CommandInv (s : State) : Prop where
  known : ∀ event ∈ s.log, ∀ i, event.changes = some i → i < s.allocated
  commanded : ∀ i osTimer, s.osTimerOf i = some osTimer → AsCommanded i osTimer s.log

section Commanded
variable {s s' : State} {a : Action} {i j : ImplId} {osTimer : OsTimer} {timer : CmsisTimer}
  {log : List Event} {event : Event} {type : TimerType}

theorem runsAfter_append : runsAfter type i (log ++ [event]) =
    (event.leaves type i).getD (runsAfter type i log) := by
  rw [runsAfter, List.filterMap_append]
  cases leaves : event.leaves type i with
  | none => simp [leaves, runsAfter]
  | some runs => simp [leaves]

theorem AsCommanded.other (commanded : AsCommanded i osTimer log)
    (other : event.changes ≠ some i) : AsCommanded i osTimer (log ++ [event]) where
  runs := by
    have leaves : event.leaves osTimer.type i = none := by
      cases event <;> simp [Event.leaves, Event.changes] at other ⊢ <;> exact other
    rw [runsAfter_append, leaves]
    exact commanded.runs
  oneShot := by
    intro once
    have before := commanded.oneShot once
    have notStart : [event].count (.started i) = 0 := by
      cases event <;> simp [Event.changes, List.count_singleton] at other ⊢
      exact other
    have notExpiry : expiriesOf i [event] = [] := by
      cases event <;>
        simp [expiriesOf, Event.expiredOf, Event.changes, List.filterMap_cons] at other ⊢
      exact other
    rw [List.count_append, notStart]
    rw [expiriesOf] at notExpiry
    rw [expiriesOf, List.filterMap_append, List.filter_append, notExpiry, List.append_nil]
    exact before

theorem AsCommanded.others {events : List Event} (commanded : AsCommanded i osTimer log)
    (others : ∀ event ∈ events, event.changes ≠ some i) :
    AsCommanded i osTimer (log ++ events) := by
  induction events generalizing log with
  | nil =>
      rw [List.append_nil]
      exact commanded
  | cons event events ih =>
      have first := commanded.other (others event List.mem_cons_self)
      rw [List.append_cons]
      exact ih first fun later member => others later (List.mem_cons_of_mem _ member)

theorem asCommanded_fresh (fresh : ∀ event ∈ log, event.changes ≠ some i)
    (stopped : osTimer.running = false) : AsCommanded i osTimer log := by
  have empty : AsCommanded i osTimer [] := ⟨stopped, by simp [expiriesOf, stopped]⟩
  exact empty.others fresh

theorem AsCommanded.started (commanded : AsCommanded i osTimer log) :
    AsCommanded i { osTimer with running := true } (log ++ [.started i]) where
  runs := by
    rw [runsAfter_append]
    simp [Event.leaves]
  oneShot := by
    intro once
    have before := commanded.oneShot once
    have same : expiriesOf i (log ++ [.started i]) = expiriesOf i log := by
      rw [expiriesOf, List.filterMap_append]
      exact congrArg _ (List.append_nil _)
    rw [same, List.count_append, List.count_singleton_self]
    exact Nat.add_le_add (Nat.le_trans (Nat.le_add_right _ _) before) (Nat.le_refl 1)

theorem AsCommanded.stopped (commanded : AsCommanded i osTimer log) :
    AsCommanded i { osTimer with running := false } (log ++ [.stopped i]) where
  runs := by
    rw [runsAfter_append]
    simp [Event.leaves]
  oneShot := by
    intro once
    have before := commanded.oneShot once
    have same : expiriesOf i (log ++ [.stopped i]) = expiriesOf i log := by
      rw [expiriesOf, List.filterMap_append]
      exact congrArg _ (List.append_nil _)
    rw [same, List.count_append]
    exact Nat.le_add_right_of_le (Nat.le_trans (Nat.le_add_right _ _) before)

theorem AsCommanded.expired {e : Expiry} (commanded : AsCommanded e.argument osTimer log)
    (running : osTimer.running = true) :
    AsCommanded e.argument { osTimer with running := osTimer.type = .osTimerPeriodic }
      (log ++ [.expired e]) where
  runs := by
    rw [runsAfter_append]
    simp [Event.leaves]
  oneShot := by
    intro once
    have before := commanded.oneShot once
    have grown : expiriesOf e.argument (log ++ [.expired e]) =
        expiriesOf e.argument log ++ [e] := by
      rw [expiriesOf, List.filterMap_append, List.filter_append]
      simp [Event.expiredOf, expiriesOf]
    have once' : osTimer.type = .osTimerOnce := once
    rw [grown, List.count_append, List.length_append]
    simp only [running, Bool.toNat_true] at before
    simpa [once'] using before

/-! ## Steps -/

theorem TimerInv.osTimerOf_setRunning (inv : TimerInv s) (found : s.impls i = some timer)
    (osTimer : OsTimer) (running : Bool) (j : ImplId) :
    (s.setRunning timer.id osTimer running).osTimerOf j =
      if j = i then some { osTimer with running := running } else s.osTimerOf j := by
  by_cases same : j = i
  · simp [State.osTimerOf, State.setRunning, same, found]
  · cases found' : s.impls j with
    | none => simp [State.osTimerOf, State.setRunning, found', same]
    | some timer' =>
        have differs : timer'.id ≠ timer.id := fun sameId => same (inv.unique found' found sameId)
        simp [State.osTimerOf, State.setRunning, found', same, differs]

theorem osTimerOf_eq (found : s.impls i = some timer) (os : s.osTimers timer.id = some osTimer) :
    s.osTimerOf i = some osTimer := by
  rw [State.osTimerOf, found, Option.bind_some, os]

theorem CommandInv.quiet {events : List Event} (command : CommandInv s)
    (same : ∀ i, s'.osTimerOf i = s.osTimerOf i) (allocated : s'.allocated = s.allocated)
    (log : s'.log = s.log ++ events) (none : ∀ event ∈ events, event.changes = none) :
    CommandInv s' where
  known := by
    intro event member i changed
    rw [log] at member
    rw [allocated]
    rcases List.mem_append.mp member with old | new
    · exact command.known event old i changed
    · rw [none event new] at changed
      contradiction
  commanded := by
    intro i osTimer owns
    rw [same] at owns
    rw [log]
    refine (command.commanded i osTimer owns).others ?_
    intro event new changed
    rw [none event new] at changed
    contradiction

theorem CommandInv.handled (command : CommandInv s) (e : Expiry) : CommandInv (s.handled e) :=
  command.quiet (fun _ => rfl) rfl rfl (by simp [Event.changes])

theorem CommandInv.changed {running : Bool} (command : CommandInv s) (inv : TimerInv s)
    (found : s.impls i = some timer) (about : event.changes = some i)
    (sets : AsCommanded i { osTimer with running := running } (s.log ++ [event])) :
    CommandInv ((s.setRunning timer.id osTimer running).record [event]) where
  known := by
    intro earlier member j changed
    rcases List.mem_append.mp member with old | new
    · exact command.known earlier old j changed
    · rw [List.mem_singleton.mp new, about, Option.some.injEq] at changed
      rw [← changed]
      exact (inv.impl i timer found).1
  commanded := by
    intro j osTimer' owns
    have owns : (s.setRunning timer.id osTimer running).osTimerOf j = some osTimer' := owns
    rw [inv.osTimerOf_setRunning found] at owns
    by_cases same : j = i
    · rw [if_pos same, Option.some.injEq] at owns
      rw [same, ← owns]
      exact sets
    · rw [if_neg same] at owns
      refine (command.commanded j osTimer' owns).other ?_
      rw [about, ne_eq, Option.some.injEq]
      exact Ne.symm same

theorem CommandInv.constructed {id : Handle} {usec : Int} {objs : ObjId → Option (Option ImplId)}
    (command : CommandInv s) (inv : TimerInv s) (fresh : s.osTimers id = none) :
    CommandInv { s with
      objs := objs
      osTimers := Function.update s.osTimers id (some ⟨type, s.allocated, false⟩)
      impls := Function.update s.impls s.allocated (some ⟨id, usec⟩)
      allocated := s.allocated + 1 } where
  known := by
    intro event member i changed
    exact Nat.lt_succ_of_lt (command.known event member i changed)
  commanded := by
    intro i osTimer owns
    by_cases new : i = s.allocated
    · simp [State.osTimerOf, new] at owns
      refine asCommanded_fresh ?_ (by rw [← owns])
      intro event member changed
      exact absurd (command.known event member i changed) (by rw [new]; exact Nat.lt_irrefl _)
    · simp only [State.osTimerOf, Function.update_of_ne new] at owns
      obtain ⟨timer, found, os⟩ := Option.bind_eq_some_iff.mp owns
      have differs : timer.id ≠ id := by
        rintro rfl
        obtain ⟨_, osTimer', os', _⟩ := inv.impl i timer found
        rw [fresh] at os'
        contradiction
      rw [Function.update_of_ne differs] at os
      exact command.commanded i osTimer (osTimerOf_eq found os)

theorem CommandInv.deleted {objs : ObjId → Option (Option ImplId)} (command : CommandInv s)
    (inv : TimerInv s) (found : s.impls i = some timer) :
    CommandInv { s with
      objs := objs
      osTimers := Function.update s.osTimers timer.id none
      impls := Function.update s.impls i none } where
  known := command.known
  commanded := by
    intro j osTimer owns
    by_cases gone : j = i
    · simp [State.osTimerOf, gone] at owns
    · simp only [State.osTimerOf, Function.update_of_ne gone] at owns
      obtain ⟨timer', found', os⟩ := Option.bind_eq_some_iff.mp owns
      have differs : timer'.id ≠ timer.id := fun same => gone (inv.unique found' found same)
      rw [Function.update_of_ne differs] at os
      exact command.commanded j osTimer (osTimerOf_eq found' os)

theorem CommandInv.step (command : CommandInv s) (inv : TimerInv s) (taken : Taken s a s') :
    CommandInv s' := by
  cases taken with
  | objects objs => exact command.quiet (fun _ => rfl) rfl (List.append_nil _).symm (by simp)
  | dispatched idle queue =>
      exact command.quiet (fun _ => rfl) rfl (List.append_nil _).symm (by simp)
  | unsatisfied act calling =>
      exact command.quiet (fun _ => rfl) rfl (List.append_nil _).symm (by simp)
  | handlerThrew => exact command.quiet (fun _ => rfl) rfl (List.append_nil _).symm (by simp)
  | destroyed argument missing =>
      exact command.quiet (fun _ => rfl) rfl (List.append_nil _).symm (by simp)
  | passed act checking running =>
      exact command.quiet (fun _ => rfl) rfl rfl (by simp [Event.changes])
  | dropped act checking notRunning => exact command.handled _
  | invoked invoking found =>
      exact command.quiet (fun _ => rfl) rfl rfl (by simp [Event.changes])
  | satisfied calling => exact command.handled _
  | constructed fresh => exact command.constructed inv fresh
  | deleted deletes found => exact command.deleted inv found
  | started starts found os =>
      have commanded := command.commanded _ _ (osTimerOf_eq found os)
      exact command.changed inv found rfl commanded.started
  | stopped found os =>
      have commanded := command.commanded _ _ (osTimerOf_eq found os)
      exact command.changed inv found rfl commanded.stopped
  | @expired id osTimer os running =>
      obtain ⟨timer, found, rfl⟩ := inv.argument id osTimer os
      have commanded := command.commanded _ _ (osTimerOf_eq found os)
      have expired := commanded.expired (e := ⟨s.expiries, osTimer.argument⟩) running
      have changed := command.changed inv found rfl expired
      exact ⟨changed.known, changed.commanded⟩
  | @handlerStopped e timer osTimer stopping found os =>
      have commanded := command.commanded _ _ (osTimerOf_eq found os)
      exact (command.changed inv found rfl commanded.stopped).handled e

/-! ## Runs -/

structure ServesTimers (s : State) : Prop where
  order : ServesInOrder s
  running : ∀ o i osTimer, s.objs o = some (some i) → s.osTimerOf i = some osTimer →
    s.timerRunning o = some (.ok (runsAfter osTimer.type i s.log))
  oneShot : ∀ i osTimer, s.osTimerOf i = some osTimer → osTimer.type = .osTimerOnce →
    (invocationsOf i s.log).length ≤ s.log.count (.started i)

/-- The callback is invoked for expiries, in their order and once for each at most. -/
theorem ServesInOrder.invoked_sublist (order : ServesInOrder s) :
    (s.log.filterMap Event.invokedOf).Sublist (s.log.filterMap Event.expiredOf) := by
  have called : s.handler.called.toList.Sublist s.handler.current.toList := by
    cases s.handler <;> simp [HandlerPc.called, HandlerPc.current]
  have current : (s.log.filterMap Event.invokedOf).Sublist
      (s.log.filterMap Event.handledOf ++ s.handler.current.toList) :=
    order.invokes.trans (called.append_left _)
  rw [order.line]
  exact current.trans (List.sublist_append_left _ _)

theorem serves_initial : (TimerInv .initial ∧ CommandInv .initial) ∧ ServesInOrder .initial := by
  refine ⟨⟨⟨?_, ?_⟩, ⟨?_, ?_⟩⟩, ⟨rfl, rfl, .refl _⟩⟩
  · simp [State.initial]
  · simp [State.initial]
  · simp [State.initial]
  · simp [State.initial, State.osTimerOf]

theorem run_servesTimers {freq : Int} {allowed : State → Action → Prop} {acts : List Action}
    (run : Run (system freq) allowed acts s) : ServesTimers s := by
  have inv : (TimerInv s ∧ CommandInv s) ∧ ServesInOrder s := by
    refine run.invariant (fun s => (TimerInv s ∧ CommandInv s) ∧ ServesInOrder s) serves_initial ?_
    rintro s a s' ⟨⟨inv, command⟩, order⟩ _ stepped
    have taken := step_taken stepped
    exact ⟨⟨taken.timerInv inv, command.step inv taken⟩, order.step taken.change⟩
  obtain ⟨⟨_, command⟩, order⟩ := inv
  refine ⟨order, ?_, ?_⟩
  · intro o i osTimer object owns
    rw [← (command.commanded i osTimer owns).runs]
    obtain ⟨timer, found, os⟩ := Option.bind_eq_some_iff.mp owns
    rw [State.timerRunning, object]
    simp only [found, Option.map_some, call_running, os, Option.getD_some]
  · intro i osTimer owns once
    have expiries := (command.commanded i osTimer owns).oneShot once
    have invocations : (invocationsOf i s.log).length ≤ (expiriesOf i s.log).length :=
      (order.invoked_sublist.filter _).length_le
    omega

end Commanded

/-- A periodic and a one-shot timer, whose expiries are served while others wait. -/
def servesTwo : List Action :=
  [.user (.construct 0 1000 true false) ⟨1, .osOK⟩, .user (.construct 1 3000 true true) ⟨2, .osOK⟩,
    .user (.start 0) ⟨0, .osOK⟩, .user (.start 1) ⟨0, .osOK⟩, .expire 1, .expire 2, .expire 1,
    .dispatch, .check, .invoke, .callback true, .user (.start 1) ⟨0, .osOK⟩, .dispatch, .check,
    .invoke, .callback false]

theorem servesTwo_served :
    ∃ s, Run (system 1000) Unrestricted servesTwo s ∧
      (s.log.filterMap Event.invokedOf).map Expiry.serial = [0, 1] ∧
      s.queue.map Expiry.serial = [2] ∧ ServesTimers s := by
  have run : Run (system 1000) Unrestricted _ _ := Run.replayed servesTwo rfl
  exact ⟨_, run, rfl, rfl, run_servesTimers run⟩

end CmsisCpp.Timer
