import CmsisCpp.Dispatch
import CmsisCpp.Library.ActionSystem
import CmsisCpp.Library.LifeCycle
import CmsisCpp.TimedCall

/-! # The kernel and its idle thread

Source: `include/OS.h`, `src/OS.cpp`, `src/rtx_os.cpp`.  `main` initializes and starts the
kernel; from then on threads run, and the idle thread when no other does, which calls the
idle handler over and over.  A thread that locks or suspends the kernel runs alone until it
undoes it.  The idle thread has the lowest priority: other threads run between any two steps
of its, and their assignments to the handler are not seen half done. -/
set_option autoImplicit false

namespace CmsisCpp.Kernel

open ActionSystem CallScript
open Dispatch (DispatchCall dispatchSig)

/-! ## The library -/

inductive KernelState
  | osKernelInactive
  | osKernelReady
  | osKernelRunning
  | osKernelLocked
  | osKernelSuspended
  deriving DecidableEq, Repr

inductive KernelCall
  | osKernelGetInfo (size : Nat)
  | osKernelGetTickFreq
  | osKernelGetState
  | osKernelInitialize
  | osKernelStart
  | osKernelSuspend
  | osKernelResume (sleepTicks : Nat)
  -- the variable of the device support, updated before it is read
  | systemCoreClock
  deriving DecidableEq, Repr

abbrev kernelSig : Signature where
  Call := KernelCall
  Reply
    | .osKernelGetInfo _ => OsStatus × String
    | .osKernelGetTickFreq => Nat
    | .osKernelGetState => KernelState
    | .osKernelInitialize => OsStatus
    | .osKernelStart => OsStatus
    | .osKernelSuspend => Nat
    | .osKernelResume _ => Unit
    | .systemCoreClock => Nat

def version : Script kernelSig SystemError String :=
  .ask (.osKernelGetInfo 100) fun (reply : OsStatus × String) =>
    if reply.1 ≠ .osOK then .throw (osFailure reply.1 "osKernelGetInfo") else .done reply.2

def tickFrequency : Script kernelSig SystemError Nat :=
  .ask .osKernelGetTickFreq fun (tick : Nat) =>
    if tick = 0 then .throw (osFailure .osError "osKernelGetTickFreq") else .done tick

/-- `kernel::initialize`. -/
def kernelInitialize : Script kernelSig SystemError Unit :=
  .ask .osKernelGetState fun (state : KernelState) =>
    if state = .osKernelInactive then
      .ask .osKernelInitialize fun (sta : OsStatus) => expectOk sta "osKernelInitialize"
    else .done ()

def start : Script kernelSig SystemError Unit :=
  .ask .osKernelStart fun (sta : OsStatus) => expectOk sta "osKernelStart"

def suspend : Script kernelSig SystemError Nat :=
  .ask .osKernelSuspend fun (ticks : Nat) => .done ticks

def resume (sleepTicks : Nat) : Script kernelSig SystemError Unit :=
  .ask (.osKernelResume sleepTicks) fun (_ : Unit) => .done ()

def clockFrequency : Script kernelSig SystemError Nat :=
  .ask .systemCoreClock fun (frequency : Nat) =>
    if frequency = 0 then .throw (osFailure .osError "SystemCoreClock") else .done frequency

def locked : Script kernelSig SystemError Bool :=
  .ask .osKernelGetState fun (state : KernelState) => .done (state = .osKernelLocked)

/-! ## The kernel -/

abbrev callSig : Signature := dispatchSig.sum kernelSig

structure Environment where
  status : OsStatus
  info : String
  number : Nat
  deriving DecidableEq, Repr

def lockAnswer : (call : DispatchCall) → KernelState → dispatchSig.Reply call × KernelState
  | .osKernelLock, k =>
      match k with
      | .osKernelRunning => ((0 : Int), .osKernelLocked)
      | .osKernelLocked => ((1 : Int), .osKernelLocked)
      | k => (OsStatus.osError.code, k)
  | .osKernelRestoreLock lock, k =>
      if k = .osKernelRunning ∨ k = .osKernelLocked then
        if lock = 0 then ((0 : Int), .osKernelRunning)
        else if lock = 1 then ((1 : Int), .osKernelLocked)
        else (OsStatus.osError.code, k)
      else (OsStatus.osError.code, k)

def kernelAnswer (env : Environment) :
    (call : KernelCall) → KernelState → kernelSig.Reply call × KernelState
  | .osKernelGetInfo _, k => ((env.status, env.info), k)
  | .osKernelGetTickFreq, k => (env.number, k)
  | .osKernelGetState, k => (k, k)
  | .osKernelInitialize, k =>
      if k = .osKernelInactive then
        if env.status = .osOK then (OsStatus.osOK, .osKernelReady) else (env.status, k)
      else (OsStatus.osError, k)
  | .osKernelStart, k =>
      if k = .osKernelReady then
        if env.status = .osOK then (OsStatus.osOK, .osKernelRunning) else (env.status, k)
      else (OsStatus.osError, k)
  | .osKernelSuspend, k =>
      if k = .osKernelRunning then (env.number, .osKernelSuspended) else ((0 : Nat), k)
  | .osKernelResume _, k =>
      if k = .osKernelSuspended then ((), .osKernelRunning) else ((), k)
  | .systemCoreClock, k => (env.number, k)

def answer (env : Environment) :
    (call : callSig.Call) → KernelState → callSig.Reply call × KernelState
  | .inl call, k => lockAnswer call k
  | .inr call, k => kernelAnswer env call k

/-! ## Contexts -/

abbrev HandlerId := Nat

/-- Who calls the library: the idle thread does so from its handler. -/
inductive Context
  | main
  | idle
  | thread (t : Nat)
  deriving DecidableEq, Repr

/-- The lock of a `dispatch` object is undone with the state that the object has found. -/
inductive Operation
  | version
  | tickFrequency
  | kernelInitialize
  | start
  | suspend
  | resume (sleepTicks : Nat)
  | clockFrequency
  | lock
  | unlock (previousLockState : Int)
  | locked
  deriving DecidableEq, Repr

def Operation.body : Operation → Script callSig SystemError Unit
  | .version => Kernel.version.inr id fun _ => ()
  | .tickFrequency => Kernel.tickFrequency.inr id fun _ => ()
  | .kernelInitialize => Kernel.kernelInitialize.inr id id
  | .start => Kernel.start.inr id id
  | .suspend => Kernel.suspend.inr id fun _ => ()
  | .resume sleepTicks => (Kernel.resume sleepTicks).inr id id
  | .clockFrequency => Kernel.clockFrequency.inr id fun _ => ()
  | .lock => Dispatch.lock.inl Dispatch.Failure.error fun _ => ()
  | .unlock previous => (Dispatch.unlock previous).inl Dispatch.Failure.error fun _ => ()
  | .locked => Kernel.locked.inr id fun _ => ()

/-- Where `osRtxIdleThread` is in its loop. -/
inductive IdlePc
  | test
  | call
  | within (h : HandlerId)
  deriving DecidableEq, Repr

inductive Happening
  | initialized
  | started
  | locked
  | unlocked
  | suspended
  | resumed
  deriving DecidableEq, Repr

inductive Event
  | kernel (what : Happening)
  | threw (op : Operation)
  | set (h : Option HandlerId)
  | tested
  | called (h : HandlerId)
  | returned
  deriving DecidableEq, Repr

/-- `idleHandler` is the global variable, `holder` the one who has locked or suspended. -/
structure State where
  status : ProgramStatus
  kernel : KernelState
  holder : Option Context
  idleHandler : Option HandlerId
  idle : IdlePc
  log : List Event

def State.initial : State := ⟨.running, .osKernelInactive, none, none, .test, []⟩

inductive Action
  | call (context : Context) (op : Operation) (env : Environment)
  | setIdleHandler (context : Context) (h : Option HandlerId)
  | idleTest
  | idleCall
  | idleReturn
  deriving DecidableEq, Repr

def happening : KernelState → KernelState → List Happening
  | .osKernelInactive, .osKernelReady => [.initialized]
  | .osKernelReady, .osKernelRunning => [.started]
  | .osKernelRunning, .osKernelLocked => [.locked]
  | .osKernelLocked, .osKernelRunning => [.unlocked]
  | .osKernelRunning, .osKernelSuspended => [.suspended]
  | .osKernelSuspended, .osKernelRunning => [.resumed]
  | _, _ => []

namespace State

def Scheduled (s : State) (context : Context) : Prop :=
  match s.kernel with
  | .osKernelInactive | .osKernelReady => context = .main
  | .osKernelRunning => context ≠ .main
  | .osKernelLocked | .osKernelSuspended => s.holder = some context

instance (s : State) (context : Context) : Decidable (s.Scheduled context) := by
  unfold Scheduled
  split <;> infer_instance

/-- The idle thread makes calls from its handler only. -/
def Acts (s : State) (context : Context) : Prop :=
  s.Scheduled context ∧ (context = .idle → s.idle ≠ .test ∧ s.idle ≠ .call)

instance (s : State) (context : Context) : Decidable (s.Acts context) :=
  inferInstanceAs (Decidable (_ ∧ (_ → _)))

def record (s : State) (events : List Event) : State := { s with log := s.log ++ events }

def holderAfter (k : KernelState) (context : Context) : Option Context :=
  match k with
  | .osKernelLocked | .osKernelSuspended => some context
  | _ => none

def call (s : State) (context : Context) (op : Operation) (env : Environment) : State :=
  let ran := op.body.run (answer env) s.kernel
  let threw := match ran.1 with
    | .ok () => []
    | .error _ => [.threw op]
  { s with kernel := ran.2, holder := holderAfter ran.2 context }.record
    ((happening s.kernel ran.2).map Event.kernel ++ threw)

/-- `if (idleHandler) idleHandler();` takes three steps; the call of an empty function
throws, and nothing catches that. -/
def idleStep (s : State) (a : Action) : Option State :=
  match s.idle, a with
  | .test, .idleTest =>
      match s.idleHandler with
      | none => some s
      | some _ => some ({ s with idle := .call }.record [.tested])
  | .call, .idleCall =>
      match s.idleHandler with
      | none => some { s with status := .terminated }
      | some h => some ({ s with idle := .within h }.record [.called h])
  | .within _, .idleReturn => some ({ s with idle := .test }.record [.returned])
  | _, _ => none

def step (s : State) (a : Action) : Option State :=
  if s.status = .running then
    match a with
    | .call context op env => if s.Acts context then some (s.call context op env) else none
    | .setIdleHandler context h =>
        if s.Acts context then some ({ s with idleHandler := h }.record [.set h]) else none
    | a => if s.Scheduled .idle then s.idleStep a else none
  else none

end State

def system : ActionSystem State Action where
  initial := .initial
  step := State.step

/-! ## The life of the kernel -/

def Event.happened : Event → Option Happening
  | .kernel what => some what
  | _ => none

def kernelCycle : LifeCycle KernelState Happening where
  start := .osKernelInactive
  next
    | .osKernelInactive, .initialized => some .osKernelReady
    | .osKernelReady, .started => some .osKernelRunning
    | .osKernelRunning, .locked => some .osKernelLocked
    | .osKernelLocked, .unlocked => some .osKernelRunning
    | .osKernelRunning, .suspended => some .osKernelSuspended
    | .osKernelSuspended, .resumed => some .osKernelRunning
    | _, _ => none

def SetSinceTest (log : List Event) : Prop :=
  ∃ front back h, log = front ++ .tested :: back ∧ .set h ∈ back ∧ .tested ∉ back ∧
    .returned ∉ back

/-- `kernel::initialize` throws only before the kernel is initialized; the idle thread
calls handlers that were set, once the kernel has started.  An empty handler is called,
or one is replaced while it runs, only when another was set since the test. -/
structure KernelSound (s : State) : Prop where
  repeatable : ¬ [.kernel .initialized, .threw .kernelInitialize].Sublist s.log
  called : ∀ h, .called h ∈ s.log →
    [.kernel .started, .called h].Sublist s.log ∧ [.set (some h), .called h].Sublist s.log
  replaced : (s.status = .terminated ∨ ∃ h, s.idle = .within h ∧ s.idleHandler ≠ some h) →
    SetSinceTest s.log

/-! ## What an operation does to the kernel -/

section Operations
variable {k : KernelState}

def kernelAfter (env : Environment) : Operation → KernelState → KernelState
  | .kernelInitialize, .osKernelInactive =>
      if env.status = .osOK then .osKernelReady else .osKernelInactive
  | .start, .osKernelReady => if env.status = .osOK then .osKernelRunning else .osKernelReady
  | .suspend, .osKernelRunning => .osKernelSuspended
  | .resume _, .osKernelSuspended => .osKernelRunning
  | .lock, .osKernelRunning => .osKernelLocked
  | .unlock previous, .osKernelRunning => if previous = 1 then .osKernelLocked else .osKernelRunning
  | .unlock previous, .osKernelLocked => if previous = 0 then .osKernelRunning else .osKernelLocked
  | _, k => k

theorem run_kernelCalls {Val : Type} {env : Environment} (script : Script kernelSig SystemError Val)
    (value : Val → Unit) :
    ((script.inr id value : Script callSig SystemError Unit).run (answer env) k).2 =
      (script.run (kernelAnswer env) k).2 := by
  rw [Script.run_inr]
  rfl

theorem run_dispatchCalls {Val : Type} {env : Environment}
    (script : Script dispatchSig Dispatch.Failure Val) (value : Val → Unit) :
    ((script.inl Dispatch.Failure.error value : Script callSig SystemError Unit).run
      (answer env) k).2 = (script.run lockAnswer k).2 := by
  rw [Script.run_inl]
  rfl

theorem unlock_after (env : Environment) (previous : Int) (k : KernelState) :
    ((Dispatch.unlock previous).run lockAnswer k).2 = kernelAfter env (.unlock previous) k := by
  by_cases negative : previous < 0
  · have notZero : previous ≠ 0 := by omega
    have notOne : previous ≠ 1 := by omega
    cases k <;> simp [Dispatch.unlock, negative, notZero, notOne, kernelAfter]
  · by_cases zero : previous = 0
    · subst zero
      cases k <;> rfl
    · by_cases one : previous = 1
      · subst one
        cases k <;> rfl
      · cases k <;> simp [Dispatch.unlock, lockAnswer, negative, zero, one, kernelAfter] <;> rfl

theorem run_after (op : Operation) (env : Environment) (k : KernelState) :
    (op.body.run (answer env) k).2 = kernelAfter env op k := by
  cases op with
  | version =>
      rw [Operation.body, run_kernelCalls]
      simp only [version, Script.run_ask]
      split <;> rfl
  | tickFrequency =>
      rw [Operation.body, run_kernelCalls]
      simp only [tickFrequency, Script.run_ask]
      split <;> rfl
  | kernelInitialize =>
      rw [Operation.body, run_kernelCalls]
      cases k <;> by_cases ok : env.status = .osOK <;>
        simp [Kernel.kernelInitialize, kernelAnswer, ok, expectOk, kernelAfter]
  | start =>
      rw [Operation.body, run_kernelCalls]
      cases k <;> by_cases ok : env.status = .osOK <;>
        simp [Kernel.start, kernelAnswer, ok, expectOk, kernelAfter]
  | suspend =>
      rw [Operation.body, run_kernelCalls]
      cases k <;> rfl
  | resume sleepTicks =>
      rw [Operation.body, run_kernelCalls]
      cases k <;> rfl
  | clockFrequency =>
      rw [Operation.body, run_kernelCalls]
      simp only [clockFrequency, Script.run_ask]
      split <;> rfl
  | lock =>
      rw [Operation.body, run_dispatchCalls]
      cases k <;> rfl
  | unlock previous =>
      rw [Operation.body, run_dispatchCalls]
      exact unlock_after env previous k
  | locked =>
      rw [Operation.body, run_kernelCalls]
      rfl

/-- The kernel stays where it is or goes one step through its life. -/
theorem after_happening (op : Operation) (env : Environment) (k : KernelState) :
    kernelCycle.after k (happening k (kernelAfter env op k)) = some (kernelAfter env op k) := by
  cases op <;> cases k <;> simp only [kernelAfter] <;> (try split) <;> rfl

/-- `kernel::initialize` does nothing to a kernel that has been initialized. -/
theorem initialize_throws {env : Environment} {error : SystemError}
    (threw : (Operation.kernelInitialize.body.run (answer env) k).1 = .error error) :
    k = .osKernelInactive ∧ kernelAfter env .kernelInitialize k = .osKernelInactive := by
  rw [Operation.body, Script.run_inr] at threw
  change Script.renamed id id (kernelInitialize.run (kernelAnswer env) k).1 = _ at threw
  cases k <;> by_cases ok : env.status = .osOK <;>
    simp [kernelInitialize, kernelAnswer, ok, expectOk, Script.renamed, kernelAfter] at threw ⊢

end Operations

/-! ## The history of the kernel -/

section History
variable {log events : List Event} {s : State} {what : Happening}

theorem count_happened (log : List Event) :
    (log.filterMap Event.happened).count what = log.count (.kernel what) := by
  induction log with
  | nil => rfl
  | cons event rest ih =>
      cases event <;> simp [Event.happened, List.filterMap_cons, List.count_cons, ih]

theorem happened_sublist (log : List Event) :
    ((log.filterMap Event.happened).map Event.kernel).Sublist log := by
  induction log with
  | nil => exact .slnil
  | cons event rest ih =>
      cases event with
      | kernel what => exact ih.cons_cons _
      | _ => exact ih.cons _

/-- A happening that raises a measure of the state happens no more often than it allows. -/
theorem count_le_measure
    (phase : kernelCycle.reached (s.log.filterMap Event.happened) = some s.kernel)
    (measure : KernelState → Nat)
    (grows : ∀ k what' k', kernelCycle.next k what' = some k' →
      measure k + (decide (what' = what)).toNat ≤ measure k') :
    s.log.count (.kernel what) ≤ measure s.kernel := by
  have led := LifeCycle.after_countP_le (fun what' => what' = what) measure grows phase
  have same : (s.log.filterMap Event.happened).countP (fun what' => decide (what' = what)) =
      (s.log.filterMap Event.happened).count what := by
    rw [List.count_eq_countP]
    congr 1
  rw [same, count_happened] at led
  exact Nat.le_trans (Nat.le_add_left _ _) led

def KernelState.brought : KernelState → Nat
  | .osKernelInactive => 0
  | _ => 1

def KernelState.up : KernelState → Nat
  | .osKernelInactive | .osKernelReady => 0
  | _ => 1

theorem initialized_le
    (phase : kernelCycle.reached (s.log.filterMap Event.happened) = some s.kernel) :
    s.log.count (.kernel .initialized) ≤ s.kernel.brought := by
  refine count_le_measure phase KernelState.brought ?_
  intro k what k' taken
  cases k <;> cases what <;> simp [kernelCycle] at taken <;> subst taken <;> decide

theorem started_le
    (phase : kernelCycle.reached (s.log.filterMap Event.happened) = some s.kernel) :
    s.log.count (.kernel .started) ≤ s.kernel.up := by
  refine count_le_measure phase KernelState.up ?_
  intro k what k' taken
  cases k <;> cases what <;> simp [kernelCycle] at taken <;> subst taken <;> decide

theorem mem_happened : what ∈ log.filterMap Event.happened ↔ .kernel what ∈ log := by
  rw [← List.count_pos_iff, ← List.count_pos_iff, count_happened]

theorem initialized_before (phase : kernelCycle.reached (s.log.filterMap Event.happened) =
    some s.kernel) (started : .kernel .started ∈ s.log) :
    [.kernel .initialized, .kernel .started].Sublist s.log := by
  have enters : ∀ k what k', kernelCycle.next k what = some k' → ¬ k ≠ .osKernelInactive →
      k' ≠ .osKernelInactive → what = .initialized := by
    intro k what k' taken inactive _
    cases k <;> cases what <;> simp [kernelCycle] at taken inactive ⊢
  have needs : ∀ k k', kernelCycle.next k .started = some k' → k ≠ .osKernelInactive := by
    intro k k' taken
    cases k <;> simp [kernelCycle] at taken ⊢
  obtain ⟨earlier, rfl, before⟩ := LifeCycle.preceded_of_reached _ _ enters needs
    (fun outside => outside rfl) phase (mem_happened.mpr started)
  exact (before.map Event.kernel).trans (happened_sublist s.log)

/-- Once the kernel has left the two first states, it was started. -/
theorem started_of_up (phase : kernelCycle.reached (s.log.filterMap Event.happened) =
    some s.kernel) (up : s.kernel.up = 1) : .kernel .started ∈ s.log := by
  have enters : ∀ k what k', kernelCycle.next k what = some k' → ¬ k.up = 1 → k'.up = 1 →
      what = .started := by
    intro k what k' taken low high
    cases k <;> cases what <;> simp [kernelCycle] at taken <;> subst taken <;>
      simp [KernelState.up] at low high ⊢
  have low : ¬ kernelCycle.start.up = 1 := by decide
  obtain ⟨what, member, rfl⟩ := LifeCycle.exists_of_after _ _ enters phase low up
  exact mem_happened.mp member

end History

/-! ## The rounds of the idle thread -/

def Round (log back : List Event) : Prop :=
  ∃ front, log = front ++ .tested :: back ∧ .tested ∉ back ∧ .returned ∉ back

def SetIn (back : List Event) : Prop := ∃ h, .set h ∈ back

def Repeatable (log : List Event) : Prop :=
  ¬ [.kernel .initialized, .threw .kernelInitialize].Sublist log

def CallsSet (log : List Event) : Prop :=
  ∀ h, .called h ∈ log →
    [.kernel .started, .called h].Sublist log ∧ [.set (some h), .called h].Sublist log

structure KernelInv (s : State) : Prop where
  phase : kernelCycle.reached (s.log.filterMap Event.happened) = some s.kernel
  repeatable : Repeatable s.log
  handler : ∀ h, s.idleHandler = some h → .set (some h) ∈ s.log
  called : CallsSet s.log
  tested : s.idle = .call → ∃ back, Round s.log back ∧ (s.idleHandler = none → SetIn back)
  within : ∀ h, s.idle = .within h →
    ∃ back, Round s.log back ∧ (s.idleHandler ≠ some h → SetIn back)
  thrown : s.status = .terminated → SetSinceTest s.log

section Step
variable {s s' : State} {a : Action} {back events : List Event}

theorem Round.append (round : Round s.log back) (noTest : .tested ∉ events)
    (noReturn : .returned ∉ events) : Round (s.log ++ events) (back ++ events) := by
  obtain ⟨front, log, notTested, notReturned⟩ := round
  refine ⟨front, by rw [log, List.append_assoc, List.cons_append], ?_, ?_⟩
  · simp [notTested, noTest]
  · simp [notReturned, noReturn]

theorem SetIn.append (isSet : SetIn back) (events : List Event) : SetIn (back ++ events) := by
  obtain ⟨h, member⟩ := isSet
  exact ⟨h, List.mem_append_left _ member⟩

theorem Round.setSinceTest (round : Round s.log back) (isSet : SetIn back) :
    SetSinceTest s.log := by
  obtain ⟨front, log, notTested, notReturned⟩ := round
  obtain ⟨h, member⟩ := isSet
  exact ⟨front, back, h, log, member, notTested, notReturned⟩

/-- What a call of the library adds to the history. -/
theorem call_log (s : State) (context : Context) (op : Operation) (env : Environment) :
    ∃ threw, (s.call context op env).log = s.log ++
        ((happening s.kernel (kernelAfter env op s.kernel)).map Event.kernel ++ threw) ∧
      (∀ event ∈ threw, event = .threw op) ∧
      (threw ≠ [] → ∃ error, (op.body.run (answer env) s.kernel).1 = .error error) := by
  cases ran : (op.body.run (answer env) s.kernel).1 with
  | ok value =>
      refine ⟨[], ?_, by simp, by simp⟩
      simp [State.call, State.record, ran, run_after]
  | error error =>
      refine ⟨[.threw op], ?_, by simp, fun _ => ⟨error, rfl⟩⟩
      simp [State.call, State.record, ran, run_after]

/-! ### What a longer history keeps -/

theorem Repeatable.append {log : List Event} (repeatable : Repeatable log)
    (none : .threw .kernelInitialize ∉ events) : Repeatable (log ++ events) := by
  intro found
  exact repeatable (History.sublist_of_notMem_new rfl none found)

theorem CallsSet.append {log : List Event} (calls : CallsSet log)
    (none : ∀ h, .called h ∉ events) : CallsSet (log ++ events) := by
  intro h member
  rcases List.mem_append.mp member with old | new
  · obtain ⟨started, isSet⟩ := calls h old
    have longer := List.sublist_append_left log events
    exact ⟨started.trans longer, isSet.trans longer⟩
  · exact absurd new (none h)

theorem CallsSet.call {log : List Event} {h : HandlerId} (calls : CallsSet log)
    (started : .kernel .started ∈ log) (isSet : .set (some h) ∈ log) :
    CallsSet (log ++ [.called h]) := by
  intro h' member
  rcases List.mem_append.mp member with old | new
  · obtain ⟨started, isSet⟩ := calls h' old
    have longer := List.sublist_append_left log [.called h]
    exact ⟨started.trans longer, isSet.trans longer⟩
  · cases List.mem_singleton.mp new
    have last := List.Sublist.refl [Event.called h]
    exact ⟨(List.singleton_sublist.mpr started).append last,
      (List.singleton_sublist.mpr isSet).append last⟩

theorem happened_call {op : Operation} {threw : List Event} (hs : List Happening)
    (only : ∀ event ∈ threw, event = .threw op) :
    (hs.map Event.kernel ++ threw).filterMap Event.happened = hs := by
  have none : threw.filterMap Event.happened = [] := by
    rw [List.filterMap_eq_nil_iff]
    intro event member
    rw [only event member]
    rfl
  rw [List.filterMap_append, none, List.append_nil]
  induction hs with
  | nil => rfl
  | cons what rest ih => simpa [Event.happened] using ih

theorem KernelInv.phase_append (inv : KernelInv s) (none : events.filterMap Event.happened = []) :
    kernelCycle.reached ((s.log ++ events).filterMap Event.happened) = some s.kernel := by
  rw [List.filterMap_append, none, List.append_nil]
  exact inv.phase

theorem KernelInv.call (inv : KernelInv s) (alive : s.status = .running) (context : Context)
    (op : Operation) (env : Environment) : KernelInv (s.call context op env) := by
  obtain ⟨threw, log, only, fails⟩ := call_log s context op env
  have kernelIs : (s.call context op env).kernel = kernelAfter env op s.kernel := run_after op env _
  have plain : ∀ event ∈ (happening s.kernel (kernelAfter env op s.kernel)).map Event.kernel ++
      threw, (∃ what, event = .kernel what) ∨ event = .threw op := by
    intro event member
    rcases List.mem_append.mp member with happened | thrown
    · obtain ⟨what, _, rfl⟩ := List.mem_map.mp happened
      exact .inl ⟨what, rfl⟩
    · exact .inr (only event thrown)
  have noTest : .tested ∉ (happening s.kernel (kernelAfter env op s.kernel)).map Event.kernel ++
      threw := by
    intro member
    rcases plain _ member with ⟨what, same⟩ | same <;> contradiction
  have noReturn : .returned ∉ (happening s.kernel (kernelAfter env op s.kernel)).map
      Event.kernel ++ threw := by
    intro member
    rcases plain _ member with ⟨what, same⟩ | same <;> contradiction
  constructor
  · rw [log, kernelIs, List.filterMap_append, happened_call _ only, LifeCycle.reached,
      LifeCycle.after_append]
    rw [show kernelCycle.after kernelCycle.start (s.log.filterMap Event.happened) = some s.kernel
      from inv.phase]
    exact after_happening op env s.kernel
  · rw [log]
    intro found
    rcases History.sublist_or_mem_new rfl found with old | thrown
    · exact inv.repeatable old
    · have isInitialize : op = .kernelInitialize := by
        rcases plain _ thrown with ⟨what, same⟩ | same
        · contradiction
        · exact (Event.threw.inj same).symm
      subst isInitialize
      have some : threw ≠ [] := by
        rintro rfl
        rw [List.append_nil] at thrown
        obtain ⟨what, _, same⟩ := List.mem_map.mp thrown
        contradiction
      obtain ⟨error, threwError⟩ := fails some
      obtain ⟨inactive, still⟩ := initialize_throws threwError
      have before : .kernel .initialized ∈ s.log := by
        rcases List.mem_append.mp (found.subset List.mem_cons_self) with old | new
        · exact old
        · rw [still, inactive] at new
          have last := only _ (List.mem_append.mp new |>.resolve_left List.not_mem_nil)
          contradiction
      have counted := initialized_le inv.phase
      rw [inactive] at counted
      exact absurd (List.count_pos_iff.mpr before) (Nat.not_lt.mpr counted)
  · intro h isHandler
    rw [log]
    exact List.mem_append_left _ (inv.handler h isHandler)
  · rw [log]
    refine CallsSet.append inv.called ?_
    intro h member
    rcases plain _ member with ⟨what, same⟩ | same <;> contradiction
  · intro calls
    obtain ⟨back, round, isSet⟩ := inv.tested calls
    rw [log]
    exact ⟨_, round.append noTest noReturn, fun empty => (isSet empty).append _⟩
  · intro h running
    obtain ⟨back, round, isSet⟩ := inv.within h running
    rw [log]
    exact ⟨_, round.append noTest noReturn, fun other => (isSet other).append _⟩
  · intro terminated
    exact absurd (alive.symm.trans terminated) (by decide)

theorem KernelInv.setIdleHandler (inv : KernelInv s) (alive : s.status = .running)
    (h : Option HandlerId) : KernelInv ({ s with idleHandler := h }.record [.set h]) := by
  have isSet : ∀ back, SetIn (back ++ [.set h]) := fun back => ⟨h, by simp⟩
  constructor
  · exact inv.phase_append rfl
  · exact inv.repeatable.append (by simp)
  · rintro h' rfl
    exact List.mem_append_right _ (List.mem_singleton_self _)
  · exact inv.called.append (by simp)
  · intro calls
    obtain ⟨back, round, _⟩ := inv.tested calls
    exact ⟨_, round.append (by simp) (by simp), fun _ => isSet back⟩
  · intro h' running
    obtain ⟨back, round, _⟩ := inv.within h' running
    exact ⟨_, round.append (by simp) (by simp), fun _ => isSet back⟩
  · intro terminated
    exact absurd (alive.symm.trans terminated) (by decide)

theorem up_of_idle (scheduled : s.Scheduled .idle) : s.kernel.up = 1 := by
  unfold State.Scheduled at scheduled
  cases k : s.kernel with
  | osKernelInactive =>
      rw [k] at scheduled
      contradiction
  | osKernelReady =>
      rw [k] at scheduled
      contradiction
  | _ => rfl

theorem KernelInv.idleStep (inv : KernelInv s) (alive : s.status = .running)
    (scheduled : s.Scheduled .idle) (taken : s.idleStep a = some s') : KernelInv s' := by
  have notTerminated : s.status ≠ .terminated := by
    rw [alive]
    decide
  unfold State.idleStep at taken
  split at taken
  case h_1 testing =>
    split at taken
    · cases taken
      exact inv
    · rename_i h isHandler
      cases taken
      refine ⟨inv.phase_append rfl, inv.repeatable.append (by simp), ?_,
        inv.called.append (by simp), ?_, ?_, fun terminated => absurd terminated notTerminated⟩
      · intro h' same
        exact List.mem_append_left _ (inv.handler h' same)
      · intro _
        have round : Round (s.log ++ [.tested]) [] := ⟨s.log, rfl, by simp, by simp⟩
        exact ⟨[], round, fun empty => absurd (isHandler.symm.trans empty) (by simp)⟩
      · intro h' running
        contradiction
  case h_2 calling =>
    obtain ⟨back, round, isSet⟩ := inv.tested calling
    split at taken
    · rename_i empty
      cases taken
      refine ⟨inv.phase, inv.repeatable, inv.handler, inv.called, ?_, ?_, ?_⟩
      · exact inv.tested
      · exact inv.within
      · intro _
        exact round.setSinceTest (isSet empty)
    · rename_i h isHandler
      cases taken
      have started := started_of_up inv.phase (up_of_idle scheduled)
      refine ⟨inv.phase_append rfl, inv.repeatable.append (by simp), ?_,
        inv.called.call started (inv.handler h isHandler), ?_, ?_,
        fun terminated => absurd terminated notTerminated⟩
      · intro h' same
        exact List.mem_append_left _ (inv.handler h' same)
      · intro calls
        contradiction
      · intro h' running
        cases running
        exact ⟨_, round.append (by simp) (by simp), fun other => absurd isHandler other⟩
  case h_3 h running =>
    cases taken
    refine ⟨inv.phase_append rfl, inv.repeatable.append (by simp), ?_,
      inv.called.append (by simp), ?_, ?_, fun terminated => absurd terminated notTerminated⟩
    · intro h' same
      exact List.mem_append_left _ (inv.handler h' same)
    · intro calls
      contradiction
    · intro h' running
      contradiction
  case h_4 => contradiction

theorem KernelInv.step (inv : KernelInv s) (taken : s.step a = some s') : KernelInv s' := by
  simp only [State.step, Option.ite_none_right_eq_some] at taken
  obtain ⟨alive, taken⟩ := taken
  cases a with
  | call context op env =>
      obtain ⟨_, result⟩ := Option.ite_none_right_eq_some.mp taken
      cases result
      exact inv.call alive context op env
  | setIdleHandler context h =>
      obtain ⟨_, result⟩ := Option.ite_none_right_eq_some.mp taken
      cases result
      exact inv.setIdleHandler alive h
  | idleTest =>
      obtain ⟨scheduled, taken⟩ := Option.ite_none_right_eq_some.mp taken
      exact inv.idleStep alive scheduled taken
  | idleCall =>
      obtain ⟨scheduled, taken⟩ := Option.ite_none_right_eq_some.mp taken
      exact inv.idleStep alive scheduled taken
  | idleReturn =>
      obtain ⟨scheduled, taken⟩ := Option.ite_none_right_eq_some.mp taken
      exact inv.idleStep alive scheduled taken

end Step

theorem kernelInv_initial : KernelInv .initial := by
  constructor
  · rfl
  · intro found
    exact absurd found.length_le (by decide)
  · intro h isHandler
    contradiction
  · intro h member
    contradiction
  · intro calls
    contradiction
  · intro h running
    contradiction
  · intro terminated
    contradiction

section Runs
variable {allowed : State → Action → Prop} {acts : List Action} {s : State}

theorem run_kernelInv (run : Run system allowed acts s) : KernelInv s := by
  refine run.invariant KernelInv kernelInv_initial ?_
  intro s a s' inv _ taken
  exact inv.step taken

/-- Whatever is called, the kernel is brought up once, and in order. -/
theorem run_broughtUp (run : Run system allowed acts s) :
    s.log.count (.kernel .initialized) ≤ 1 ∧ s.log.count (.kernel .started) ≤ 1 ∧
      (.kernel .started ∈ s.log →
        [.kernel .initialized, .kernel .started].Sublist s.log) := by
  have phase := (run_kernelInv run).phase
  have brought : s.kernel.brought ≤ 1 := by cases s.kernel <;> decide
  have up : s.kernel.up ≤ 1 := by cases s.kernel <;> decide
  exact ⟨(initialized_le phase).trans brought, (started_le phase).trans up,
    initialized_before phase⟩

theorem run_kernelSound (run : Run system allowed acts s) : KernelSound s := by
  have inv := run_kernelInv run
  refine ⟨inv.repeatable, inv.called, ?_⟩
  rintro (terminated | ⟨h, running, replaced⟩)
  · exact inv.thrown terminated
  · obtain ⟨back, round, isSet⟩ := inv.within h running
    exact round.setSinceTest (isSet replaced)

end Runs

/-- The handler is emptied between its test and its call. -/
def emptiesHandler : List Action :=
  [.call .main .kernelInitialize ⟨.osOK, "", 0⟩, .call .main .kernelInitialize ⟨.osError, "", 0⟩,
    .setIdleHandler .main (some 7), .call .main .start ⟨.osOK, "", 0⟩, .idleTest, .idleCall,
    .call .idle .suspend ⟨.osOK, "", 100⟩, .call .idle (.resume 60) ⟨.osOK, "", 0⟩, .idleReturn,
    .call (.thread 1) .lock ⟨.osOK, "", 0⟩, .call (.thread 1) (.unlock 0) ⟨.osOK, "", 0⟩, .idleTest,
    .setIdleHandler (.thread 1) none, .idleCall]

theorem emptiesHandler_sound :
    ∃ s, Run system Unrestricted emptiesHandler s ∧ s.status = .terminated ∧
      s.kernel = .osKernelRunning ∧ KernelSound s := by
  have run : Run system Unrestricted _ _ := Run.replayed emptiesHandler rfl
  exact ⟨_, run, rfl, rfl, run_kernelSound run⟩

end CmsisCpp.Kernel
