import CmsisCpp.Library.FixedWidth
import CmsisCpp.Thread.Phases

/-! # Controlling a thread through its object

Source: `include/Thread.h`, `src/Thread.cpp`.  `suspend`, `resume` and the other member
functions that CMSIS-RTOS2 adds hand the identifier that the object keeps to the
kernel, after a join or a detach as before.  An object that is joinable controls its
own thread and no other, and reads what was set through it, whatever moves it has
gone through and however often the kernel has used the identifier before. -/
set_option autoImplicit false

namespace CmsisCpp.Thread

open ActionSystem CallScript FixedWidth

/-! ## The library -/

inductive OsThreadState
  | inactive
  | ready
  | running
  | blocked
  | terminated
  | error
  deriving DecidableEq, Repr

inductive ControlCall
  | osThreadSuspend (id : Handle)
  | osThreadResume (id : Handle)
  | osThreadSetPriority (id : Handle) (priority : Int)
  | osThreadGetPriority (id : Handle)
  | osThreadGetName (id : Handle)
  | osThreadGetState (id : Handle)
  | osThreadGetStackSize (id : Handle)
  deriving DecidableEq, Repr

abbrev controlSig : Signature where
  Call := ControlCall
  Reply
    | .osThreadSuspend _ => OsStatus
    | .osThreadResume _ => OsStatus
    | .osThreadSetPriority _ _ => OsStatus
    | .osThreadGetPriority _ => Int
    | .osThreadGetName _ => Option String
    | .osThreadGetState _ => OsThreadState
    | .osThreadGetStackSize _ => Nat

def osPriorityError : Int := -1
def osPriorityIdle : Int := 1
def osPriorityISR : Int := 56

def suspend (pThread : Option ThreadImpl) : Script controlSig SystemError Unit :=
  .ask (.osThreadSuspend (getId pThread)) fun (sta : OsStatus) =>
    expectOk sta (strError "osThreadSuspend" (getId pThread))

def resume (pThread : Option ThreadImpl) : Script controlSig SystemError Unit :=
  .ask (.osThreadResume (getId pThread)) fun (sta : OsStatus) =>
    expectOk sta (strError "osThreadResume" (getId pThread))

/-- `priority(prio)`; the cast to `osPriority_t` is one to a 32-bit `int`. -/
def setPriority (prio : Int) (pThread : Option ThreadImpl) : Script controlSig SystemError Unit :=
  .ask (.osThreadSetPriority (getId pThread) (signed 32 prio)) fun (sta : OsStatus) =>
    expectOk sta (strError "osThreadSetPriority" (getId pThread))

/-- `priority()`, with the cast to a 32-bit `size_t`. -/
def priority (pThread : Option ThreadImpl) : Script controlSig SystemError Int :=
  .ask (.osThreadGetPriority (getId pThread)) fun (prio : Int) =>
    if prio = osPriorityError then
      .throw (osFailure .osError (strError "osThreadGetPriority" (getId pThread)))
    else .done (unsigned 32 prio)

def name (pThread : Option ThreadImpl) : Script controlSig SystemError (Option String) :=
  .ask (.osThreadGetName (getId pThread)) fun (name : Option String) => .done name

def isBlocked (pThread : Option ThreadImpl) : Script controlSig SystemError Bool :=
  .ask (.osThreadGetState (getId pThread)) fun (state : OsThreadState) =>
    if state = .error then
      .throw (osFailure .osError (strError "osThreadGetState" (getId pThread)))
    else .done (state = .blocked)

def stackSize (pThread : Option ThreadImpl) : Script controlSig SystemError Nat :=
  .ask (.osThreadGetStackSize (getId pThread)) fun (size : Nat) => .done size

/-! ## The kernel -/

/-- What the kernel knows about a thread.  While it holds a mutex that a thread of a
higher priority waits for it runs with an inherited one. -/
structure ControlBlock where
  name : Option String
  stackSize : Nat
  priority : Int
  inherited : Option Int
  suspended : Bool
  deriving DecidableEq, Repr

/-- The block without what the mutexes do to it. -/
def ControlBlock.own (block : ControlBlock) : ControlBlock := { block with inherited := none }

def ControlBlock.effective (block : ControlBlock) : Int := block.inherited.getD block.priority

/-- A thread without a stack of its own gets one of the default size. -/
def ControlBlock.new (defaultStack : Nat) (attr : OsThreadAttr) : ControlBlock where
  name := attr.name
  stackSize := if attr.stackSize = 0 then defaultStack else attr.stackSize
  priority := attr.priority
  inherited := none
  suspended := false

/-- The answers that the kernel is free to choose; a thread that is not suspended may
be in any state of its own. -/
structure ControlAnswers where
  status : OsStatus
  blocked : Bool
  deriving DecidableEq, Repr

def ValidPriority (prio : Int) : Prop := osPriorityIdle ≤ prio ∧ prio ≤ osPriorityISR

instance (prio : Int) : Decidable (ValidPriority prio) :=
  inferInstanceAs (Decidable (osPriorityIdle ≤ prio ∧ prio ≤ osPriorityISR))

section Kernel
variable (answers : ControlAnswers) (os : OsState) (blocks : Nat → ControlBlock)

/-- A change of the thread under an identifier; one that has ended cannot be changed. -/
def changeThread (id : Handle) (change : ControlBlock → ControlBlock) :
    OsStatus × (Nat → ControlBlock) :=
  match os.threads id with
  | none => (.osErrorParameter, blocks)
  | some thread =>
      if thread.running = false then (.osErrorResource, blocks)
      else if answers.status ≠ .osOK then (answers.status, blocks)
      else (.osOK, Function.update blocks thread.serial (change (blocks thread.serial)))

def readThread {Val : Type} (id : Handle) (missing : Val) (read : OsThread → ControlBlock → Val) :
    Val :=
  match os.threads id with
  | none => missing
  | some thread => read thread (blocks thread.serial)

def controlKernel : (call : ControlCall) → (Nat → ControlBlock) →
    controlSig.Reply call × (Nat → ControlBlock)
  | .osThreadSuspend id, blocks =>
      changeThread answers os blocks id fun block => { block with suspended := true }
  | .osThreadResume id, blocks =>
      changeThread answers os blocks id fun block => { block with suspended := false }
  | .osThreadSetPriority id prio, blocks =>
      if ValidPriority prio then
        changeThread answers os blocks id fun block =>
          { block with priority := prio, inherited := none }
      else (OsStatus.osErrorParameter, blocks)
  | .osThreadGetPriority id, blocks =>
      (readThread os blocks id osPriorityError fun thread block =>
        if thread.running = true then block.effective else osPriorityError, blocks)
  | .osThreadGetName id, blocks =>
      (readThread os blocks id (none : Option String) fun _ block => block.name, blocks)
  | .osThreadGetState id, blocks =>
      (readThread os blocks id OsThreadState.error fun thread block =>
        if thread.running = false then .terminated
        else if block.suspended = true ∨ answers.blocked = true then .blocked else .ready, blocks)
  | .osThreadGetStackSize id, blocks =>
      (readThread os blocks id (0 : Nat) fun _ block => block.stackSize, blocks)

end Kernel

/-! ## Threads under control -/

inductive Command
  | suspend
  | resume
  | priority (prio : Int)
  deriving DecidableEq, Repr

def Command.script : Command → Option ThreadImpl → Script controlSig SystemError Unit
  | .suspend => Thread.suspend
  | .resume => Thread.resume
  | .priority prio => Thread.setPriority prio

def Command.apply (block : ControlBlock) : Command → ControlBlock
  | .suspend => { block with suspended := true }
  | .resume => { block with suspended := false }
  | .priority prio => { block with priority := signed 32 prio, inherited := none }

/-- The kernel's blocks, by the number of the thread; what each `thread_impl` was made
with; and the commands that have returned, with the `thread_impl` they were given
through. -/
structure Controlled where
  base : State
  blocks : Nat → ControlBlock
  given : ImplId → ControlBlock
  issued : List (ImplId × Command)

inductive ControlAction
  | base (a : Action)
  | command (o : ObjId) (command : Command) (answers : ControlAnswers)
  /-- Priority inheritance of the mutexes: a thread gets a priority or is back at its own. -/
  | inherit (thread : Nat) (priority : Option Int)
  deriving DecidableEq, Repr

def Action.attributes : Action → Option Attributes
  | .user (.construct _ attr) _ => some attr
  | _ => none

namespace Controlled

def initial : Controlled where
  base := .initial
  blocks _ := ⟨none, 0, 0, none, false⟩
  given _ := ⟨none, 0, 0, none, false⟩
  issued := []

def asked (s : Controlled) (i : ImplId) : ControlBlock :=
  (History.of i s.issued).foldl Command.apply (s.given i)

/-- A step of the objects; the kernel creates no thread with a priority that does not
exist. -/
def baseStep (defaultStack : Nat) (s : Controlled) (a : Action) : Option Controlled :=
  match s.base.step a with
  | none => none
  | some base =>
      match a.attributes with
      | none => some { s with base := base }
      | some attr =>
          if base.os.created = s.base.os.created then some { s with base := base }
          else
            let block := ControlBlock.new defaultStack (osThreadAttr attr)
            if ValidPriority block.priority then
              some { s with
                base := base
                blocks := Function.update s.blocks s.base.os.created block
                given := Function.update s.given s.base.allocated block }
            else none

def call {Val : Type} (s : Controlled) (answers : ControlAnswers) (obj : Option ImplId)
    (script : Option ThreadImpl → Script controlSig SystemError Val) :
    Except SystemError Val × (Nat → ControlBlock) :=
  (script (s.base.pThread obj)).run (controlKernel answers s.base.os) s.blocks

def commandStep (s : Controlled) (o : ObjId) (command : Command) (answers : ControlAnswers) :
    Option Controlled :=
  match s.base.objs o with
  | none => none
  | some obj =>
      let called := s.call answers obj command.script
      match called.1, obj with
      | .ok (), some i =>
          some { s with blocks := called.2, issued := s.issued ++ [(i, command)] }
      | _, _ => some { s with blocks := called.2 }

/-- The kernel raises a priority, never above the highest, and takes that back. -/
def inheritStep (s : Controlled) (thread : Nat) (priority : Option Int) : Option Controlled :=
  if ∀ prio ∈ priority, (s.blocks thread).priority ≤ prio ∧ ValidPriority prio then
    some { s with
      blocks := Function.update s.blocks thread { s.blocks thread with inherited := priority } }
  else none

def step (defaultStack : Nat) (s : Controlled) : ControlAction → Option Controlled
  | .base a => s.baseStep defaultStack a
  | .command o command answers =>
      if s.base.status = .running then s.commandStep o command answers else none
  | .inherit thread priority => s.inheritStep thread priority

end Controlled

def controlled (defaultStack : Nat) : ActionSystem Controlled ControlAction where
  initial := .initial
  step := Controlled.step defaultStack

/-! ## What a command does -/

section Command
variable {answers : ControlAnswers} {os : OsState} {blocks : Nat → ControlBlock}

theorem expectOk_changed (id : Handle) (change : ControlBlock → ControlBlock) (what : String) :
    (∃ thread, os.threads id = some thread ∧
        (expectOk (changeThread answers os blocks id change).1 what :
            Script controlSig SystemError Unit).run (controlKernel answers os)
            (changeThread answers os blocks id change).2 =
          (.ok (), Function.update blocks thread.serial (change (blocks thread.serial)))) ∨
      ∃ error, (expectOk (changeThread answers os blocks id change).1 what :
        Script controlSig SystemError Unit).run (controlKernel answers os)
          (changeThread answers os blocks id change).2 = (.error error, blocks) := by
  cases present : os.threads id with
  | none => exact .inr (by simp [changeThread, present, expectOk])
  | some thread =>
      cases running : thread.running with
      | false => exact .inr (by simp [changeThread, present, running, expectOk])
      | true =>
          by_cases ok : answers.status = .osOK
          · exact .inl ⟨thread, rfl, by simp [changeThread, present, running, ok, expectOk]⟩
          · exact .inr (by simp [changeThread, present, running, ok, expectOk])

def ControlBlock.Valid (block : ControlBlock) : Prop := ValidPriority block.priority

def ControlBlock.Raised (block : ControlBlock) : Prop :=
  ∀ prio ∈ block.inherited, block.priority ≤ prio ∧ ValidPriority prio

theorem Command.apply_own (command : Command) (block : ControlBlock) :
    (command.apply block).own = command.apply block.own := by
  cases command <;> rfl

theorem Command.apply_raised {block : ControlBlock} (raised : block.Raised) (command : Command) :
    (command.apply block).Raised := by
  cases command with
  | suspend => exact raised
  | resume => exact raised
  | priority prio =>
      intro prio none
      cases none

/-- A command that returns has reached the thread under the identifier of the object;
one that throws has changed nothing. -/
theorem Command.script_run (command : Command) (pThread : Option ThreadImpl) :
    (∃ thread, os.threads (getId pThread) = some thread ∧
        (command.script pThread).run (controlKernel answers os) blocks =
          (.ok (), Function.update blocks thread.serial (command.apply (blocks thread.serial))) ∧
        ∀ block : ControlBlock, block.Valid → (command.apply block).Valid) ∨
      ∃ error, (command.script pThread).run (controlKernel answers os) blocks =
        (.error error, blocks) := by
  cases command with
  | suspend =>
      rcases @expectOk_changed answers os blocks (getId pThread)
        (fun block => { block with suspended := true }) _ with ⟨thread, present, ran⟩ | threw
      · exact .inl ⟨thread, present, ran, fun _ valid => valid⟩
      · exact .inr threw
  | resume =>
      rcases @expectOk_changed answers os blocks (getId pThread)
        (fun block => { block with suspended := false }) _ with ⟨thread, present, ran⟩ | threw
      · exact .inl ⟨thread, present, ran, fun _ valid => valid⟩
      · exact .inr threw
  | priority prio =>
      simp only [Command.script, setPriority, Script.run_ask, controlKernel]
      by_cases valid : ValidPriority (signed 32 prio)
      · rw [if_pos valid]
        rcases @expectOk_changed answers os blocks (getId pThread)
          (fun block => { block with priority := signed 32 prio, inherited := none }) _ with
          ⟨thread, present, ran⟩ | threw
        · exact .inl ⟨thread, present, ran, fun _ _ => valid⟩
        · exact .inr threw
      · right
        simp [valid, expectOk]

end Command

/-! ## Objects and their threads -/

/-- The kernel knows of each thread what was asked of it through its own object. -/
structure ControlInv (s : Controlled) : Prop where
  phases : PhaseInv s.base
  agrees : ∀ id thread, s.base.os.threads id = some thread →
    (s.blocks thread.serial).own = s.asked thread.serial
  raised : ∀ n, (s.blocks n).Raised
  valid : ∀ id thread, s.base.os.threads id = some thread → (s.asked thread.serial).Valid
  issued : ∀ entry ∈ s.issued, entry.1 < s.base.os.created

/-- The identifier of the object, after a join or a detach too, is not another
thread's by now. -/
def OwnThread (s : Controlled) : ControlAction → Prop
  | .base _ | .inherit _ _ => True
  | .command o _ _ => ∀ i ∈ (s.base.objs o).join, ∀ impl ∈ s.base.impls i,
      ∀ thread ∈ s.base.os.threads impl.id, thread.serial = i

instance (s : Controlled) : (a : ControlAction) → Decidable (OwnThread s a)
  | .base _ | .inherit _ _ => .isTrue trivial
  | .command o _ _ => inferInstanceAs (Decidable (∀ i ∈ (s.base.objs o).join,
      ∀ impl ∈ s.base.impls i, ∀ thread ∈ s.base.os.threads impl.id, thread.serial = i))

section Step
variable {defaultStack : Nat} {s s' : Controlled} {a : Action} {base : State}

theorem asked_self {i : ImplId} (command : Command) {blocks : Nat → ControlBlock} :
    ({ s with blocks := blocks, issued := s.issued ++ [(i, command)] } : Controlled).asked i =
      command.apply (s.asked i) := by
  have own : History.of i [(i, command)] = [command] := History.of_map_self [command]
  rw [Controlled.asked, History.of_append, own, List.foldl_append]
  rfl

theorem asked_other {i j : ImplId} (different : j ≠ i) (command : Command)
    {blocks : Nat → ControlBlock} :
    ({ s with blocks := blocks, issued := s.issued ++ [(i, command)] } : Controlled).asked j =
      s.asked j := by
  have none : History.of j [(i, command)] = [] := History.of_map_other (Ne.symm different) [command]
  rw [Controlled.asked, History.of_append, none, List.append_nil]
  rfl

theorem asked_new (inv : ControlInv s) : History.of s.base.os.created s.issued = [] := by
  rw [History.of, List.map_eq_nil_iff, List.filter_eq_nil_iff]
  intro entry member
  have known := inv.issued entry member
  simpa using Nat.ne_of_lt known

theorem ControlInv.kept (inv : ControlInv s) (stepped : s.base.step a = some base)
    (created : base.os.created = s.base.os.created) : ControlInv { s with base := base } := by
  obtain ⟨claims, claimInv⟩ := inv.phases.claims
  have change := step_table claimInv stepped
  have origin {id : Handle} {thread : OsThread} (present : base.os.threads id = some thread) :
      ∃ before, s.base.os.threads id = some before ∧ before.serial = thread.serial := by
    rcases change.origin inv.phases.table present with before | ⟨_, new⟩
    · exact before
    · omega
  constructor
  · exact inv.phases.step stepped
  · intro id thread present
    obtain ⟨before, presentBefore, serial⟩ := origin present
    rw [← serial]
    exact inv.agrees id before presentBefore
  · exact inv.raised
  · intro id thread present
    obtain ⟨before, presentBefore, serial⟩ := origin present
    rw [← serial]
    exact inv.valid id before presentBefore
  · intro entry member
    rw [created]
    exact inv.issued entry member

theorem ControlInv.born (inv : ControlInv s) (stepped : s.base.step a = some base)
    {block : ControlBlock} (fresh : block.inherited = none) (valid : block.Valid) :
    ControlInv { s with
      base := base
      blocks := Function.update s.blocks s.base.os.created block
      given := Function.update s.given s.base.allocated block } := by
  obtain ⟨claims, claimInv⟩ := inv.phases.claims
  have change := step_table claimInv stepped
  have sync := inv.phases.impls.sync
  have asked (n : Nat) : (History.of n s.issued).foldl Command.apply
      (Function.update s.given s.base.allocated block n) =
        if n = s.base.os.created then block else s.asked n := by
    rw [sync]
    by_cases same : n = s.base.os.created
    · subst same
      rw [asked_new inv, if_pos rfl, Function.update_self]
      rfl
    · rw [if_neg same, Function.update_of_ne same]
      rfl
  have origin {id : Handle} {thread : OsThread} (present : base.os.threads id = some thread) :
      (thread.serial ≠ s.base.os.created ∧ ∃ before, s.base.os.threads id = some before ∧
        before.serial = thread.serial) ∨ thread.serial = s.base.os.created := by
    rcases change.origin inv.phases.table present with ⟨before, found, serial⟩ | ⟨serial, _⟩
    · have known := inv.phases.table.serials id before found
      exact .inl ⟨by omega, before, found, serial⟩
    · exact .inr serial
  constructor
  · exact inv.phases.step stepped
  · intro id thread present
    change (Function.update s.blocks s.base.os.created block thread.serial).own =
      (History.of thread.serial s.issued).foldl _ _
    rw [asked]
    rcases origin present with ⟨old, before, found, serial⟩ | serial
    · rw [Function.update_of_ne old, if_neg old, ← serial]
      exact inv.agrees id before found
    · rw [serial, Function.update_self, if_pos rfl, ControlBlock.own, ← fresh]
  · intro n
    change (Function.update s.blocks s.base.os.created block n).Raised
    by_cases same : n = s.base.os.created
    · rw [same, Function.update_self]
      intro prio inherits
      rw [fresh] at inherits
      cases inherits
    · rw [Function.update_of_ne same]
      exact inv.raised n
  · intro id thread present
    change ControlBlock.Valid ((History.of thread.serial s.issued).foldl _ _)
    rw [asked]
    rcases origin present with ⟨old, before, found, serial⟩ | serial
    · rw [if_neg old, ← serial]
      exact inv.valid id before found
    · rwa [if_pos serial]
  · intro entry member
    exact Nat.lt_of_lt_of_le (inv.issued entry member) change.created_le

theorem baseStep_inv (inv : ControlInv s) (taken : s.baseStep defaultStack a = some s') :
    ControlInv s' := by
  simp only [Controlled.baseStep] at taken
  split at taken
  · contradiction
  · rename_i base stepped
    split at taken
    · rename_i noAttributes
      have created : base.os.created = s.base.os.created := by
        by_contra new
        obtain ⟨o, attr, env, rfl⟩ := constructs_of_created stepped new
        contradiction
      cases taken
      exact inv.kept stepped created
    · split at taken
      · rename_i created
        cases taken
        exact inv.kept stepped created
      · simp only [Option.ite_none_right_eq_some, Option.some.injEq] at taken
        obtain ⟨valid, rfl⟩ := taken
        exact inv.born stepped rfl valid

/-- A command reaches the thread of its own object, or it throws. -/
theorem commandStep_inv (inv : ControlInv s) {o : ObjId} {command : Command}
    {answers : ControlAnswers} (own : OwnThread s (.command o command answers))
    (taken : s.commandStep o command answers = some s') : ControlInv s' := by
  simp only [Controlled.commandStep] at taken
  split at taken
  · contradiction
  · rename_i obj owned
    simp only [Controlled.call] at taken
    rcases command.script_run (s.base.pThread obj) with
      ⟨thread, present, ran, keepsValid⟩ | ⟨error, ran⟩
    · have reached : ∃ i impl, obj = some i ∧ s.base.impls i = some impl ∧
          getId (s.base.pThread obj) = impl.id := by
        cases obj with
        | none => exact absurd (inv.phases.table.nullFree.symm.trans present) (by simp)
        | some i =>
            cases found : s.base.impls i with
            | none =>
                rw [State.pThread, Option.bind_some, found] at present
                exact absurd (inv.phases.table.nullFree.symm.trans present) (by simp)
            | some impl => exact ⟨i, impl, rfl, found, by simp [State.pThread, found, getId]⟩
      obtain ⟨i, impl, rfl, found, place⟩ := reached
      rw [place] at present
      have serial : thread.serial = i :=
        own i (by rw [owned]; rfl) impl found thread present
      rw [ran] at taken
      cases taken
      subst serial
      constructor
      · exact inv.phases
      · intro id other presentOther
        by_cases same : other.serial = thread.serial
        · rw [same, asked_self]
          change (Function.update s.blocks _ _ _).own = _
          rw [Function.update_self, Command.apply_own, inv.agrees impl.id thread present]
        · rw [asked_other same]
          change (Function.update s.blocks _ _ _).own = _
          rw [Function.update_of_ne same, inv.agrees id other presentOther]
      · intro n
        change (Function.update s.blocks _ _ n).Raised
        by_cases same : n = thread.serial
        · rw [same, Function.update_self]
          exact Command.apply_raised (inv.raised thread.serial) command
        · rw [Function.update_of_ne same]
          exact inv.raised n
      · intro id other presentOther
        by_cases same : other.serial = thread.serial
        · rw [same, asked_self]
          exact keepsValid _ (inv.valid impl.id thread present)
        · rw [asked_other same]
          exact inv.valid id other presentOther
      · intro entry member
        rcases List.mem_append.mp member with old | new
        · exact inv.issued entry old
        · rw [List.mem_singleton.mp new]
          exact inv.phases.table.serials impl.id thread present
    · rw [ran] at taken
      cases taken
      exact ⟨inv.phases, inv.agrees, inv.raised, inv.valid, inv.issued⟩

/-- Inheritance changes what a thread runs with and nothing that was asked of it. -/
theorem inheritStep_inv (inv : ControlInv s) {thread : Nat} {priority : Option Int}
    (taken : s.inheritStep thread priority = some s') : ControlInv s' := by
  simp only [Controlled.inheritStep, Option.ite_none_right_eq_some, Option.some.injEq] at taken
  obtain ⟨raised, rfl⟩ := taken
  constructor
  · exact inv.phases
  · intro id other present
    change (Function.update s.blocks _ _ _).own = _
    by_cases same : other.serial = thread
    · subst same
      rw [Function.update_self]
      exact inv.agrees id other present
    · rw [Function.update_of_ne same]
      exact inv.agrees id other present
  · intro n
    change (Function.update s.blocks _ _ n).Raised
    by_cases same : n = thread
    · rw [same, Function.update_self]
      exact raised
    · rw [Function.update_of_ne same]
      exact inv.raised n
  · exact inv.valid
  · exact inv.issued

theorem step_controlInv {act : ControlAction} (inv : ControlInv s) (own : OwnThread s act)
    (taken : (controlled defaultStack).step s act = some s') : ControlInv s' := by
  cases act with
  | base a => exact baseStep_inv inv taken
  | command o command answers =>
      obtain ⟨_, taken⟩ := Option.ite_none_right_eq_some.mp taken
      exact commandStep_inv inv own taken
  | inherit thread priority => exact inheritStep_inv inv taken

end Step

theorem run_controlInv {defaultStack : Nat} {acts : List ControlAction} {s : Controlled}
    (run : Run (controlled defaultStack) OwnThread acts s) : ControlInv s := by
  refine run.invariant ControlInv ?_ fun _ _ _ inv own taken => step_controlInv inv own taken
  constructor
  · exact phaseInv_initial
  · intro id thread present
    cases present
  · intro n prio none
    cases none
  · intro id thread present
    cases present
  · intro entry member
    cases member

/-! ## What an object reads -/

def Controlled.reading {Val : Type} (s : Controlled) (answers : ControlAnswers)
    (obj : Option ImplId) (script : Option ThreadImpl → Script controlSig SystemError Val) :
    Except SystemError Val := (s.call answers obj script).1

/-- While the thread of an object runs, the object reads what was given and asked
through it, or through the objects that had the thread before; the priority is at least
the one that was asked for, and that one unless the thread has inherited another.  The
identifier of a joinable object is its own thread's.  An object without a thread
controls none. -/
structure ReadsAsAsked (s : Controlled) : Prop where
  reads : ∀ o i impl thread, s.base.objs o = some (some i) → s.base.impls i = some impl →
    s.base.os.threads impl.id = some thread → thread.serial = i → thread.running = true →
      ∀ answers, (∃ prio, s.reading answers (some i) priority = .ok prio ∧
          (s.asked i).priority ≤ prio ∧
          ((s.blocks i).inherited = none → prio = (s.asked i).priority)) ∧
        s.reading answers (some i) name = .ok (s.asked i).name ∧
        s.reading answers (some i) stackSize = .ok (s.asked i).stackSize ∧
        ((s.asked i).suspended = true → s.reading answers (some i) isBlocked = .ok true)
  attached : ∀ i impl, s.base.impls i = some impl → impl.joinable = true →
    ∃ thread, s.base.os.threads impl.id = some thread ∧ thread.serial = i
  withoutThread : ∀ answers (command : Command),
    ∃ error, s.call answers none command.script = (.error error, s.blocks)

section Reading
variable {s : Controlled}

theorem reading_priority {prio : Int} (valid : ValidPriority prio) :
    prio ≠ osPriorityError ∧ unsigned 32 prio = prio := by
  obtain ⟨low, high⟩ := valid
  simp only [osPriorityIdle, osPriorityISR, osPriorityError] at *
  refine ⟨by omega, unsigned_32_of_range (by omega) (by omega)⟩

theorem effective_of_raised {block : ControlBlock} (valid : ValidPriority block.priority)
    (raised : block.Raised) :
    block.priority ≤ block.effective ∧ ValidPriority block.effective := by
  rw [ControlBlock.effective]
  cases inherits : block.inherited with
  | none => exact ⟨le_refl _, valid⟩
  | some prio => exact raised prio inherits

theorem ControlInv.readsAsAsked (inv : ControlInv s) : ReadsAsAsked s where
  reads := by
    intro o i impl thread owned found present serial running answers
    have place : getId (s.base.pThread (some i)) = impl.id := by
      simp [State.pThread, found, getId]
    have agrees : (s.blocks i).own = s.asked i := by
      have own := inv.agrees impl.id thread present
      rwa [serial] at own
    have priority : (s.blocks i).priority = (s.asked i).priority := by rw [← agrees]; rfl
    have blockName : (s.blocks i).name = (s.asked i).name := by rw [← agrees]; rfl
    have size : (s.blocks i).stackSize = (s.asked i).stackSize := by rw [← agrees]; rfl
    have isSuspended : (s.blocks i).suspended = (s.asked i).suspended := by rw [← agrees]; rfl
    have valid : (s.asked i).Valid := serial ▸ inv.valid impl.id thread present
    obtain ⟨asked, effective⟩ := effective_of_raised (priority ▸ valid) (inv.raised i)
    obtain ⟨noError, inRange⟩ := reading_priority effective
    refine ⟨⟨(s.blocks i).effective, ?_, priority ▸ asked, ?_⟩, ?_, ?_, ?_⟩
    · simp [Controlled.reading, Controlled.call, Thread.priority, controlKernel, readThread, place,
        present, running, serial, noError, inRange]
    · intro notInherited
      rw [ControlBlock.effective, notInherited, Option.getD_none, priority]
    · simp [Controlled.reading, Controlled.call, name, controlKernel, readThread, place, present,
        serial, blockName]
    · simp [Controlled.reading, Controlled.call, stackSize, controlKernel, readThread, place,
        present, serial, size]
    · intro suspended
      simp [Controlled.reading, Controlled.call, isBlocked, controlKernel, readThread, place,
        present, running, serial, isSuspended, suspended]
  attached := by
    intro i impl found joinable
    obtain ⟨claims, claimInv⟩ := inv.phases.claims
    have notDetached : impl.detached = false := by simpa [ThreadImpl.joinable] using joinable
    obtain ⟨thread, present, serial, _, _⟩ := claimInv.attached i impl found notDetached
    exact ⟨thread, present, serial⟩
  withoutThread := by
    intro answers command
    rcases command.script_run (s.base.pThread none) with ⟨thread, present, _⟩ | threw
    · exact absurd (inv.phases.table.nullFree.symm.trans present) (by simp)
    · exact threw

end Reading

/-- Every run in which no command goes through an object whose identifier another
thread has by now. -/
theorem run_readsAsAsked {defaultStack : Nat} {acts : List ControlAction} {s : Controlled}
    (run : Run (controlled defaultStack) OwnThread acts s) : ReadsAsAsked s :=
  (run_controlInv run).readsAsAsked

/-- The first thread gets its priority and is joined; the second has its identifier, and
its object is moved before it is suspended.  It inherits a priority meanwhile. -/
def controlsTwo : List ControlAction :=
  [.base (.user (.construct 0 ⟨0, 0, osPriorityNone, some "first"⟩) ⟨1, .osOK, 9⟩),
    .command 0 (.priority 40) ⟨.osOK, false⟩, .base (.finish 1),
    .base (.user (.join 0) ⟨0, .osOK, 9⟩),
    .base (.user (.construct 1 ⟨0, 256, 8, none⟩) ⟨1, .osOK, 9⟩), .inherit 1 (some 40),
    .base (.user (.moveConstruct 2 1) ⟨0, .osOK, 9⟩), .command 2 .suspend ⟨.osOK, false⟩,
    .inherit 1 none, .command 2 .resume ⟨.osErrorResource, false⟩]

theorem controlsTwo_readsAsAsked :
    ∃ s, Run (controlled 512) OwnThread controlsTwo s ∧
      s.asked 1 = ⟨none, 256, 8, none, true⟩ ∧ ReadsAsAsked s := by
  have run : Run (controlled 512) OwnThread _ _ := Run.replayed controlsTwo rfl
  exact ⟨_, run, rfl, run_readsAsAsked run⟩

end CmsisCpp.Thread
