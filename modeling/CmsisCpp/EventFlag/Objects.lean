import CmsisCpp.EventFlag
import CmsisCpp.Handles
import CmsisCpp.Library.ActionSystem

/-! # The life of the event objects

Source: `include/EventFlag.h`, `src/EventFlag.cpp`.

Any number of `event` objects are constructed, moved, swapped and destroyed.  Every
move of an `event` is a swap. -/
set_option autoImplicit false

namespace CmsisCpp.EventFlag

open ActionSystem CallScript Ownership

inductive ObjectCall
  | osEventFlagsNew
  | osEventFlagsDelete (id : Handle)
  | osEventFlagsSet (id : Handle) (mask : UInt32)
  deriving DecidableEq, Repr

abbrev objectSig : Signature where
  Call := ObjectCall
  Reply
    | .osEventFlagsNew => Handle
    | .osEventFlagsDelete _ => OsStatus
    | .osEventFlagsSet _ _ => UInt32

def set (id : Handle) (mask : UInt32) : Script objectSig SystemError UInt32 :=
  .ask (.osEventFlagsSet id mask) fun (flags : UInt32) =>
    readFlags flags (strError "osEventFlagsSet" id)

/-- The constructor; its value is `m_id`. -/
def event (mask : UInt32) : Script objectSig SystemError Handle :=
  .ask .osEventFlagsNew fun (id : Handle) =>
    if id = 0 then .throw (osFailure .osError "osEventFlagsNew")
    else if mask ≠ 0 then (set id mask).bind fun _ => .done id
    else .done id

def destroy (id : Handle) : Script objectSig SystemError Unit :=
  if id ≠ 0 then
    .ask (.osEventFlagsDelete id) fun (sta : OsStatus) =>
      expectOk sta (strError "osEventFlagsDelete" id)
  else .done ()

/-- `setError` is the error, if any, that the OS answers a set with. -/
structure EventAnswers extends OsAnswers where
  setError : Option UInt32
  deriving DecidableEq, Repr

/-- The OS objects are the flags that are set. -/
def objectKernel (answers : EventAnswers) :
    (call : ObjectCall) → Handles UInt32 → objectSig.Reply call × Handles UInt32
  | .osEventFlagsNew, s => s.osNew answers.toOsAnswers 0
  | .osEventFlagsDelete id, s => s.osDelete answers.toOsAnswers id
  | .osEventFlagsSet id mask, s =>
      match answers.setError, s.os id with
      | none, some flags => (flags ||| mask, s.setOs id (flags ||| mask))
      | some error, _ => (osFlagsError ||| error, s)
      | none, none => (osFlagsError, s)

inductive Action
  | construct (o : ObjId) (mask : UInt32) (answers : EventAnswers)
  | moveConstruct (o evt : ObjId)
  | moveAssign (o evt : ObjId)
  | swap (o evt : ObjId)
  | destroy (o : ObjId) (answers : EventAnswers)
  deriving DecidableEq, Repr

/-- A constructor that throws leaves no object, and what it has created. -/
def construct (s : Handles UInt32) (o : ObjId) (mask : UInt32) (answers : EventAnswers) :
    Option (Handles UInt32) :=
  if s.objs o = none then
    let called := (event mask).run (objectKernel answers) s
    match called.1 with
    | .ok id => some (called.2.setId o (some id))
    | .error _ => some called.2
  else none

/-- `m_id(0)`, then a swap. -/
def moveConstruct (s : Handles UInt32) (o evt : ObjId) : Option (Handles UInt32) :=
  match s.objs o, s.objs evt with
  | none, some _ => (s.setId o (some 0)).swapIds o evt
  | _, _ => none

def destroyObject (s : Handles UInt32) (o : ObjId) (answers : EventAnswers) :
    Option (Handles UInt32) :=
  match s.objs o with
  | none => none
  | some id =>
      let called := (destroy id).run (objectKernel answers) s
      some (called.2.setId o none)

def step (s : Handles UInt32) : Action → Option (Handles UInt32)
  | .construct o mask answers => construct s o mask answers
  | .moveConstruct o evt => moveConstruct s o evt
  | .moveAssign o evt => s.swapIds o evt
  | .swap o evt => s.swapIds o evt
  | .destroy o answers => destroyObject s o answers

def system : ActionSystem (Handles UInt32) Action where
  initial := .initial
  step := step

/-! ## Ownership -/

def Succeeds (s : Handles UInt32) : Action → Prop
  | .construct _ mask answers => ((event mask).run (objectKernel answers) s).1.isOk = true
  | .destroy _ answers => answers.deleteStatus = .osOK
  | _ => True

instance (s : Handles UInt32) : (a : Action) → Decidable (Succeeds s a)
  | .construct _ mask answers =>
      inferInstanceAs (Decidable (((event mask).run (objectKernel answers) s).1.isOk = true))
  | .destroy _ answers => inferInstanceAs (Decidable (answers.deleteStatus = .osOK))
  | .moveConstruct _ _ => .isTrue trivial
  | .moveAssign _ _ => .isTrue trivial
  | .swap _ _ => .isTrue trivial

section Step
variable {s s' : Handles UInt32} {a : Action} {o evt : ObjId}

/-- A set changes at most the flags of its OS object. -/
theorem set_run (id : Handle) (mask : UInt32) (answers : EventAnswers) :
    ((set id mask).run (objectKernel answers) s).2.estate = s.estate ∧
      ((set id mask).run (objectKernel answers) s).2.deleteCalls = s.deleteCalls ∧
      ((set id mask).run (objectKernel answers) s).2.objs = s.objs := by
  have ran : ((set id mask).run (objectKernel answers) s).2 =
      (objectKernel answers (.osEventFlagsSet id mask) s).2 := by
    rw [set, Script.run_ask]
    exact readFlags_run ..
  rw [ran]
  cases refused : answers.setError with
  | some error => simp [objectKernel, refused]
  | none =>
      cases found : s.os id with
      | none => simp [objectKernel, refused, found]
      | some flags =>
          simp only [objectKernel, refused, found]
          exact ⟨Handles.setOs_estate found, rfl, rfl⟩

theorem event_run_eq (mask : UInt32) (answers : EventAnswers) :
    (event mask).run (objectKernel answers) s =
      (if (s.osNew answers.toOsAnswers 0).1 = 0 then
          .throw (osFailure .osError "osEventFlagsNew")
        else if mask ≠ 0 then
          (set (s.osNew answers.toOsAnswers 0).1 mask).bind fun _ =>
            .done (s.osNew answers.toOsAnswers 0).1
        else .done (s.osNew answers.toOsAnswers 0).1 : Script objectSig SystemError Handle).run
          (objectKernel answers) (s.osNew answers.toOsAnswers 0).2 := by
  rw [event, Script.run_ask]
  rfl

/-- A constructor that returns has created the OS object it returns. -/
theorem event_run {mask : UInt32} {answers : EventAnswers} {id : Handle}
    (returned : ((event mask).run (objectKernel answers) s).1 = .ok id) :
    id ≠ 0 ∧ id = (s.osNew answers.toOsAnswers 0).1 ∧
      ((event mask).run (objectKernel answers) s).2.estate =
        (s.osNew answers.toOsAnswers 0).2.estate ∧
      ((event mask).run (objectKernel answers) s).2.deleteCalls = s.deleteCalls ∧
      ((event mask).run (objectKernel answers) s).2.objs = s.objs := by
  have objs : (s.osNew answers.toOsAnswers 0).2.objs = s.objs := Handles.osNew_objs
  have calls : (s.osNew answers.toOsAnswers 0).2.deleteCalls = s.deleteCalls :=
    Handles.osNew_deleteCalls
  rw [event_run_eq] at returned ⊢
  by_cases failed : (s.osNew answers.toOsAnswers 0).1 = 0
  · rw [if_pos failed, Script.run_throw] at returned
    contradiction
  · rw [if_neg failed] at returned ⊢
    by_cases noMask : mask ≠ 0
    · rw [if_pos noMask] at returned ⊢
      obtain ⟨rfl, after⟩ := Script.run_bind_done returned
      have ran := set_run (s := (s.osNew answers.toOsAnswers 0).2)
        (s.osNew answers.toOsAnswers 0).1 mask answers
      rw [← after, calls, objs] at ran
      exact ⟨failed, rfl, ran⟩
    · rw [if_neg noMask, Script.run_done] at returned ⊢
      cases returned
      exact ⟨failed, rfl, rfl, calls, objs⟩

theorem destroy_run (id : Handle) (answers : EventAnswers) :
    ((destroy id).run (objectKernel answers) s).2 =
      if id = 0 then s else (s.osDelete answers.toOsAnswers id).2 := by
  by_cases null : id = 0
  · simp [destroy, null]
  · by_cases ok : (s.osDelete answers.toOsAnswers id).1 = .osOK <;>
      simp [destroy, null, objectKernel, expectOk, ok]

theorem construct_sound {mask : UInt32} {answers : EventAnswers} (inv : Handles.SoundInv s)
    (succeeds : ((event mask).run (objectKernel answers) s).1.isOk = true)
    (taken : construct s o mask answers = some s') : Handles.SoundInv s' := by
  simp only [construct, Option.ite_none_right_eq_some] at taken
  obtain ⟨absent, taken⟩ := taken
  cases outcome : ((event mask).run (objectKernel answers) s).1 with
  | error error =>
      rw [outcome] at succeeds
      contradiction
  | ok id =>
      simp only [outcome, Option.some.injEq] at taken
      obtain ⟨valid, created, estate, calls, objs⟩ := event_run outcome
      subst created
      have acquired : Transfers s.estate ((s.osNew answers.toOsAnswers 0).2.setId o
          (some (s.osNew answers.toOsAnswers 0).1)).estate := Handles.osNew_transfers absent valid
      have same := Handles.setId_congr (o := o)
        (x := some (s.osNew answers.toOsAnswers 0).1) estate (objs.trans Handles.osNew_objs.symm)
      rw [← same, taken] at acquired
      exact inv.transfers acquired (taken ▸ calls)

theorem step_sound (inv : Handles.SoundInv s) (succeeds : Succeeds s a)
    (taken : step s a = some s') : Handles.SoundInv s' := by
  cases a with
  | construct o mask answers => exact construct_sound inv succeeds taken
  | moveConstruct o evt =>
      simp only [step, moveConstruct] at taken
      split at taken
      · rename_i id absent present
        have null := Handles.setId_empty (s := s) (o := o) (x := some 0) (by rw [absent]; rfl) rfl
        have swapped := Handles.swapIds_reassigned taken
        exact inv.transfers (null ▸ swapped.transfers) swapped.deleteCalls
      · contradiction
  | moveAssign o evt => exact inv.reassigned (Handles.swapIds_reassigned taken)
  | swap o evt => exact inv.reassigned (Handles.swapIds_reassigned taken)
  | destroy o answers =>
      simp only [step, destroyObject, destroy_run] at taken
      split at taken
      · contradiction
      · rename_i id found
        cases taken
        by_cases null : id = 0
        · rw [if_pos null]
          have kept := Handles.setId_empty (s := s) (o := o) (x := none)
            (by simp [found, null, Handles.ownedBy]) rfl
          exact ⟨kept ▸ inv.owned, inv.nonnull⟩
        · rw [if_neg null]
          exact inv.osDelete found null succeeds rfl

end Step

theorem run_sound {acts : List Action} {s : Handles UInt32} (run : Run system Succeeds acts s) :
    Handles.SoundInv s := by
  refine run.invariant Handles.SoundInv Handles.soundInv_initial ?_
  intro s a s' inv succeeds taken
  exact step_sound inv succeeds taken

end CmsisCpp.EventFlag
