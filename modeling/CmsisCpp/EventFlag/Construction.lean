import CmsisCpp.EventFlag.Objects

/-! # Events that fail to be constructed

Source: `event::event` and `event::set` in `src/EventFlag.cpp`.  The constructor creates
the OS object and then sets the initial flags, which may throw; the destructor, which
would delete the OS object, does not run for an object whose constructor throws. -/
set_option autoImplicit false

namespace CmsisCpp.EventFlag

open ActionSystem CallScript Ownership

/-! ## Setting flags -/

section Set
variable {s : Handles UInt32} {answers : EventAnswers} {id : Handle} {mask flags : UInt32}

theorem set_run_refused {error : UInt32} (refused : answers.setError = some error) :
    ∃ failure, (set id mask).run (objectKernel answers) s = (.error failure, s) := by
  have negative : toInt32 (osFlagsError ||| error) < 0 := by
    have marked : osFlagsError.toNat.testBit 31 = true := by decide
    rw [toInt32_neg_iff, UInt32.toNat_or, Nat.testBit_or, marked, Bool.true_or]
  refine ⟨flagsFailure (toInt32 (osFlagsError ||| error)) (strError "osEventFlagsSet" id), ?_⟩
  rw [set, Script.run_ask]
  simp only [objectKernel, refused]
  rw [readFlags, if_pos negative, Script.run_throw]

theorem set_run_accepted (accepted : answers.setError = none) (found : s.os id = some flags)
    (valid : (flags ||| mask).toNat.testBit 31 = false) :
    (set id mask).run (objectKernel answers) s =
      (.ok (flags ||| mask), s.setOs id (flags ||| mask)) := by
  have nonneg : ¬ toInt32 (flags ||| mask) < 0 := by
    rw [toInt32_neg_iff, valid]
    exact Bool.false_ne_true
  rw [set, Script.run_ask]
  simp only [objectKernel, accepted, found]
  rw [readFlags, if_neg nonneg, Script.run_done]

end Set

/-! ## One construction -/

/-- `osEventFlagsSet` fails exactly when bit 31 of the mask is set. -/
def SetDocumented (mask : UInt32) (answers : EventAnswers) : Prop :=
  answers.setError.isSome = true ↔ mask.toNat.testBit 31 = true

instance (mask : UInt32) (answers : EventAnswers) : Decidable (SetDocumented mask answers) :=
  inferInstanceAs (Decidable (_ ↔ _))

/-- `event(mask)` completes with one new OS object that holds the flags of `mask`, or
throws and leaves the OS objects as they were. -/
def AllOrNothing (s : Handles UInt32) (mask : UInt32) (answers : EventAnswers) : Prop :=
  (∃ id, ((event mask).run (objectKernel answers) s).1 = .ok id ∧ id ≠ 0 ∧ s.os id = none ∧
      ((event mask).run (objectKernel answers) s).2.os = Function.update s.os id (some mask)) ∨
    ∃ error, ((event mask).run (objectKernel answers) s).1 = .error error ∧
      ((event mask).run (objectKernel answers) s).2.os = s.os

section Construct
variable {s : Handles UInt32} {answers : EventAnswers}

theorem event_run_noObject (mask : UInt32) (failed : (s.osNew answers.toOsAnswers 0).1 = 0) :
    ∃ error, (event mask).run (objectKernel answers) s = (.error error, s) := by
  refine ⟨osFailure .osError "osEventFlagsNew", ?_⟩
  rw [event_run_eq, if_pos failed, Script.run_throw, Handles.osNew_failed failed]

theorem osNew_created (created : (s.osNew answers.toOsAnswers 0).1 ≠ 0) :
    s.os (s.osNew answers.toOsAnswers 0).1 = none ∧
      (s.osNew answers.toOsAnswers 0).2.os =
        Function.update s.os (s.osNew answers.toOsAnswers 0).1 (some 0) := by
  unfold Handles.osNew at created ⊢
  split
  · rename_i refused
    rw [if_pos refused] at created
    exact absurd rfl created
  · rename_i accepted
    rw [not_or, Option.not_isSome_iff_eq_none] at accepted
    exact ⟨accepted.2, rfl⟩

variable {mask : UInt32}

/-- The mask is refused after the OS object was created. -/
theorem event_run_leaks (created : (s.osNew answers.toOsAnswers 0).1 ≠ 0)
    (marked : mask.toNat.testBit 31 = true) (documented : SetDocumented mask answers) :
    ∃ error, (event mask).run (objectKernel answers) s =
      (.error error, (s.osNew answers.toOsAnswers 0).2) := by
  have nonzero : mask ≠ 0 := by
    intro zero
    rw [zero, UInt32.toNat_zero, Nat.zero_testBit] at marked
    cases marked
  obtain ⟨error, refused⟩ := Option.isSome_iff_exists.mp (documented.mpr marked)
  obtain ⟨failure, ran⟩ := @set_run_refused (s.osNew answers.toOsAnswers 0).2 answers
    (s.osNew answers.toOsAnswers 0).1 mask error refused
  refine ⟨failure, ?_⟩
  rw [event_run_eq, if_neg created, if_pos nonzero]
  exact Script.run_bind_error ran _

theorem event_run_completes (created : (s.osNew answers.toOsAnswers 0).1 ≠ 0)
    (unmarked : mask.toNat.testBit 31 = false) (documented : SetDocumented mask answers) :
    ((event mask).run (objectKernel answers) s).1 = .ok (s.osNew answers.toOsAnswers 0).1 ∧
      ((event mask).run (objectKernel answers) s).2.os =
        Function.update s.os (s.osNew answers.toOsAnswers 0).1 (some mask) := by
  obtain ⟨_, os⟩ := osNew_created created
  rw [event_run_eq, if_neg created]
  by_cases zero : mask = 0
  · rw [if_neg (not_not.mpr zero), Script.run_done, zero]
    exact ⟨rfl, os⟩
  · have accepted : answers.setError = none := by
      rw [SetDocumented, unmarked] at documented
      exact Option.not_isSome_iff_eq_none.mp (mt documented.mp Bool.false_ne_true)
    have found : (s.osNew answers.toOsAnswers 0).2.os (s.osNew answers.toOsAnswers 0).1 =
        some 0 := by
      rw [os, Function.update_self]
    have valid : ((0 : UInt32) ||| mask).toNat.testBit 31 = false := by
      rw [UInt32.zero_or]
      exact unmarked
    have ran := set_run_accepted accepted found valid
    rw [UInt32.zero_or] at ran
    rw [if_pos zero, Script.run_bind_ok ran, Script.run_done]
    refine ⟨rfl, ?_⟩
    simp only [Handles.setOs, os, Function.update_idem]

/-- A construction is all or nothing exactly when bit 31 of its mask is clear, or it
does not get as far as setting the flags. -/
theorem allOrNothing_construct_iff (documented : SetDocumented mask answers) :
    AllOrNothing s mask answers ↔
      mask.toNat.testBit 31 = false ∨ (s.osNew answers.toOsAnswers 0).1 = 0 := by
  by_cases failed : (s.osNew answers.toOsAnswers 0).1 = 0
  · obtain ⟨error, ran⟩ := event_run_noObject mask failed
    refine iff_of_true (.inr ⟨error, ?_⟩) (.inr failed)
    rw [ran]
    exact ⟨rfl, rfl⟩
  · obtain ⟨fresh, os⟩ := osNew_created failed
    by_cases marked : mask.toNat.testBit 31 = true
    · obtain ⟨error, ran⟩ := event_run_leaks failed marked documented
      rw [AllOrNothing, ran]
      refine iff_of_false ?_ (by simp [marked, failed])
      rintro (⟨id, returned, _⟩ | ⟨_, _, unchanged⟩)
      · cases returned
      · have same := congrFun (unchanged.symm.trans os) (s.osNew answers.toOsAnswers 0).1
        rw [fresh, Function.update_self] at same
        cases same
    · have unmarked := Bool.eq_false_of_not_eq_true marked
      obtain ⟨returned, after⟩ := event_run_completes failed unmarked documented
      exact iff_of_true (.inl ⟨_, returned, failed, fresh, after⟩) (.inl unmarked)

end Construct

/-! ## Whole runs -/

/-- The OS keeps to its documentation: also, the deletion of a live object succeeds. -/
def Documented (_ : Handles UInt32) : Action → Prop
  | .construct _ mask answers => SetDocumented mask answers
  | .destroy _ answers => answers.deleteStatus = .osOK
  | _ => True

/-- No construction gets as far as setting flags with bit 31 in its mask. -/
def ConstructsValid (s : Handles UInt32) : Action → Prop
  | .construct _ mask answers =>
      mask.toNat.testBit 31 = false ∨ (s.osNew answers.toOsAnswers 0).1 = 0
  | _ => True

def DocumentedAndValid (s : Handles UInt32) (a : Action) : Prop :=
  Documented s a ∧ ConstructsValid s a

instance (s : Handles UInt32) : (a : Action) → Decidable (Documented s a)
  | .construct _ mask answers => inferInstanceAs (Decidable (SetDocumented mask answers))
  | .destroy _ answers => inferInstanceAs (Decidable (answers.deleteStatus = .osOK))
  | .moveConstruct _ _ => .isTrue trivial
  | .moveAssign _ _ => .isTrue trivial
  | .swap _ _ => .isTrue trivial

instance (s : Handles UInt32) : (a : Action) → Decidable (ConstructsValid s a)
  | .construct _ mask answers =>
      inferInstanceAs (Decidable (mask.toNat.testBit 31 = false ∨
        (s.osNew answers.toOsAnswers 0).1 = 0))
  | .destroy _ _ => .isTrue trivial
  | .moveConstruct _ _ => .isTrue trivial
  | .moveAssign _ _ => .isTrue trivial
  | .swap _ _ => .isTrue trivial

instance (s : Handles UInt32) (a : Action) : Decidable (DocumentedAndValid s a) :=
  inferInstanceAs (Decidable (_ ∧ _))

structure CountsMatch (s : Handles UInt32) : Prop where
  finite : {id | (s.os id).isSome = true}.Finite
  equal : {id | (s.os id).isSome = true}.ncard = {o | ∃ id, s.objs o = some id ∧ id ≠ 0}.ncard

theorem countsMatch_of_owned {s : Handles UInt32} (owned : Owned s.estate) : CountsMatch s := by
  have owners : {o | (s.estate.holds o).isSome = true} =
      {o | ∃ id, s.objs o = some id ∧ id ≠ 0} := by
    ext o
    exact Option.isSome_iff_exists.trans (exists_congr fun id => Handles.ownedBy_eq_some)
  exact ⟨owned.finite, owned.ncard_eq.trans (congrArg Set.ncard owners)⟩

/-- A valid construction creates and owns its OS object, or creates none. -/
theorem step_sound_of_valid {s s' : Handles UInt32} {a : Action} (inv : Handles.SoundInv s)
    (meets : DocumentedAndValid s a) (taken : step s a = some s') : Handles.SoundInv s' := by
  obtain ⟨documented, valid⟩ := meets
  cases a with
  | construct o mask answers =>
      by_cases failed : (s.osNew answers.toOsAnswers 0).1 = 0
      · obtain ⟨error, ran⟩ := event_run_noObject mask failed
        simp only [step, construct, ran, Option.ite_none_right_eq_some, Option.some.injEq] at taken
        rw [← taken.2]
        exact inv
      · have unmarked := Or.resolve_right valid failed
        have completes := (event_run_completes failed unmarked documented).1
        have succeeds : Succeeds s (.construct o mask answers) := by
          rw [Succeeds, completes]
          rfl
        exact step_sound inv succeeds taken
  | moveConstruct o evt => exact step_sound (a := .moveConstruct o evt) inv trivial taken
  | moveAssign o evt => exact step_sound (a := .moveAssign o evt) inv trivial taken
  | swap o evt => exact step_sound (a := .swap o evt) inv trivial taken
  | destroy o answers => exact step_sound (a := .destroy o answers) inv documented taken

theorem construct_isSome {s : Handles UInt32} {o : ObjId} {mask : UInt32}
    {answers : EventAnswers} (absent : s.objs o = none) :
    (step s (.construct o mask answers)).isSome = true := by
  rw [step, construct, if_pos absent]
  generalize (event mask).run (objectKernel answers) s = called
  obtain ⟨outcome, after⟩ := called
  cases outcome with
  | ok id => rfl
  | error error => rfl

/-- A construction that is not valid leaves one OS object more, and no event. -/
theorem construct_leaks {s s' : Handles UInt32} {o : ObjId} {mask : UInt32}
    {answers : EventAnswers} (documented : SetDocumented mask answers)
    (notValid : ¬ ConstructsValid s (.construct o mask answers))
    (taken : step s (.construct o mask answers) = some s') :
    s' = (s.osNew answers.toOsAnswers 0).2 ∧ (s.osNew answers.toOsAnswers 0).1 ≠ 0 := by
  rw [ConstructsValid, not_or] at notValid
  have marked := Bool.eq_true_of_not_eq_false notValid.1
  obtain ⟨error, ran⟩ := event_run_leaks notValid.2 marked documented
  simp only [step, construct, ran, Option.ite_none_right_eq_some, Option.some.injEq] at taken
  exact ⟨taken.2.symm, notValid.2⟩

theorem not_countsMatch_osNew {s : Handles UInt32} {answers : EventAnswers}
    (counts : CountsMatch s) (created : (s.osNew answers.toOsAnswers 0).1 ≠ 0) :
    ¬ CountsMatch (s.osNew answers.toOsAnswers 0).2 := by
  intro after
  obtain ⟨fresh, os⟩ := osNew_created created
  have live : {id | ((s.osNew answers.toOsAnswers 0).2.os id).isSome = true} =
      insert (s.osNew answers.toOsAnswers 0).1 {id | (s.os id).isSome = true} := by
    ext id
    by_cases same : id = (s.osNew answers.toOsAnswers 0).1
    · rw [same]
      simp [os]
    · simp [os, same]
  have absent : (s.osNew answers.toOsAnswers 0).1 ∉ {id | (s.os id).isSome = true} := by
    simp [fresh]
  have equal := after.equal
  rw [live, Set.ncard_insert_of_notMem absent counts.finite, counts.equal, Handles.osNew_objs]
    at equal
  omega

theorem countsMatch_step_iff {s s' : Handles UInt32} {a : Action} (inv : Handles.SoundInv s)
    (documented : Documented s a) (taken : step s a = some s') :
    CountsMatch s' ↔ ConstructsValid s a := by
  constructor
  · intro after
    by_contra notValid
    cases a with
    | construct o mask answers =>
        obtain ⟨rfl, created⟩ := construct_leaks documented notValid taken
        exact not_countsMatch_osNew (countsMatch_of_owned inv.owned) created after
    | moveConstruct o evt => exact notValid trivial
    | moveAssign o evt => exact notValid trivial
    | swap o evt => exact notValid trivial
    | destroy o answers => exact notValid trivial
  · intro valid
    exact countsMatch_of_owned (step_sound_of_valid inv ⟨documented, valid⟩ taken).owned

/-- The counts match; a construction is all or nothing exactly when it is valid; and the
counts match after one more step exactly when that step is valid. -/
structure Accounted (s : Handles UInt32) : Prop where
  counts : CountsMatch s
  construction : ∀ mask answers, SetDocumented mask answers → (AllOrNothing s mask answers ↔
    mask.toNat.testBit 31 = false ∨ (s.osNew answers.toOsAnswers 0).1 = 0)
  next : ∀ a s', Documented s a → system.step s a = some s' →
    (CountsMatch s' ↔ ConstructsValid s a)

theorem events_accounted {acts : List Action} {s : Handles UInt32}
    (run : Run system DocumentedAndValid acts s) : Accounted s := by
  have inv : Handles.SoundInv s := by
    refine run.invariant Handles.SoundInv Handles.soundInv_initial ?_
    intro s a s' inv meets taken
    exact step_sound_of_valid inv meets taken
  constructor
  · exact countsMatch_of_owned inv.owned
  · intro mask answers documented
    exact allOrNothing_construct_iff documented
  · intro a s' documented taken
    exact countsMatch_step_iff inv documented taken

def constructedAndFailed : List Action :=
  [.construct 0 5 ⟨⟨1, .osOK⟩, none⟩, .construct 1 0 ⟨⟨2, .osOK⟩, none⟩,
    .construct 2 1 ⟨⟨0, .osOK⟩, none⟩, .moveConstruct 2 1, .destroy 0 ⟨⟨0, .osOK⟩, none⟩]

theorem constructedAndFailed_accounted :
    ∃ s, Run system DocumentedAndValid constructedAndFailed s ∧ Accounted s := by
  have run : Run system DocumentedAndValid _ _ := Run.replayed constructedAndFailed rfl
  exact ⟨_, run, events_accounted run⟩

/-- `event(0x80000000)` throws, and its OS object is never deleted. -/
theorem countsMatch_refusedMask :
    ¬ ∀ (acts : List Action) (s : Handles UInt32), Run system Documented acts s →
      CountsMatch s := by
  intro claimed
  have refused : Documented .initial (.construct 0 0x80000000 ⟨⟨1, .osOK⟩, some 0xFFFFFFFC⟩) :=
    iff_of_true rfl (by decide)
  have present : (step .initial (.construct 0 0x80000000 ⟨⟨1, .osOK⟩, some 0xFFFFFFFC⟩)).isSome =
      true := construct_isSome rfl
  obtain ⟨s', taken⟩ := Option.isSome_iff_exists.mp present
  have after := claimed _ s' (.step .initial refused taken)
  have valid := (countsMatch_step_iff Handles.soundInv_initial refused taken).mp after
  revert valid
  decide

end CmsisCpp.EventFlag
