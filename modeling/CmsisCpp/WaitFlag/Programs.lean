import CmsisCpp.EventFlag
import CmsisCpp.ThreadFlag
import Mathlib.Data.Nat.Bitwise

/-! # Building a `wait_flag`

A program that builds `wait_flag` variables is a sequence of assignments with
`=`, `|=` and `&=`.  Its `meaning` is the usual one; its `exec` calls the operators
of `include/WaitFlag.h`, whose compound forms change a copy of the variable. -/
set_option autoImplicit false

namespace CmsisCpp.WaitFlag

open CallScript

/-! ## The two flags -/

/-- `(flg & part) == part`. -/
def includes (flg part : WaitFlag) : Prop := flg.and part = part

instance (flg part : WaitFlag) : Decidable (flg.includes part) :=
  inferInstanceAs (Decidable (flg.and part = part))

theorem includes_iff_testBit (flg : WaitFlag) {part : WaitFlag} {i : Nat}
    (single : part.bits.toNat = 2 ^ i) : flg.includes part ↔ flg.bits.toNat.testBit i = true := by
  have onBits : flg.includes part ↔ (flg.bits &&& part.bits).toNat = part.bits.toNat := by
    rw [includes, and]
    constructor
    · intro same
      exact congrArg (fun flg => flg.bits.toNat) same
    · intro same
      rw [UInt32.toNat_inj.mp same]
  rw [onBits, UInt32.toNat_and, single, Nat.and_two_pow]
  cases flg.bits.toNat.testBit i with
  | false =>
      have positive : 0 < 2 ^ i := Nat.two_pow_pos i
      simp only [Bool.toNat_false, zero_mul, Bool.false_eq_true, iff_false]
      omega
  | true => simp

theorem includes_all (flg : WaitFlag) : flg.includes all ↔ flg.bits.toNat.testBit 0 = true :=
  includes_iff_testBit flg rfl

theorem includes_noClear (flg : WaitFlag) :
    flg.includes noClear ↔ flg.bits.toNat.testBit 1 = true :=
  includes_iff_testBit flg rfl

def SameFlags (left right : WaitFlag) : Prop :=
  (left.includes all ↔ right.includes all) ∧ (left.includes noClear ↔ right.includes noClear)

instance (left right : WaitFlag) : Decidable (SameFlags left right) :=
  inferInstanceAs (Decidable (_ ∧ _))

theorem sameFlags_iff (left right : WaitFlag) :
    SameFlags left right ↔
      left.bits.toNat.testBit 0 = right.bits.toNat.testBit 0 ∧
        left.bits.toNat.testBit 1 = right.bits.toNat.testBit 1 := by
  rw [SameFlags, includes_all, includes_all, includes_noClear, includes_noClear,
    Bool.coe_iff_coe, Bool.coe_iff_coe]

theorem SameFlags.refl (flg : WaitFlag) : SameFlags flg flg := ⟨Iff.rfl, Iff.rfl⟩

theorem SameFlags.symm {left right : WaitFlag} (same : SameFlags left right) :
    SameFlags right left := ⟨same.1.symm, same.2.symm⟩

theorem SameFlags.trans {left middle right : WaitFlag} (first : SameFlags left middle)
    (second : SameFlags middle right) : SameFlags left right :=
  ⟨first.1.trans second.1, first.2.trans second.2⟩

section Congruence
variable {left left' right right' : WaitFlag}

theorem SameFlags.or (onLeft : SameFlags left left') (onRight : SameFlags right right') :
    SameFlags (left.or right) (left'.or right') := by
  rw [sameFlags_iff] at onLeft onRight ⊢
  simp only [WaitFlag.or, UInt32.toNat_or, Nat.testBit_or, onLeft, onRight, and_self]

theorem SameFlags.and (onLeft : SameFlags left left') (onRight : SameFlags right right') :
    SameFlags (left.and right) (left'.and right') := by
  rw [sameFlags_iff] at onLeft onRight ⊢
  simp only [WaitFlag.and, UInt32.toNat_and, Nat.testBit_and, onLeft, onRight, and_self]

end Congruence

/-! ## Programs -/

section Programs
variable {Var : Type}

abbrev Store (Var : Type) := Var → WaitFlag

inductive FlagExpr (Var : Type)
  | any
  | all
  | noClear
  | var (x : Var)
  | or (left right : FlagExpr Var)
  | and (left right : FlagExpr Var)
  deriving DecidableEq, Repr

def FlagExpr.eval (store : Store Var) : FlagExpr Var → WaitFlag
  | .any => WaitFlag.any
  | .all => WaitFlag.all
  | .noClear => WaitFlag.noClear
  | .var x => store x
  | .or left right => (left.eval store).or (right.eval store)
  | .and left right => (left.eval store).and (right.eval store)

def Agree (store store' : Store Var) : Prop := ∀ x, SameFlags (store x) (store' x)

theorem FlagExpr.eval_agree {store store' : Store Var} (agree : Agree store store')
    (e : FlagExpr Var) : SameFlags (e.eval store) (e.eval store') := by
  induction e with
  | any => exact .refl _
  | all => exact .refl _
  | noClear => exact .refl _
  | var x => exact agree x
  | or left right onLeft onRight => exact onLeft.or onRight
  | and left right onLeft onRight => exact onLeft.and onRight

variable [DecidableEq Var]

inductive Assignment (Var : Type)
  | set (x : Var) (e : FlagExpr Var)
  | orSet (x : Var) (e : FlagExpr Var)
  | andSet (x : Var) (e : FlagExpr Var)
  deriving DecidableEq, Repr

namespace Assignment

def meaning (store : Store Var) : Assignment Var → Store Var
  | .set x e => Function.update store x (e.eval store)
  | .orSet x e => Function.update store x ((store x).or (e.eval store))
  | .andSet x e => Function.update store x ((store x).and (e.eval store))

/-- What an operator call leaves: its result is discarded, and its operands were
passed by value. -/
def discard (_result : WaitFlag) (store : Store Var) : Store Var := store

/-- The assignment as the operators of the library carry it out. -/
def exec (store : Store Var) : Assignment Var → Store Var
  | .set x e => Function.update store x (e.eval store)
  | .orSet x e => discard ((store x).orAssign (e.eval store)) store
  | .andSet x e => discard ((store x).andAssign (e.eval store)) store

/-- A compound assignment that has no flag to change. -/
def Quiet (store : Store Var) : Assignment Var → Prop
  | .set _ _ => True
  | .orSet x e => SameFlags ((store x).or (e.eval store)) (store x)
  | .andSet x e => SameFlags ((store x).and (e.eval store)) (store x)

end Assignment

def intended (store : Store Var) (program : List (Assignment Var)) : Store Var :=
  program.foldl Assignment.meaning store

def built (store : Store Var) (program : List (Assignment Var)) : Store Var :=
  program.foldl Assignment.exec store

def EachQuiet : Store Var → List (Assignment Var) → Prop
  | _, [] => True
  | store, assignment :: rest =>
      assignment.Quiet store ∧ EachQuiet (assignment.exec store) rest

/-- Updating one side keeps the agreement exactly when the new value has the flags
of the other side. -/
theorem agree_update_iff {store store' : Store Var} (agree : Agree store store') (x : Var)
    (value : WaitFlag) :
    Agree store (Function.update store' x value) ↔ SameFlags (store x) value := by
  constructor
  · intro after
    have atX := after x
    rwa [Function.update_self] at atX
  · intro same y
    by_cases here : y = x
    · subst here
      rwa [Function.update_self]
    · rw [Function.update_of_ne here]
      exact agree y

theorem Assignment.exec_agree_iff {store store' : Store Var} (agree : Agree store store')
    (assignment : Assignment Var) :
    Agree (assignment.exec store) (assignment.meaning store') ↔ assignment.Quiet store := by
  cases assignment with
  | set x e =>
      have value := e.eval_agree agree
      refine iff_of_true ?_ trivial
      intro y
      rw [exec, meaning]
      by_cases here : y = x
      · subst here
        rwa [Function.update_self, Function.update_self]
      · rw [Function.update_of_ne here, Function.update_of_ne here]
        exact agree y
  | orSet x e =>
      have value : SameFlags ((store x).or (e.eval store)) ((store' x).or (e.eval store')) :=
        (agree x).or (e.eval_agree agree)
      rw [exec, discard, meaning, agree_update_iff agree]
      exact ⟨fun same => value.trans same.symm, fun quiet => quiet.symm.trans value⟩
  | andSet x e =>
      have value : SameFlags ((store x).and (e.eval store)) ((store' x).and (e.eval store')) :=
        (agree x).and (e.eval_agree agree)
      rw [exec, discard, meaning, agree_update_iff agree]
      exact ⟨fun same => value.trans same.symm, fun quiet => quiet.symm.trans value⟩

/-- The two readings agree all along a program exactly when it is quiet. -/
theorem agree_prefixes_iff : ∀ (program : List (Assignment Var)) {store store' : Store Var},
    Agree store store' →
      ((∀ part, part <+: program → Agree (built store part) (intended store' part)) ↔
        EachQuiet store program) := by
  intro program
  induction program with
  | nil =>
      intro store store' agree
      refine iff_of_true ?_ trivial
      intro part isPrefix
      rw [List.prefix_nil.mp isPrefix]
      exact agree
  | cons assignment rest ih =>
      intro store store' agree
      have step := assignment.exec_agree_iff agree
      constructor
      · intro all
        have first := all [assignment] ⟨rest, rfl⟩
        refine ⟨step.mp first, (ih first).mp ?_⟩
        intro part isPrefix
        exact all (assignment :: part) (List.cons_prefix_cons.mpr ⟨rfl, isPrefix⟩)
      · intro quiet part isPrefix
        have first := step.mpr quiet.1
        cases part with
        | nil => exact agree
        | cons head part =>
            obtain ⟨rfl, onRest⟩ := List.cons_prefix_cons.mp isPrefix
            exact (ih first).mpr quiet.2 part onRest

end Programs

/-! ## The options passed to the OS -/

def OptionFor (flg : WaitFlag) (option : UInt32) : Prop :=
  (option &&& osFlagsWaitAll ≠ 0 ↔ flg.includes all) ∧
    (option &&& osFlagsNoClear ≠ 0 ↔ flg.includes noClear)

theorem waitOption_optionFor (flg : WaitFlag) : OptionFor flg (waitOption flg) := by
  by_cases isAll : flg.includes all <;> by_cases isNoClear : flg.includes noClear
  all_goals
    have isAll' := isAll
    have isNoClear' := isNoClear
    rw [includes] at isAll' isNoClear'
    rw [OptionFor, waitOption]
    simp only [isAll, isNoClear, isAll', isNoClear', if_true, if_false]
    decide

theorem optionFor_waitOption_iff (flg passed : WaitFlag) :
    OptionFor flg (waitOption passed) ↔ SameFlags passed flg := by
  have own := waitOption_optionFor passed
  rw [OptionFor] at own ⊢
  rw [own.1, own.2, SameFlags]

/-- `event::wait` and `this_thread::flags::wait`, handed `passed`, make one call to
the OS, with the options for `flg`. -/
structure WaitsWith (flg passed : WaitFlag) : Prop where
  event : ∀ (id : Handle) (mask : UInt32) (reply : (call : _) → EventFlag.eventSig.Reply call),
    ∃ option, (EventFlag.wait id mask passed).trace reply =
        [.osEventFlagsWait id mask option osWaitForever] ∧ OptionFor flg option
  thread : ∀ (mask : UInt32) (reply : (call : _) → ThreadFlag.threadFlagSig.Reply call),
    ∃ option, (ThreadFlag.wait mask passed).trace reply =
        [.osThreadFlagsWait mask option osWaitForever] ∧ OptionFor flg option

theorem waitsWith_iff (flg passed : WaitFlag) : WaitsWith flg passed ↔ SameFlags passed flg := by
  rw [← optionFor_waitOption_iff]
  constructor
  · intro waits
    obtain ⟨option, traced, asks⟩ := waits.thread 0 fun | .osThreadFlagsWait _ _ _ => (0 : UInt32)
    rw [ThreadFlag.wait, Script.trace_ask] at traced
    injection (List.cons.inj traced).1 with _ same
    rwa [same]
  · intro asks
    constructor
    · intro id mask reply
      refine ⟨waitOption passed, ?_, asks⟩
      rw [EventFlag.wait, Script.trace_ask, readFlags_trace]
    · intro mask reply
      refine ⟨waitOption passed, ?_, asks⟩
      rw [ThreadFlag.wait, Script.trace_ask, readFlags_trace]

section Claim
variable {Var : Type} [DecidableEq Var]

/-- All along a program, the OS is asked for what the variables should include
exactly when no compound assignment has a flag to change. -/
theorem waitsWith_built_iff (store : Store Var) (program : List (Assignment Var)) :
    (∀ part, part <+: program → ∀ x, WaitsWith (intended store part x) (built store part x)) ↔
      EachQuiet store program := by
  rw [← agree_prefixes_iff program fun x => SameFlags.refl (store x)]
  constructor
  · intro waits part isPrefix x
    exact (waitsWith_iff _ _).mp (waits part isPrefix x)
  · intro agree part isPrefix x
    exact (waitsWith_iff _ _).mpr (agree part isPrefix x)

end Claim

theorem waitsWith_orSet_noClear :
    ¬ ∀ (store : Store Unit) (program : List (Assignment Unit)) (x : Unit),
      WaitsWith (intended store program x) (built store program x) := by
  intro claimed
  have waits := claimed (fun _ => any) [.set () .any, .orSet () .noClear] ()
  have same := (waitsWith_iff _ _).mp waits
  exact absurd same (by decide)

end CmsisCpp.WaitFlag
