import CmsisCpp.Library.History
import CmsisCpp.Memory.SmartPointers

/-! # The objects behind the smart pointers

Source: `memory_pool::make_unique`, `make_shared` and `memory_pool_delete` in
`include/Memory.h`.  The block is given to a smart pointer before the constructor of `T`
runs in it, and the deleter of that pointer runs the destructor of `T`.  The constructor
is any code, so other steps may come before it completes or throws; a `shared_ptr` first
allocates its control block, and calls the deleter when it gets none. -/
set_option autoImplicit false

namespace CmsisCpp.Memory

open ActionSystem

inductive Life
  | constructed
  | threw
  | destructed
  | freed
  deriving DecidableEq, Repr

inductive Stage
  | sharing
  | constructing
  | object
  deriving DecidableEq, Repr

structure Making where
  base : State
  stage : Nat → Stage
  log : List (Nat × Life)

inductive MakingAction
  | pool (a : Action)
  | controlBlock (p : SmartPointer) (obtained : Bool)
  | construct (p : SmartPointer) (completes : Bool)
  deriving DecidableEq, Repr

def Action.firstStage : Action → Stage
  | .makeShared _ _ => .sharing
  | _ => .constructing

/-- What `deallocate` comes to; the program ends when it throws. -/
def State.deallocated (base : State) : List Life :=
  if base.status = .running then [.freed] else []

namespace Making

def initial : Making where
  base := .initial
  stage _ := .constructing
  log := []

def record (s : Making) (n : Nat) (events : List Life) : Making :=
  { s with log := s.log ++ events.map fun event => (n, event) }

/-- `memory_pool_delete::operator()`: `destroy`, then `deallocate`. -/
def deleter (s : Making) (p : SmartPointer) : Option Making :=
  (s.base.step (.destroyPointer p)).map fun base =>
    { s with base := base }.record p.serial (.destructed :: base.deallocated)

/-- The steps of the pools; a smart pointer is there to be destroyed when the call that
makes it has returned it. -/
def poolStep (s : Making) (a : Action) : Option Making :=
  match a with
  | .destroyPointer p => if s.stage p.serial = .object then s.deleter p else none
  | a =>
      -- the number `made` is the one a new pointer gets, and of no pointer otherwise
      (s.base.step a).map fun base =>
        { s with base := base, stage := Function.update s.stage s.base.made a.firstStage }

def isAt (s : Making) (p : SmartPointer) (stage : Stage) : Prop :=
  s.base.status = .running ∧ p ∈ s.base.pointers ∧ s.stage p.serial = stage

instance (s : Making) (p : SmartPointer) (stage : Stage) : Decidable (s.isAt p stage) :=
  inferInstanceAs (Decidable (_ ∧ _ ∧ _))

def step (s : Making) : MakingAction → Option Making
  | .pool a => s.poolStep a
  | .controlBlock p obtained =>
      if s.isAt p .sharing then
        if obtained = true then
          some { s with stage := Function.update s.stage p.serial .constructing }
        else s.deleter p
      else none
  | .construct p completes =>
      if s.isAt p .constructing then
        if completes = true then
          some ({ s with stage := Function.update s.stage p.serial .object }.record p.serial
            [.constructed])
        else (s.record p.serial [.threw]).deleter p
      else none

def history (s : Making) (n : Nat) : List Life := History.of n s.log

def alive (s : Making) : List Nat := s.base.alive

end Making

def makes : ActionSystem Making MakingAction where
  initial := .initial
  step := Making.step

/-- The constructor of `T` completes, and a `shared_ptr` gets its control block. -/
def Completes (_ : Making) : MakingAction → Prop
  | .pool _ => True
  | .controlBlock _ obtained => obtained = true
  | .construct _ completes => completes = true

instance (s : Making) : (a : MakingAction) → Decidable (Completes s a)
  | .pool _ => .isTrue trivial
  | .controlBlock _ obtained => inferInstanceAs (Decidable (obtained = true))
  | .construct _ completes => inferInstanceAs (Decidable (completes = true))

/-- An object whose constructor threw is not destructed and its block goes back once; one
that was constructed is destructed once, and then its block goes back once.  There are
no more destructions than completed constructions. -/
structure ExceptionSafe (s : Making) : Prop where
  thrown : ∀ n, .threw ∈ s.history n →
    .destructed ∉ s.history n ∧ (s.base.status = .running → (s.history n).count .freed = 1)
  completed : ∀ n, .constructed ∈ s.history n → n ∉ s.alive →
    (s.history n).count .destructed = 1 ∧ (s.base.status = .running →
      (s.history n).count .freed = 1 ∧ [.destructed, .freed].Sublist (s.history n))
  each : ∀ n, (s.history n).count .destructed ≤ (s.history n).count .constructed
  total : (History.items .destructed s.log).length ≤ (History.items .constructed s.log).length

/-! ## What a step does to the objects -/

section Pools
variable {s s' : State} {a : Action} {p : SmartPointer}

theorem step_pointers (taken : s.step a = some s') (other : ∀ p, a ≠ .destroyPointer p) :
    (s'.pointers = s.pointers ∧ s'.made = s.made) ∨
      ∃ block o, s'.pointers = s.pointers ++ [⟨s.made, block, o⟩] ∧ s'.made = s.made + 1 := by
  cases step_taken taken with
  | allocated => exact .inr ⟨_, _, rfl, rfl⟩
  | returned act => exact absurd act (other _)
  | threw act => exact absurd act (other _)
  | dangling act => exact absurd act (other _)
  | _ => exact .inl ⟨rfl, rfl⟩

theorem step_destroyPointer (taken : s.step (.destroyPointer p) = some s') :
    s.status = .running ∧ p ∈ s.pointers ∧ s'.pointers = s.pointers.erase p ∧
      s'.made = s.made := by
  simp only [State.step, State.destroyPointer, Option.ite_none_right_eq_some] at taken
  obtain ⟨running, member, taken⟩ := taken
  refine ⟨running, member, ?_⟩
  split at taken
  · cases taken
    exact ⟨rfl, rfl⟩
  · split at taken
    · cases taken
      exact ⟨rfl, rfl⟩
    · cases taken
      exact ⟨rfl, rfl⟩

end Pools

namespace Making

inductive Changed (s s' : Making) : MakingAction → Prop
  | kept {a : MakingAction} (meets : Completes s a) (made : s'.base.made = s.base.made)
      (alive : s'.alive = s.alive) (log : s'.log = s.log)
      (stage : ∀ n < s.base.made, s'.stage n = .object ↔ s.stage n = .object) : Changed s s' a
  | begun {a : MakingAction} (meets : Completes s a) (made : s'.base.made = s.base.made + 1)
      (alive : s'.alive = s.alive ++ [s.base.made]) (log : s'.log = s.log)
      (raw : s'.stage s.base.made ≠ .object)
      (stage : ∀ n < s.base.made, s'.stage n = s.stage n) : Changed s s' a
  | constructed {p : SmartPointer} (member : p.serial ∈ s.alive)
      (raw : s.stage p.serial ≠ .object) (made : s'.base.made = s.base.made)
      (alive : s'.alive = s.alive) (log : s'.log = s.log ++ [(p.serial, .constructed)])
      (stage : s'.stage = Function.update s.stage p.serial .object) :
      Changed s s' (.construct p true)
  | deleted {a : MakingAction} {n : Nat} {before : List Life} (member : n ∈ s.alive)
      (meets : Completes s a ↔ s.stage n = .object)
      (object : s.stage n = .object → before = [])
      (raw : .constructed ∉ before)
      (made : s'.base.made = s.base.made) (alive : s.alive.Perm (n :: s'.alive))
      (log : s'.log = s.log ++ (before ++ .destructed :: s'.base.deallocated).map fun event =>
        (n, event))
      (stage : s'.stage = s.stage) : Changed s s' a

section Step
variable {s s' : Making} {a : MakingAction} {p : SmartPointer}

theorem firstStage_ne (a : Action) : a.firstStage ≠ .object := by
  cases a <;> simp [Action.firstStage]

theorem deleter_changed {before : List Life} (meets : Completes s a ↔ s.stage p.serial = .object)
    (object : s.stage p.serial = .object → before = []) (raw : .constructed ∉ before)
    (taken : (s.record p.serial before).deleter p = some s') : Changed s s' a := by
  obtain ⟨base, stepped, rfl⟩ := Option.map_eq_some_iff.mp taken
  obtain ⟨_, member, pointers, made⟩ := step_destroyPointer stepped
  have split := (List.perm_cons_erase member).map SmartPointer.serial
  rw [← pointers] at split
  refine .deleted (List.mem_map_of_mem member) meets object raw made split ?_ rfl
  simp [record]

theorem poolStep_changed {a : Action} (taken : s.poolStep a = some s')
    (other : ∀ p, a ≠ .destroyPointer p) : Changed s s' (.pool a) := by
  have plain : (s.base.step a).map (fun base => ({ s with
      base := base
      stage := Function.update s.stage s.base.made a.firstStage } : Making)) = some s' := by
    cases a with
    | destroyPointer p => exact absurd rfl (other p)
    | _ => exact taken
  obtain ⟨base, stepped, rfl⟩ := Option.map_eq_some_iff.mp plain
  have earlier : ∀ n < s.base.made,
      Function.update s.stage s.base.made a.firstStage n = s.stage n := by
    intro n known
    exact Function.update_of_ne (Nat.ne_of_lt known) ..
  rcases step_pointers stepped other with ⟨pointers, made⟩ | ⟨block, o, pointers, made⟩
  · refine .kept trivial made (congrArg (List.map _) pointers) rfl ?_
    intro n known
    exact iff_of_eq (congrArg (· = Stage.object) (earlier n known))
  · refine .begun trivial made ?_ rfl ?_ earlier
    · exact (congrArg (List.map _) pointers).trans (List.map_append ..)
    · simp [firstStage_ne]

theorem step_changed (taken : s.step a = some s') : Changed s s' a := by
  cases a with
  | pool a =>
      cases a with
      | destroyPointer p =>
          simp only [step, poolStep, Option.ite_none_right_eq_some] at taken
          obtain ⟨isObject, taken⟩ := taken
          have recorded : (s.record p.serial []).deleter p = some s' := by
            simpa [record] using taken
          exact deleter_changed (iff_of_true trivial isObject) (fun _ => rfl) List.not_mem_nil
            recorded
      | _ => exact poolStep_changed taken (fun _ same => by cases same)
  | controlBlock p obtained =>
      simp only [step, Option.ite_none_right_eq_some] at taken
      obtain ⟨⟨_, member, sharing⟩, taken⟩ := taken
      cases obtained with
      | true =>
          rw [if_pos rfl, Option.some.injEq] at taken
          subst taken
          refine .kept rfl rfl rfl rfl ?_
          intro n _
          by_cases same : n = p.serial
          · simp [same, sharing]
          · simp [Function.update_of_ne same]
      | false =>
          rw [if_neg Bool.false_ne_true] at taken
          have recorded : (s.record p.serial []).deleter p = some s' := by
            simpa [record] using taken
          refine deleter_changed ?_ (fun _ => rfl) List.not_mem_nil recorded
          simp [Completes, sharing]
  | construct p completes =>
      simp only [step, Option.ite_none_right_eq_some] at taken
      obtain ⟨⟨_, member, constructing⟩, taken⟩ := taken
      cases completes with
      | true =>
          rw [if_pos rfl, Option.some.injEq] at taken
          subst taken
          refine .constructed (List.mem_map_of_mem member) ?_ rfl rfl rfl rfl
          rw [constructing]
          decide
      | false =>
          rw [if_neg Bool.false_ne_true] at taken
          refine deleter_changed ?_ ?_ (by decide) taken
          · simp [Completes, constructing]
          · simp [constructing]

theorem step_running (taken : s.step a = some s') : s.base.status = .running := by
  have pools : ∀ {a : Action} {base : State}, s.base.step a = some base →
      s.base.status = .running := by
    intro a base stepped
    simp only [State.step, Option.ite_none_right_eq_some] at stepped
    exact stepped.1
  cases a with
  | pool a =>
      cases a with
      | destroyPointer p =>
          simp only [step, poolStep, Option.ite_none_right_eq_some] at taken
          obtain ⟨base, stepped, _⟩ := Option.map_eq_some_iff.mp taken.2
          exact pools stepped
      | _ =>
          obtain ⟨base, stepped, _⟩ := Option.map_eq_some_iff.mp taken
          exact pools stepped
  | controlBlock p obtained =>
      simp only [step, Option.ite_none_right_eq_some] at taken
      exact taken.1.1
  | construct p completes =>
      simp only [step, Option.ite_none_right_eq_some] at taken
      exact taken.1.1

end Step

/-! ## Runs -/

structure Accounted (s : Making) : Prop where
  known : ∀ n ∈ s.alive, n < s.base.made
  distinct : s.alive.Nodup
  unmade : ∀ n, s.base.made ≤ n → s.history n = []
  living : ∀ n ∈ s.alive, s.history n = if s.stage n = .object then [.constructed] else []
  gone : ∀ n < s.base.made, n ∉ s.alive → s.history n = [.constructed, .destructed, .freed] ∨
    (s.base.status ≠ .running ∧ s.history n = [.constructed, .destructed])

section Invariant
variable {s s' : Making} {a : MakingAction} {n : Nat} {events : List Life}

theorem history_self (log : s'.log = s.log ++ events.map fun event => (n, event)) :
    s'.history n = s.history n ++ events := by
  rw [history, log, History.of_append, History.of_map_self]
  rfl

theorem history_other {m : Nat} (log : s'.log = s.log ++ events.map fun event => (n, event))
    (different : n ≠ m) : s'.history m = s.history m := by
  rw [history, log, History.of_append, History.of_map_other different, List.append_nil]
  rfl

theorem history_same (log : s'.log = s.log) (n : Nat) : s'.history n = s.history n :=
  congrArg (History.of n) log

theorem Accounted.history_gone (inv : Accounted s) (running : s.base.status = .running)
    (known : n < s.base.made) (dead : n ∉ s.alive) :
    s.history n = [.constructed, .destructed, .freed] :=
  (inv.gone n known dead).resolve_right fun ended => ended.1 running

theorem Accounted.kept (inv : Accounted s) (running : s.base.status = .running)
    (made : s'.base.made = s.base.made) (alive : s'.alive = s.alive) (log : s'.log = s.log)
    (stage : ∀ n < s.base.made, s'.stage n = .object ↔ s.stage n = .object) : Accounted s' := by
  constructor
  · rw [alive, made]
    exact inv.known
  · rw [alive]
    exact inv.distinct
  · intro n beyond
    rw [history_same log]
    exact inv.unmade n (made ▸ beyond)
  · intro n member
    rw [alive] at member
    rw [history_same log, inv.living n member]
    exact (if_congr (stage n (inv.known n member)) rfl rfl).symm
  · intro n known dead
    rw [alive] at dead
    rw [history_same log]
    exact .inl (inv.history_gone running (made ▸ known) dead)

theorem Accounted.begun (inv : Accounted s) (running : s.base.status = .running)
    (made : s'.base.made = s.base.made + 1) (alive : s'.alive = s.alive ++ [s.base.made])
    (log : s'.log = s.log) (raw : s'.stage s.base.made ≠ .object)
    (stage : ∀ n < s.base.made, s'.stage n = s.stage n) : Accounted s' := by
  constructor
  · rw [alive, made]
    intro n member
    rcases List.mem_append.mp member with old | new
    · exact Nat.lt_succ_of_lt (inv.known n old)
    · rw [List.mem_singleton.mp new]
      exact Nat.lt_succ_self _
  · rw [alive, List.nodup_append]
    refine ⟨inv.distinct, List.nodup_singleton _, ?_⟩
    intro n old m new same
    have before := inv.known n old
    rw [List.mem_singleton] at new
    omega
  · intro n beyond
    rw [history_same log]
    apply inv.unmade
    omega
  · intro n member
    rw [alive] at member
    rw [history_same log]
    rcases List.mem_append.mp member with old | new
    · rw [inv.living n old, stage n (inv.known n old)]
    · rw [List.mem_singleton.mp new, if_neg raw]
      exact inv.unmade _ (Nat.le_refl _)
  · intro n known dead
    rw [alive, List.mem_append, List.mem_singleton, not_or] at dead
    rw [history_same log]
    apply Or.inl
    apply inv.history_gone running _ dead.1
    omega

theorem Accounted.constructed (inv : Accounted s) (running : s.base.status = .running)
    (member : n ∈ s.alive) (raw : s.stage n ≠ .object) (made : s'.base.made = s.base.made)
    (alive : s'.alive = s.alive) (log : s'.log = s.log ++ [(n, .constructed)])
    (stage : s'.stage = Function.update s.stage n .object) : Accounted s' := by
  have entry : s'.log = s.log ++ [Life.constructed].map fun event => (n, event) := log
  have others : ∀ m, m ≠ n → s'.history m = s.history m := by
    intro m different
    exact history_other entry (Ne.symm different)
  constructor
  · rw [alive, made]
    exact inv.known
  · rw [alive]
    exact inv.distinct
  · intro m beyond
    rw [made] at beyond
    have before := inv.known n member
    rw [others m (by omega)]
    exact inv.unmade m beyond
  · intro m member'
    rw [alive] at member'
    by_cases same : m = n
    · have new := history_self entry
      rw [same, new, inv.living n member, if_neg raw, stage, Function.update_self, if_pos rfl]
      rfl
    · rw [others m same, inv.living m member', stage, Function.update_of_ne same]
  · intro m known dead
    rw [alive] at dead
    have different : m ≠ n := by
      intro same
      exact dead (same ▸ member)
    rw [others m different]
    exact .inl (inv.history_gone running (made ▸ known) dead)

theorem Accounted.deleted (inv : Accounted s) (running : s.base.status = .running)
    (member : n ∈ s.alive) (object : s.stage n = .object)
    (made : s'.base.made = s.base.made) (alive : s.alive.Perm (n :: s'.alive))
    (log : s'.log = s.log ++ (.destructed :: s'.base.deallocated).map fun event => (n, event))
    (stage : s'.stage = s.stage) : Accounted s' := by
  have distinct := List.nodup_cons.mp (alive.nodup_iff.mp inv.distinct)
  have rest : ∀ m ∈ s'.alive, m ∈ s.alive ∧ m ≠ n := by
    intro m member'
    refine ⟨alive.mem_iff.mpr (List.mem_cons_of_mem n member'), ?_⟩
    intro same
    exact distinct.1 (same ▸ member')
  have others : ∀ m, m ≠ n → s'.history m = s.history m := by
    intro m different
    exact history_other log (Ne.symm different)
  constructor
  · intro m member'
    rw [made]
    exact inv.known m (rest m member').1
  · exact distinct.2
  · intro m beyond
    rw [made] at beyond
    have before := inv.known n member
    rw [others m (by omega)]
    exact inv.unmade m beyond
  · intro m member'
    obtain ⟨old, different⟩ := rest m member'
    rw [others m different, inv.living m old, stage]
  · intro m known dead
    by_cases same : m = n
    · rw [same, history_self log, inv.living n member, if_pos object, State.deallocated]
      by_cases goesOn : s'.base.status = .running
      · rw [if_pos goesOn]
        exact .inl rfl
      · rw [if_neg goesOn]
        exact .inr ⟨goesOn, rfl⟩
    · rw [others m same]
      apply Or.inl
      apply inv.history_gone running (made ▸ known)
      intro old
      rcases List.mem_cons.mp (alive.mem_iff.mp old) with isDeleted | living
      · exact same isDeleted
      · exact dead living

theorem Accounted.step (inv : Accounted s) (meets : Completes s a) (taken : s.step a = some s') :
    Accounted s' := by
  have running := step_running taken
  cases step_changed taken with
  | kept _ made alive log stage => exact inv.kept running made alive log stage
  | begun _ made alive log raw stage => exact inv.begun running made alive log raw stage
  | constructed member raw made alive log stage =>
      exact inv.constructed running member raw made alive log stage
  | deleted member completes object _ made alive log stage =>
      have isObject := completes.mp meets
      rw [object isObject] at log
      exact inv.deleted running member isObject made alive log stage

theorem accounted_initial : Accounted initial := by
  constructor
  · intro n member
    cases member
  · exact List.nodup_nil
  · intro n _
    rfl
  · intro n member
    cases member
  · intro n known
    cases known

/-- Three histories are left, and a destructed object was constructed in each. -/
theorem Accounted.exceptionSafe (inv : Accounted s) : ExceptionSafe s := by
  have histories : ∀ n, s.history n = [] ∨ (n ∈ s.alive ∧ s.history n = [.constructed]) ∨
      s.history n = [.constructed, .destructed, .freed] ∨
      (s.base.status ≠ .running ∧ s.history n = [.constructed, .destructed]) := by
    intro n
    by_cases beyond : s.base.made ≤ n
    · exact .inl (inv.unmade n beyond)
    · by_cases living : n ∈ s.alive
      · rw [inv.living n living]
        by_cases object : s.stage n = .object
        · exact .inr (.inl ⟨living, if_pos object⟩)
        · exact .inl (if_neg object)
      · exact .inr (.inr (inv.gone n (by omega) living))
  have each : ∀ n, (s.history n).count .destructed ≤ (s.history n).count .constructed := by
    intro n
    rcases histories n with h | ⟨_, h⟩ | h | ⟨_, h⟩ <;> rw [h] <;> decide
  refine ⟨?_, ?_, each, History.length_items_le each⟩
  · intro n threw
    rcases histories n with h | ⟨_, h⟩ | h | ⟨_, h⟩ <;> rw [h] at threw <;> simp at threw
  · intro n constructed dead
    rcases histories n with h | ⟨living, _⟩ | h | ⟨ended, h⟩
    · rw [h] at constructed
      cases constructed
    · exact absurd living dead
    · rw [h]
      exact ⟨rfl, fun _ => ⟨rfl, List.sublist_cons_self ..⟩⟩
    · rw [h]
      exact ⟨rfl, fun running => absurd running ended⟩

/-- A step that does not complete destructs an object that was never constructed. -/
theorem Accounted.not_exceptionSafe (inv : Accounted s) (fails : ¬ Completes s a)
    (taken : s.step a = some s') : ¬ ExceptionSafe s' := by
  intro safe
  cases step_changed taken with
  | kept meets => exact fails meets
  | begun meets => exact fails meets
  | constructed => exact fails rfl
  | @deleted _ n before member completes _ raw _ _ log _ =>
      have notObject : s.stage n ≠ .object := fun object => fails (completes.mpr object)
      have after := history_self log
      rw [inv.living n member, if_neg notObject, List.nil_append] at after
      have bounded := safe.each n
      have ending : (s'.base.deallocated).count .constructed = 0 := by
        rw [State.deallocated]
        split <;> rfl
      rw [after, List.count_append, List.count_append, List.count_eq_zero_of_not_mem raw,
        List.count_cons_self, List.count_cons_of_ne (by decide), ending] at bounded
      omega

end Invariant

end Making

/-- In every run in which the constructors complete; a step that takes it further keeps
it exception safe exactly when no constructor fails in it. -/
theorem makes_exceptionSafe {acts : List MakingAction} {s : Making}
    (run : Run makes Completes acts s) :
    ExceptionSafe s ∧
      ∀ a s', makes.step s a = some s' → (ExceptionSafe s' ↔ Completes s a) := by
  have inv : s.Accounted := by
    refine run.invariant Making.Accounted Making.accounted_initial ?_
    intro s a s' inv meets taken
    exact inv.step meets taken
  refine ⟨inv.exceptionSafe, ?_⟩
  intro a s' taken
  constructor
  · intro safe
    by_contra fails
    exact inv.not_exceptionSafe fails taken safe
  · intro meets
    exact (inv.step meets taken).exceptionSafe

/-- A `unique_ptr` and a `shared_ptr`; the second is destroyed while the first lives. -/
def madeAndDestroyed : List MakingAction :=
  [.pool (.construct 0 4 8 ⟨⟨1, .osOK⟩, 0⟩), .pool (.makeUnique 0 ⟨⟨0, .osOK⟩, 0⟩),
    .pool (.makeShared 0 ⟨⟨0, .osOK⟩, 1⟩), .construct ⟨0, ⟨1, 0⟩, 0⟩ true,
    .controlBlock ⟨1, ⟨1, 1⟩, 0⟩ true, .construct ⟨1, ⟨1, 1⟩, 0⟩ true,
    .pool (.destroyPointer ⟨1, ⟨1, 1⟩, 0⟩)]

theorem madeAndDestroyed_exceptionSafe :
    ∃ s, Run makes Completes madeAndDestroyed s ∧ ExceptionSafe s ∧
      ∀ a s', makes.step s a = some s' → (ExceptionSafe s' ↔ Completes s a) := by
  have run : Run makes Completes _ _ := Run.replayed madeAndDestroyed rfl
  exact ⟨_, run, makes_exceptionSafe run⟩

def constructorThrows : List MakingAction :=
  [.pool (.construct 0 4 8 ⟨⟨1, .osOK⟩, 0⟩), .pool (.makeUnique 0 ⟨⟨0, .osOK⟩, 0⟩),
    .construct ⟨0, ⟨1, 0⟩, 0⟩ false]

theorem makes_constructorThrows :
    ¬ ∀ (acts : List MakingAction) (s : Making), Run makes Unrestricted acts s →
      ExceptionSafe s := by
  intro claimed
  have run : Run makes Unrestricted _ _ := Run.replayed constructorThrows rfl
  have bounded := (claimed _ _ run).total
  revert bounded
  decide

end CmsisCpp.Memory
