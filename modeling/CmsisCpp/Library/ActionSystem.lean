/-! # Runs of a labelled transition system

A system has an initial state and a partial step function: `step s a = none` says
that action `a` is not enabled in `s`.  `Run allowed` are the runs from the
initial state in which every step also meets `allowed`, a condition on the state
before the step and the action taken.  Safety of a run is proved with
`Run.invariant`; a concrete run is built by `replay`. -/
set_option autoImplicit false

structure ActionSystem (State Action : Type) where
  initial : State
  step : State → Action → Option State

namespace ActionSystem

variable {State Action : Type}

def Unrestricted (_ : State) (_ : Action) : Prop := True

instance (s : State) (a : Action) : Decidable (Unrestricted s a) := .isTrue trivial

inductive Run (sys : ActionSystem State Action) (allowed : State → Action → Prop) :
    List Action → State → Prop
  | initial : Run sys allowed [] sys.initial
  | step {acts : List Action} {s s' : State} {a : Action} (before : Run sys allowed acts s)
      (meets : allowed s a) (taken : sys.step s a = some s') : Run sys allowed (acts ++ [a]) s'

section Rules
variable {sys : ActionSystem State Action} {allowed : State → Action → Prop}

/-- What holds initially and is kept by every allowed step holds after every run. -/
theorem Run.invariant (Inv : State → Prop) (base : Inv sys.initial)
    (preserved : ∀ s a s', Inv s → allowed s a → sys.step s a = some s' → Inv s') :
    ∀ {acts : List Action} {s : State}, Run sys allowed acts s → Inv s := by
  intro acts s run
  induction run with
  | initial => exact base
  | step _ meets taken ih => exact preserved _ _ _ ih meets taken

/-- An invariant proved earlier may be used in the step of a later one. -/
theorem Run.invariant_under (Known Inv : State → Prop)
    (known : ∀ {acts : List Action} {s : State}, Run sys allowed acts s → Known s)
    (base : Inv sys.initial)
    (preserved : ∀ s a s', Known s → Inv s → allowed s a → sys.step s a = some s' → Inv s') :
    ∀ {acts : List Action} {s : State}, Run sys allowed acts s → Inv s := by
  intro acts s run
  induction run with
  | initial => exact base
  | step before meets taken ih => exact preserved _ _ _ (known before) ih meets taken

theorem Run.mono {weaker : State → Action → Prop} (weakened : ∀ s a, allowed s a → weaker s a)
    {acts : List Action} {s : State} (run : Run sys allowed acts s) : Run sys weaker acts s := by
  induction run with
  | initial => exact .initial
  | step _ meets taken ih => exact ih.step (weakened _ _ meets) taken

/-- The states reached from `s` through states that are all `inside`. -/
inductive Within (sys : ActionSystem State Action) (inside : State → Prop) (s : State) :
    State → Prop
  | here (enters : inside s) : Within sys inside s s
  | step {s' s'' : State} {a : Action} (before : Within sys inside s s')
      (taken : sys.step s' a = some s'') (stays : inside s'') : Within sys inside s s''

theorem Within.inside {inside : State → Prop} {s s' : State} (within : Within sys inside s s') :
    inside s' := by
  cases within with
  | here enters => exact enters
  | step _ _ stays => exact stays

/-- What one step between two inside states keeps is kept all the way. -/
theorem Within.invariant {inside : State → Prop} {s s' : State} (within : Within sys inside s s')
    (Inv : State → Prop) (base : Inv s)
    (preserved : ∀ s a s', Inv s → inside s → inside s' → sys.step s a = some s' → Inv s') :
    Inv s' := by
  induction within with
  | here _ => exact base
  | step before taken stays ih => exact preserved _ _ _ ih before.inside stays taken

end Rules

/-! ## Observed runs -/

section Observed
variable {Obs : Type}

/-- The system with a record of what its steps emit. -/
def observed (sys : ActionSystem State Action) (emits : State → Action → List Obs) :
    ActionSystem (State × List Obs) Action where
  initial := (sys.initial, [])
  step s a := (sys.step s.1 a).map fun s' => (s', s.2 ++ emits s.1 a)

/-- What every step keeps of a state and the record holds after an observed run. -/
theorem Run.observed_invariant {sys : ActionSystem State Action}
    {emits : State → Action → List Obs} {allowed : State × List Obs → Action → Prop}
    (Inv : State → List Obs → Prop) (base : Inv sys.initial [])
    (preserved : ∀ s record a s', Inv s record → sys.step s a = some s' →
      Inv s' (record ++ emits s a))
    {acts : List Action} {s : State × List Obs}
    (run : Run (sys.observed emits) allowed acts s) : Inv s.1 s.2 := by
  refine run.invariant (fun s => Inv s.1 s.2) base ?_
  intro s a s' inv _ taken
  obtain ⟨after, stepped, rfl⟩ := Option.map_eq_some_iff.mp taken
  exact preserved s.1 s.2 a after inv stepped

end Observed

/-! ## Two systems side by side -/

section Parallel
variable {State₁ State₂ Action₁ Action₂ : Type}

/-- Two systems that take their steps in any order. -/
def par (first : ActionSystem State₁ Action₁) (second : ActionSystem State₂ Action₂) :
    ActionSystem (State₁ × State₂) (Action₁ ⊕ Action₂) where
  initial := (first.initial, second.initial)
  step s
    | .inl a => (first.step s.1 a).map fun s₁ => (s₁, s.2)
    | .inr a => (second.step s.2 a).map fun s₂ => (s.1, s₂)

def ParAllowed (allowed₁ : State₁ → Action₁ → Prop) (allowed₂ : State₂ → Action₂ → Prop)
    (s : State₁ × State₂) : Action₁ ⊕ Action₂ → Prop
  | .inl a => allowed₁ s.1 a
  | .inr a => allowed₂ s.2 a

instance (allowed₁ : State₁ → Action₁ → Prop) (allowed₂ : State₂ → Action₂ → Prop)
    [∀ s a, Decidable (allowed₁ s a)] [∀ s a, Decidable (allowed₂ s a)] (s : State₁ × State₂) :
    (a : Action₁ ⊕ Action₂) → Decidable (ParAllowed allowed₁ allowed₂ s a)
  | .inl a => inferInstanceAs (Decidable (allowed₁ s.1 a))
  | .inr a => inferInstanceAs (Decidable (allowed₂ s.2 a))

theorem Run.components {first : ActionSystem State₁ Action₁}
    {second : ActionSystem State₂ Action₂} {allowed₁ : State₁ → Action₁ → Prop}
    {allowed₂ : State₂ → Action₂ → Prop} {acts : List (Action₁ ⊕ Action₂)}
    {s : State₁ × State₂}
    (run : Run (first.par second) (ParAllowed allowed₁ allowed₂) acts s) :
    (∃ acts₁, Run first allowed₁ acts₁ s.1) ∧ ∃ acts₂, Run second allowed₂ acts₂ s.2 := by
  induction run with
  | initial => exact ⟨⟨[], .initial⟩, ⟨[], .initial⟩⟩
  | @step acts s s' a before meets taken ih =>
      obtain ⟨⟨acts₁, run₁⟩, ⟨acts₂, run₂⟩⟩ := ih
      cases a with
      | inl a =>
          obtain ⟨s₁, taken₁, rfl⟩ := Option.map_eq_some_iff.mp taken
          exact ⟨⟨_, run₁.step meets taken₁⟩, ⟨acts₂, run₂⟩⟩
      | inr a =>
          obtain ⟨s₂, taken₂, rfl⟩ := Option.map_eq_some_iff.mp taken
          exact ⟨⟨acts₁, run₁⟩, ⟨_, run₂.step meets taken₂⟩⟩

end Parallel

section Replay
variable (sys : ActionSystem State Action) (allowed : State → Action → Prop)
  [∀ s a, Decidable (allowed s a)]

/-- Takes the listed actions in order; `none` when one is not enabled or not allowed. -/
def replay : List Action → State → Option State
  | [], s => some s
  | a :: rest, s =>
      if allowed s a then
        match sys.step s a with
        | some s' => replay rest s'
        | none => none
      else none

variable {sys allowed}

theorem Run.append_replay : ∀ {rest acts : List Action} {s s' : State},
    Run sys allowed acts s → sys.replay allowed rest s = some s' →
      Run sys allowed (acts ++ rest) s' := by
  intro rest
  induction rest with
  | nil =>
      intro acts s s' run replayed
      simp only [replay, Option.some.injEq] at replayed
      subst replayed
      simpa using run
  | cons a rest ih =>
      intro acts s s' run replayed
      simp only [replay] at replayed
      split at replayed
      · rename_i meets
        cases taken : sys.step s a with
        | none => simp [taken] at replayed
        | some middle =>
            simp only [taken] at replayed
            have extended := ih (run.step meets taken) replayed
            simpa using extended
      · contradiction

theorem Run.of_replay {acts : List Action} {s : State}
    (replayed : sys.replay allowed acts sys.initial = some s) : Run sys allowed acts s := by
  simpa using Run.initial.append_replay replayed

/-- The state a successful replay ends in, reached by the replayed run. -/
theorem Run.replayed (acts : List Action)
    (succeeds : (sys.replay allowed acts sys.initial).isSome) :
    Run sys allowed acts ((sys.replay allowed acts sys.initial).get succeeds) :=
  Run.of_replay (Option.some_get succeeds).symm

end Replay

end ActionSystem
