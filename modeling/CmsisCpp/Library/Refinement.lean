import CmsisCpp.Library.ActionSystem

/-! # Refinement by forward simulation

A system refines an abstract one when each of its steps is matched by a list of
abstract steps, none at all included, that leads to a related state again.  Every
run then has an abstract run behind it, and an invariant of the abstract system
holds of what the states of the concrete one stand for. -/
set_option autoImplicit false

namespace ActionSystem

variable {State Action State' Action' : Type}

inductive Path (sys : ActionSystem State Action) : State → List Action → State → Prop
  | stay (s : State) : Path sys s [] s
  | step {s s' s'' : State} {a : Action} {acts : List Action} (taken : sys.step s a = some s')
      (rest : Path sys s' acts s'') : Path sys s (a :: acts) s''

theorem Path.one {sys : ActionSystem State Action} {s s' : State} {a : Action}
    (taken : sys.step s a = some s') : Path sys s [a] s' :=
  .step taken (.stay s')

theorem Run.append_path {sys : ActionSystem State Action} {more : List Action} {s s' : State}
    (path : Path sys s more s') :
    ∀ {acts : List Action}, Run sys Unrestricted acts s → Run sys Unrestricted (acts ++ more) s' := by
  induction path with
  | stay s =>
      intro acts run
      simpa using run
  | step taken rest ih =>
      intro acts run
      have extended := ih (run.step trivial taken)
      simpa using extended

/-- `Related s m` reads: `m` is what `s` stands for. -/
structure Refines (concrete : ActionSystem State Action) (allowed : State → Action → Prop)
    (abstract : ActionSystem State' Action') (Related : State → State' → Prop) : Prop where
  initial : Related concrete.initial abstract.initial
  step : ∀ s a s' m, Related s m → allowed s a → concrete.step s a = some s' →
    ∃ moves m', abstract.Path m moves m' ∧ Related s' m'

section Rules
variable {concrete : ActionSystem State Action} {allowed : State → Action → Prop}
  {abstract : ActionSystem State' Action'} {Related : State → State' → Prop}

theorem Refines.run (refines : Refines concrete allowed abstract Related) {acts : List Action}
    {s : State} (run : Run concrete allowed acts s) :
    ∃ moves m, Run abstract Unrestricted moves m ∧ Related s m := by
  induction run with
  | initial => exact ⟨[], abstract.initial, .initial, refines.initial⟩
  | step _ meets taken ih =>
      obtain ⟨moves, m, before, related⟩ := ih
      obtain ⟨more, m', path, related'⟩ := refines.step _ _ _ _ related meets taken
      exact ⟨moves ++ more, m', before.append_path path, related'⟩

/-- What every abstract step keeps holds of the abstract state behind every run. -/
theorem Refines.invariant (refines : Refines concrete allowed abstract Related)
    (Inv : State' → Prop) (base : Inv abstract.initial)
    (preserved : ∀ m a m', Inv m → abstract.step m a = some m' → Inv m') {acts : List Action}
    {s : State} (run : Run concrete allowed acts s) : ∃ m, Related s m ∧ Inv m := by
  obtain ⟨moves, m, abstractRun, related⟩ := refines.run run
  refine ⟨m, related, abstractRun.invariant Inv base ?_⟩
  intro m a m' inv _ taken
  exact preserved m a m' inv taken

end Rules

end ActionSystem
