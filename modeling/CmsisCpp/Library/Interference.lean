import Mathlib.Logic.Relation
import CmsisCpp.Library.ActionSystem
import CmsisCpp.Library.CallScript

/-! # A script that others interfere with

One script runs in a setting: its calls are answered as the state of the setting
allows, and between its calls others change this state.  `Ensures` is the condition
on the state under which the script, however it is answered and interfered with,
returns only with a postcondition; interference is met by conditions that it keeps,
calls are taken one at a time, and a composition is taken part by part. -/
set_option autoImplicit false

namespace Interference

open CallScript ActionSystem

section Definitions
variable (sig : Signature) (Shared Env Err Val : Type)

structure Setting where
  answer : Shared → (call : sig.Call) → sig.Reply call → Option Shared
  perturb : Shared → Env → Option Shared

structure Config where
  shared : Shared
  script : Script sig Err Val

/-- The next call gets its reply from a table, or others take a step. -/
inductive Action
  | reply (reply : (call : sig.Call) → sig.Reply call)
  | perturb (change : Env)

end Definitions

variable {sig : Signature} {Shared Env Err Val Val' : Type}

def Config.step (setting : Setting sig Shared Env) (c : Config sig Shared Err Val) :
    Action sig Env → Option (Config sig Shared Err Val)
  | .reply reply =>
      match c.script with
      | .ask call next =>
          (setting.answer c.shared call (reply call)).map fun shared => ⟨shared, next (reply call)⟩
      | _ => none
  | .perturb change =>
      (setting.perturb c.shared change).map fun shared => { c with shared := shared }

def system (setting : Setting sig Shared Env) (shared : Shared) (script : Script sig Err Val) :
    ActionSystem (Config sig Shared Err Val) (Action sig Env) where
  initial := ⟨shared, script⟩
  step := Config.step setting

variable (setting : Setting sig Shared Env)

def Perturbed : Shared → Shared → Prop :=
  Relation.ReflTransGen fun s s' => ∃ change, setting.perturb s change = some s'

def Ensures (post : Val → Shared → Prop) : Script sig Err Val → Shared → Prop
  | .done value, s => ∀ s', Perturbed setting s s' → post value s'
  | .throw _, _ => True
  | .ask call next, s => ∀ s', Perturbed setting s s' → ∀ reply s'',
      setting.answer s' call reply = some s'' → Ensures post (next reply) s''

/-- What others keep. -/
def Stable (inv : Shared → Prop) : Prop :=
  ∀ s change s', inv s → setting.perturb s change = some s' → inv s'

section Rules
variable {setting} {inv : Shared → Prop} {post : Val → Shared → Prop} {s s' : Shared}

theorem Stable.perturbed (stable : Stable setting inv) (holds : inv s)
    (perturbed : Perturbed setting s s') : inv s' := by
  induction perturbed with
  | refl => exact holds
  | tail _ last ih =>
      obtain ⟨change, changed⟩ := last
      exact stable _ change _ ih changed

theorem Ensures.perturbed {script : Script sig Err Val} (ensures : Ensures setting post script s)
    (perturbed : Perturbed setting s s') : Ensures setting post script s' := by
  cases script with
  | done value =>
      intro s'' later
      exact ensures s'' (perturbed.trans later)
  | throw error => trivial
  | ask call next =>
      intro s'' later
      exact ensures s'' (perturbed.trans later)

theorem ensures_done {value : Val} (stable : Stable setting inv) (holds : inv s)
    (returns : ∀ s', inv s' → post value s') :
    Ensures setting post (.done value : Script sig Err Val) s := by
  intro s' perturbed
  exact returns s' (stable.perturbed holds perturbed)

theorem ensures_ask {call : sig.Call} {next : sig.Reply call → Script sig Err Val}
    (stable : Stable setting inv) (holds : inv s)
    (answered : ∀ s' reply s'', inv s' → setting.answer s' call reply = some s'' →
      Ensures setting post (next reply) s'') : Ensures setting post (.ask call next) s := by
  intro s' perturbed reply s'' taken
  exact answered s' reply s'' (stable.perturbed holds perturbed) taken

theorem Ensures.bind {script : Script sig Err Val} {rest : Val → Script sig Err Val'}
    {post : Val' → Shared → Prop}
    (ensures : Ensures setting (fun value s => Ensures setting post (rest value) s) script s) :
    Ensures setting post (script.bind rest) s := by
  induction script generalizing s with
  | done value => exact ensures s .refl
  | throw error => trivial
  | ask call next ih =>
      intro s' perturbed reply s'' taken
      exact ih reply (ensures s' perturbed reply s'' taken)

theorem Stable.and {inv' : Shared → Prop} (stable : Stable setting inv)
    (stable' : Stable setting inv') : Stable setting fun s => inv s ∧ inv' s := by
  intro s change s' holds changed
  exact ⟨stable s change s' holds.1 changed, stable' s change s' holds.2 changed⟩

theorem Ensures.mono {post' : Val → Shared → Prop} {script : Script sig Err Val}
    (weaker : ∀ value s, post value s → post' value s) (ensures : Ensures setting post script s) :
    Ensures setting post' script s := by
  induction script generalizing s with
  | done value =>
      intro s' perturbed
      exact weaker value s' (ensures s' perturbed)
  | throw error => trivial
  | ask call next ih =>
      intro s' perturbed reply s'' taken
      exact ih reply (ensures s' perturbed reply s'' taken)

/-- A script returns only with its postcondition. -/
theorem run_ensures {script : Script sig Err Val} {allowed : Config sig Shared Err Val →
    Action sig Env → Prop} {acts : List (Action sig Env)} {c : Config sig Shared Err Val}
    (ensures : Ensures setting post script s)
    (run : Run (system setting s script) allowed acts c) {value : Val}
    (returned : c.script = .done value) : post value c.shared := by
  have still : Ensures setting post c.script c.shared := by
    refine run.invariant (fun c => Ensures setting post c.script c.shared) ensures ?_
    intro c a c' holds _ stepped
    cases a with
    | reply reply =>
        simp only [system, Config.step] at stepped
        split at stepped
        · rename_i call next same
          obtain ⟨shared, taken, rfl⟩ := Option.map_eq_some_iff.mp stepped
          rw [same] at holds
          exact holds c.shared .refl (reply call) shared taken
        · contradiction
    | perturb change =>
        obtain ⟨shared, taken, rfl⟩ := Option.map_eq_some_iff.mp stepped
        exact holds.perturbed (.single ⟨change, taken⟩)
  rw [returned] at still
  exact still c.shared .refl

end Rules

/-! ## Programs over one of two systems -/

section Sum
variable {first second : Signature} {Err' : Type}

def Setting.onLeft (setting : Setting (first.sum second) Shared Env) :
    Setting first Shared Env where
  answer s call reply := setting.answer s (.inl call) reply
  perturb := setting.perturb

def Setting.onRight (setting : Setting (first.sum second) Shared Env) :
    Setting second Shared Env where
  answer s call reply := setting.answer s (.inr call) reply
  perturb := setting.perturb

variable {setting : Setting (first.sum second) Shared Env} {post : Val' → Shared → Prop}
  {s : Shared} {error : Err → Err'} {value : Val → Val'}

theorem ensures_inl {script : Script first Err Val}
    (ensures : Ensures setting.onLeft (fun v s => post (value v) s) script s) :
    Ensures setting post (script.inl error value) s := by
  induction script generalizing s with
  | done v => exact ensures
  | throw e => trivial
  | ask call next ih =>
      intro s' perturbed reply s'' taken
      exact ih reply (ensures s' perturbed reply s'' taken)

theorem ensures_inr {script : Script second Err Val}
    (ensures : Ensures setting.onRight (fun v s => post (value v) s) script s) :
    Ensures setting post (script.inr error value) s := by
  induction script generalizing s with
  | done v => exact ensures
  | throw e => trivial
  | ask call next ih =>
      intro s' perturbed reply s'' taken
      exact ih reply (ensures s' perturbed reply s'' taken)

end Sum

end Interference
