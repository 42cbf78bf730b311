import Mathlib.Data.List.Nodup

/-! # Well-nested sequences

A sequence of events that enter and leave objects is well nested when each event
that leaves is about the object entered last of those still held, and no object is
entered while it is held.  `after held word` are the objects held after `word`,
the last one entered first; it is `none` where `word` breaks the discipline. -/
set_option autoImplicit false

namespace Nesting

variable {Obj : Type} [DecidableEq Obj]

inductive Event (Obj : Type)
  | enter (o : Obj)
  | leave (o : Obj)
  deriving DecidableEq, Repr

def step : List Obj → Event Obj → Option (List Obj)
  | held, .enter o => if o ∈ held then none else some (o :: held)
  | [], .leave _ => none
  | last :: held, .leave o => if o = last then some held else none

def after (held : List Obj) : List (Event Obj) → Option (List Obj)
  | [] => some held
  | event :: rest => (step held event).bind fun held' => after held' rest

theorem step_cases {held held' : List Obj} {event : Event Obj}
    (taken : step held event = some held') :
    (∃ o, event = .enter o ∧ o ∉ held ∧ held' = o :: held) ∨
      ∃ o, event = .leave o ∧ held = o :: held' := by
  cases event with
  | enter o =>
      rw [step] at taken
      split at taken
      · cases taken
      · exact .inl ⟨o, rfl, ‹_›, (Option.some.inj taken).symm⟩
  | leave o =>
      cases held with
      | nil => cases taken
      | cons last held =>
          rw [step] at taken
          split at taken
          · rename_i same
            exact .inr ⟨o, rfl, by rw [same, Option.some.inj taken]⟩
          · cases taken

theorem after_append (held : List Obj) (word word' : List (Event Obj)) :
    after held (word ++ word') = (after held word).bind fun held' => after held' word' := by
  induction word generalizing held with
  | nil => rfl
  | cons event rest ih =>
      rw [List.cons_append, after, after]
      cases step held event with
      | none => rfl
      | some held' => exact ih held'

/-- What one event keeps, a well-nested sequence keeps. -/
theorem after_invariant {State : Type} {exec : State → Event Obj → State}
    (Inv : List Obj → State → Prop)
    (preserved : ∀ held held' event s, held.Nodup → step held event = some held' → Inv held s →
      Inv held' (exec s event)) :
    ∀ (word : List (Event Obj)) {held held' : List Obj} {s : State}, held.Nodup →
      after held word = some held' → Inv held s → Inv held' (word.foldl exec s) := by
  intro word
  induction word with
  | nil =>
      intro held held' s _ nested inv
      cases nested
      exact inv
  | cons event rest ih =>
      intro held held' s nodup nested inv
      obtain ⟨middle, taken, nested⟩ := Option.bind_eq_some_iff.mp nested
      have middleNodup : middle.Nodup := by
        rcases step_cases taken with ⟨o, _, fresh, rfl⟩ | ⟨o, _, rfl⟩
        · exact List.nodup_cons.mpr ⟨fresh, nodup⟩
        · exact (List.nodup_cons.mp nodup).2
      exact ih middleNodup nested (preserved held middle event s nodup taken inv)

/-- A sequence that is well nested by itself adds to whatever is held around it. -/
theorem after_within (outer : List Obj) : ∀ (word : List (Event Obj)) {held inner total : List Obj},
    after held word = some inner → after (held ++ outer) word = some total →
      total = inner ++ outer := by
  intro word
  induction word with
  | nil =>
      intro held inner total alone within
      cases alone
      exact (Option.some.inj within).symm
  | cons event rest ih =>
      intro held inner total alone within
      obtain ⟨middle, taken, alone⟩ := Option.bind_eq_some_iff.mp alone
      obtain ⟨middle', taken', within⟩ := Option.bind_eq_some_iff.mp within
      have added : middle' = middle ++ outer := by
        rcases step_cases taken with ⟨o, rfl, _, rfl⟩ | ⟨o, rfl, rfl⟩
        · rcases step_cases taken' with ⟨o', entered, _, rfl⟩ | ⟨o', left, _⟩
          · cases entered
            rfl
          · cases left
        · rcases step_cases taken' with ⟨o', entered, _, _⟩ | ⟨o', left, popped⟩
          · cases entered
          · exact (List.cons.inj popped).2.symm
      rw [added] at within
      exact ih alone within

/-- Entering an object, a well-nested sequence and leaving the object again hold
what was held before. -/
theorem after_matched {held held' : List Obj} {o : Obj} {inner : List (Event Obj)}
    (matched : after [] inner = some [])
    (nested : after held (.enter o :: inner ++ [.leave o]) = some held') : held' = held := by
  rw [after_append] at nested
  obtain ⟨middle, entered, left⟩ := Option.bind_eq_some_iff.mp nested
  obtain ⟨opened, taken, within⟩ := Option.bind_eq_some_iff.mp entered
  rcases step_cases taken with ⟨o', same, _, rfl⟩ | ⟨o', other, _⟩
  · cases same
    have unchanged := after_within (o :: held) inner matched within
    rw [unchanged] at left
    simp only [List.nil_append, after, step, if_true, Option.bind_some, Option.some.injEq] at left
    exact left.symm
  · cases other

end Nesting
