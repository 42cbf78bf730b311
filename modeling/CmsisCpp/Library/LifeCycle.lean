import CmsisCpp.Library.History

/-! # Life cycles

Each of many items goes through phases.  A life cycle says which events may happen to
an item in a phase and to which phase they lead.  A history is in order when each of
its events may happen where it stands. -/
set_option autoImplicit false

structure LifeCycle (Phase Kind : Type) where
  start : Phase
  next : Phase → Kind → Option Phase

namespace LifeCycle

variable {Phase Kind : Type} (cycle : LifeCycle Phase Kind)

/-- The phase that a history leads to, if it is in order. -/
def after : Phase → List Kind → Option Phase
  | phase, [] => some phase
  | phase, kind :: rest => (cycle.next phase kind).bind fun phase' => after phase' rest

def reached (history : List Kind) : Option Phase := cycle.after cycle.start history

section Rules
variable {cycle} {phase phase' : Phase} {kind : Kind} {front back history : List Kind}

theorem after_append : cycle.after phase (front ++ back) =
    (cycle.after phase front).bind fun phase' => cycle.after phase' back := by
  induction front generalizing phase with
  | nil => rfl
  | cons kind rest ih =>
      rw [List.cons_append, after, after]
      cases cycle.next phase kind with
      | none => rfl
      | some phase' => exact ih

/-- What each event adds to a measure of the phase, the history adds altogether. -/
theorem after_countP_le (counted : Kind → Bool) (measure : Phase → Nat)
    (grows : ∀ phase kind phase', cycle.next phase kind = some phase' →
      measure phase + (counted kind).toNat ≤ measure phase')
    (led : cycle.after phase history = some phase') :
    measure phase + history.countP counted ≤ measure phase' := by
  induction history generalizing phase with
  | nil =>
      cases led
      simp
  | cons kind rest ih =>
      rw [after] at led
      obtain ⟨middle, taken, led⟩ := Option.bind_eq_some_iff.mp led
      have first := grows phase kind middle taken
      have others := ih led
      rw [List.countP_cons]
      cases isCounted : counted kind <;> simp [isCounted] at first ⊢ <;> omega

/-- An item comes into a set of phases by an event that leads into it. -/
theorem exists_of_after (inside : Phase → Prop) (entering : Kind → Prop)
    (enters : ∀ phase kind phase', cycle.next phase kind = some phase' → ¬ inside phase →
      inside phase' → entering kind)
    (led : cycle.after phase history = some phase') (outside : ¬ inside phase)
    (arrived : inside phase') : ∃ kind ∈ history, entering kind := by
  induction history generalizing phase with
  | nil =>
      cases led
      exact absurd arrived outside
  | cons kind rest ih =>
      rw [after] at led
      obtain ⟨middle, taken, led⟩ := Option.bind_eq_some_iff.mp led
      by_cases entered : inside middle
      · exact ⟨kind, List.mem_cons_self, enters phase kind middle taken outside entered⟩
      · obtain ⟨later, member, isEntering⟩ := ih led entered
        exact ⟨later, List.mem_cons_of_mem _ member, isEntering⟩

/-- An event that may only happen in a set of phases comes after one that leads into it. -/
theorem preceded_of_reached (inside : Phase → Prop) (entering : Kind → Prop)
    (enters : ∀ phase kind phase', cycle.next phase kind = some phase' → ¬ inside phase →
      inside phase' → entering kind)
    (needs : ∀ phase phase', cycle.next phase kind = some phase' → inside phase)
    (outside : ¬ inside cycle.start) (led : cycle.reached history = some phase')
    (member : kind ∈ history) : ∃ earlier, entering earlier ∧ [earlier, kind].Sublist history := by
  obtain ⟨front, back, rfl⟩ := List.append_of_mem member
  rw [reached, after_append] at led
  obtain ⟨middle, ledFront, led⟩ := Option.bind_eq_some_iff.mp led
  rw [after] at led
  obtain ⟨next, taken, _⟩ := Option.bind_eq_some_iff.mp led
  obtain ⟨earlier, before, isEntering⟩ :=
    exists_of_after inside entering enters ledFront outside (needs middle next taken)
  refine ⟨earlier, isEntering, ?_⟩
  have first : [earlier].Sublist front := List.singleton_sublist.mpr before
  have second : [kind].Sublist (kind :: back) := List.singleton_sublist.mpr List.mem_cons_self
  exact first.append second

end Rules

section Items
variable {cycle} {Item : Type} [DecidableEq Item] {item other : Item} {kind : Kind}
  {entries : List (Item × Kind)} {phase phase' : Phase}

theorem reached_record (led : cycle.reached (History.of item entries) = some phase)
    (taken : cycle.next phase kind = some phase') :
    cycle.reached (History.of item (entries ++ [(item, kind)])) = some phase' := by
  rw [reached] at led
  rw [History.of_append, reached, after_append, led, Option.bind_some]
  have own : History.of item [(item, kind)] = [kind] := History.of_map_self [kind]
  rw [own, after, taken]
  rfl

theorem reached_record_other (different : other ≠ item) :
    cycle.reached (History.of item (entries ++ [(other, kind)])) =
      cycle.reached (History.of item entries) := by
  have none : History.of item [(other, kind)] = [] := History.of_map_other different [kind]
  rw [History.of_append, none, List.append_nil]

end Items

end LifeCycle
