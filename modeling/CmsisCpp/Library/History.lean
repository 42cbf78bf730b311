import Mathlib.Data.List.Basic
import Mathlib.Data.List.Perm.Subperm

/-! # The order of the events in a history

A history is a list that grows at its end.  `[x, y].Sublist log` says that `x`
was recorded before `y`.  What a step adds to the history can only complete a
pattern whose last event is among the new ones.

Where the events are those of many items, each item has a history of its own. -/
set_option autoImplicit false

namespace History

variable {Event : Type} {x : Event} {pattern log events : List Event}

theorem sublist_of_notMem_new (last : pattern.getLast? = some x) (old : x ∉ events)
    (sub : pattern.Sublist (log ++ events)) : pattern.Sublist log := by
  obtain ⟨front, back, split, inLog, inEvents⟩ := List.sublist_append_iff.mp sub
  rcases List.eq_nil_or_concat back with rfl | ⟨init, final, rfl⟩
  · rw [List.append_nil] at split
    rwa [split]
  · rw [List.concat_eq_append, ← List.append_assoc] at split
    rw [split, List.getLast?_concat, Option.some.injEq] at last
    exact absurd (inEvents.subset (by simp [last])) old

theorem sublist_or_mem_new (last : pattern.getLast? = some x)
    (sub : pattern.Sublist (log ++ events)) : pattern.Sublist log ∨ x ∈ events := by
  by_cases new : x ∈ events
  · exact .inr new
  · exact .inl (sublist_of_notMem_new last new sub)

/-- When the last event of the pattern is the new one, the others came before. -/
theorem dropLast_sublist (last : pattern.getLast? = some x)
    (sub : pattern.Sublist (log ++ [x])) : pattern.dropLast.Sublist log := by
  apply (List.append_sublist_append_right [x]).mp
  rwa [List.dropLast_append_getLast? x last]

/-! ## The histories of many items -/

section Items
variable {Item Kind : Type} [DecidableEq Item] {item other : Item} {entries : List (Item × Kind)}

def of (item : Item) (entries : List (Item × Kind)) : List Kind :=
  (entries.filter fun entry => entry.1 = item).map Prod.snd

theorem of_append (more : List (Item × Kind)) :
    of item (entries ++ more) = of item entries ++ of item more := by
  rw [of, List.filter_append, List.map_append]
  rfl

theorem of_map_self (kinds : List Kind) :
    of item (kinds.map fun kind => (item, kind)) = kinds := by
  induction kinds with
  | nil => rfl
  | cons kind kinds ih =>
      rw [of] at ih ⊢
      rw [List.map_cons, List.filter_cons, if_pos (decide_eq_true rfl), List.map_cons, ih]

theorem of_map_other (different : other ≠ item) (kinds : List Kind) :
    of item (kinds.map fun kind => (other, kind)) = [] := by
  rw [of, List.map_eq_nil_iff, List.filter_eq_nil_iff]
  intro entry member
  obtain ⟨kind, _, rfl⟩ := List.mem_map.mp member
  simpa using different

variable [DecidableEq Kind]

/-- The items with an event of one kind, as often as they have it. -/
def items (kind : Kind) (entries : List (Item × Kind)) : List Item :=
  (entries.filter fun entry => entry.2 = kind).map Prod.fst

theorem count_items (kind : Kind) :
    (items kind entries).count item = (of item entries).count kind := by
  induction entries with
  | nil => rfl
  | cons entry rest ih =>
      obtain ⟨first, event⟩ := entry
      simp only [items, of, List.filter_cons, decide_eq_true_eq] at ih ⊢
      by_cases isItem : first = item <;> by_cases isKind : event = kind <;>
        simp [isItem, isKind, ih]

/-- When no item has more events of one kind than of another, neither have all together. -/
theorem length_items_le {kind kind' : Kind}
    (each : ∀ item, (of item entries).count kind ≤ (of item entries).count kind') :
    (items kind entries).length ≤ (items kind' entries).length := by
  apply List.Subperm.length_le
  apply List.subperm_ext_iff.mpr
  intro item _
  rw [count_items, count_items]
  exact each item

end Items

end History
