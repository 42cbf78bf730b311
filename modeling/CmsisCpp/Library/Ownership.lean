import Mathlib.Data.List.Perm.Basic
import Mathlib.Data.Set.Card
import Mathlib.Logic.Equiv.Basic
import Mathlib.Logic.Relation

/-! # Exclusive ownership of resources

Objects come to hold resources, exchange them and give them up; a resource is
live between its creation and its deletion.  `Transfer` is one such move.  The
owned estates, in which every live resource has one holder and the ledger is
balanced, are closed under it. -/
set_option autoImplicit false

namespace Ownership

structure Estate (Obj Res : Type) where
  holds : Obj → Option Res
  live : Res → Prop
  created : List Res
  deleted : List Res

variable {Obj Res : Type}

section Owned
variable [DecidableEq Res] {e : Estate Obj Res}

structure Owned (e : Estate Obj Res) : Prop where
  live : ∀ o r, e.holds o = some r → e.live r
  unique : ∀ o o' r, e.holds o = some r → e.holds o' = some r → o = o'
  held : ∀ r, e.live r → ∃ o, e.holds o = some r
  balancedLive : ∀ r, e.live r → e.created.count r = e.deleted.count r + 1
  balanced : ∀ r, ¬ e.live r → e.created.count r = e.deleted.count r

theorem Owned.existsUnique (owned : Owned e) {r : Res} (isLive : e.live r) :
    ∃! o, e.holds o = some r := by
  obtain ⟨o, held⟩ := owned.held r isLive
  exact ⟨o, held, fun other held' => owned.unique other o r held' held⟩

/-- Nothing is deleted more often than it was created. -/
theorem Owned.deleted_le (owned : Owned e) (r : Res) :
    e.deleted.count r ≤ e.created.count r := by
  by_cases isLive : e.live r
  · have before := owned.balancedLive r isLive
    omega
  · exact Nat.le_of_eq (owned.balanced r isLive).symm

/-- When nothing is held any more, everything created has been deleted, as often. -/
theorem Owned.settled (owned : Owned e) (none : ∀ o, e.holds o = none) :
    e.deleted.Perm e.created := by
  apply List.perm_iff_count.mpr
  intro r
  apply Eq.symm
  apply owned.balanced r
  intro isLive
  obtain ⟨o, held⟩ := owned.held r isLive
  rw [none o] at held
  contradiction

theorem Owned.finite (owned : Owned e) : {r | e.live r}.Finite := by
  apply e.created.finite_toSet.subset
  intro r isLive
  have balanced := owned.balancedLive r isLive
  exact List.count_pos_iff.mp (by omega)

theorem Owned.ncard_eq (owned : Owned e) :
    {r | e.live r}.ncard = {o | (e.holds o).isSome = true}.ncard := by
  symm
  apply Set.ncard_congr fun o holds => (e.holds o).get holds
  · intro o holds
    exact owned.live o _ (Option.some_get holds).symm
  · intro o o' holds holds' same
    apply owned.unique o o' _ (Option.some_get holds).symm
    rw [same]
    exact (Option.some_get holds').symm
  · intro r isLive
    obtain ⟨o, held⟩ := owned.held r isLive
    exact ⟨o, Option.isSome_iff_exists.mpr ⟨r, held⟩, Option.get_of_eq_some _ held⟩

end Owned

section Slots
variable [DecidableEq Obj]

/-- Two slots that are overwritten so that each reads as the other did before. -/
theorem read_update_swap {Slot : Type} (read : Slot → Option Res) {slots : Obj → Slot} {a b : Obj}
    {x y : Slot} (first : read x = read (slots b)) (second : read y = read (slots a)) (o : Obj) :
    read (Function.update (Function.update slots a x) b y o) = read (slots (Equiv.swap a b o)) := by
  by_cases isB : o = b
  · rw [isB, Function.update_self, Equiv.swap_apply_right, second]
  · rw [Function.update_of_ne isB]
    by_cases isA : o = a
    · rw [isA, Function.update_self, Equiv.swap_apply_left, first]
    · rw [Function.update_of_ne isA, Equiv.swap_apply_of_ne_of_ne isA isB]

end Slots

section Transfer
variable [DecidableEq Obj] [DecidableEq Res]

inductive Transfer (e e' : Estate Obj Res) : Prop
  | exchange (a b : Obj) (holds : ∀ o, e'.holds o = e.holds (Equiv.swap a b o))
      (live : ∀ r, e'.live r ↔ e.live r) (created : e'.created = e.created)
      (deleted : e'.deleted = e.deleted)
  | acquire (o : Obj) (r : Res) (vacant : e.holds o = none) (fresh : ¬ e.live r)
      (holds : ∀ x, e'.holds x = if x = o then some r else e.holds x)
      (live : ∀ x, e'.live x ↔ x = r ∨ e.live x) (created : e'.created = e.created ++ [r])
      (deleted : e'.deleted = e.deleted)
  | release (o : Obj) (r : Res) (held : e.holds o = some r)
      (holds : ∀ x, e'.holds x = if x = o then none else e.holds x)
      (live : ∀ x, e'.live x ↔ x ≠ r ∧ e.live x) (created : e'.created = e.created)
      (deleted : e'.deleted = e.deleted ++ [r])

abbrev Transfers : Estate Obj Res → Estate Obj Res → Prop := Relation.ReflTransGen Transfer

variable {e e' : Estate Obj Res}

theorem Owned.exchange (owned : Owned e) (a b : Obj)
    (holds : ∀ o, e'.holds o = e.holds (Equiv.swap a b o)) (live : ∀ r, e'.live r ↔ e.live r)
    (created : e'.created = e.created) (deleted : e'.deleted = e.deleted) : Owned e' where
  live := by
    intro o r held
    rw [holds] at held
    rw [live]
    exact owned.live _ r held
  unique := by
    intro o o' r held held'
    rw [holds] at held held'
    exact (Equiv.swap a b).injective (owned.unique _ _ r held held')
  held := by
    intro r isLive
    obtain ⟨o, held⟩ := owned.held r ((live r).mp isLive)
    refine ⟨Equiv.swap a b o, ?_⟩
    rw [holds, Equiv.swap_apply_self, held]
  balancedLive := by
    intro r isLive
    rw [created, deleted]
    exact owned.balancedLive r ((live r).mp isLive)
  balanced := by
    intro r notLive
    rw [created, deleted]
    exact owned.balanced r (mt (live r).mpr notLive)

theorem Owned.acquire (owned : Owned e) (o : Obj) (r : Res) (vacant : e.holds o = none)
    (fresh : ¬ e.live r) (holds : ∀ x, e'.holds x = if x = o then some r else e.holds x)
    (live : ∀ x, e'.live x ↔ x = r ∨ e.live x) (created : e'.created = e.created ++ [r])
    (deleted : e'.deleted = e.deleted) : Owned e' where
  live := by
    intro x y held
    rw [holds] at held
    rw [live]
    by_cases same : x = o
    · rw [if_pos same, Option.some.injEq] at held
      exact .inl held.symm
    · rw [if_neg same] at held
      exact .inr (owned.live x y held)
  unique := by
    have old : ∀ x, x ≠ o → e'.holds x ≠ some r := by
      intro x other held
      rw [holds, if_neg other] at held
      exact fresh (owned.live x r held)
    intro x x' y held held'
    by_cases same : x = o <;> by_cases same' : x' = o
    · rw [same, same']
    · rw [holds, if_pos same, Option.some.injEq] at held
      exact absurd (held ▸ held') (old x' same')
    · rw [holds, if_pos same', Option.some.injEq] at held'
      exact absurd (held' ▸ held) (old x same)
    · rw [holds, if_neg same] at held
      rw [holds, if_neg same'] at held'
      exact owned.unique x x' y held held'
  held := by
    intro y isLive
    rcases (live y).mp isLive with rfl | old
    · exact ⟨o, by rw [holds, if_pos rfl]⟩
    · obtain ⟨x, held⟩ := owned.held y old
      have other : x ≠ o := by
        rintro rfl
        rw [vacant] at held
        contradiction
      exact ⟨x, by rw [holds, if_neg other, held]⟩
  balancedLive := by
    intro y isLive
    rw [created, deleted, List.count_append]
    rcases (live y).mp isLive with rfl | old
    · have before := owned.balanced y fresh
      rw [List.count_singleton_self]
      omega
    · have before := owned.balancedLive y old
      have other : r ≠ y := by
        rintro rfl
        exact fresh old
      rw [List.count_singleton, beq_false_of_ne other]
      simpa using before
  balanced := by
    intro y notLive
    rw [live, not_or] at notLive
    rw [created, deleted, List.count_append, List.count_singleton,
      beq_false_of_ne (Ne.symm notLive.1)]
    simpa using owned.balanced y notLive.2

theorem Owned.release (owned : Owned e) (o : Obj) (r : Res) (held : e.holds o = some r)
    (holds : ∀ x, e'.holds x = if x = o then none else e.holds x)
    (live : ∀ x, e'.live x ↔ x ≠ r ∧ e.live x) (created : e'.created = e.created)
    (deleted : e'.deleted = e.deleted ++ [r]) : Owned e' where
  live := by
    intro x y held'
    rw [holds] at held'
    by_cases same : x = o
    · rw [if_pos same] at held'
      contradiction
    · rw [if_neg same] at held'
      rw [live]
      refine ⟨?_, owned.live x y held'⟩
      rintro rfl
      exact same (owned.unique x o y held' held)
  unique := by
    intro x x' y held held'
    by_cases same : x = o
    · rw [holds, if_pos same] at held
      contradiction
    · by_cases same' : x' = o
      · rw [holds, if_pos same'] at held'
        contradiction
      · rw [holds, if_neg same] at held
        rw [holds, if_neg same'] at held'
        exact owned.unique x x' y held held'
  held := by
    intro y isLive
    obtain ⟨other, old⟩ := (live y).mp isLive
    obtain ⟨x, held'⟩ := owned.held y old
    have differs : x ≠ o := by
      rintro rfl
      rw [held, Option.some.injEq] at held'
      exact other held'.symm
    exact ⟨x, by rw [holds, if_neg differs, held']⟩
  balancedLive := by
    intro y isLive
    obtain ⟨other, old⟩ := (live y).mp isLive
    rw [created, deleted, List.count_append, List.count_singleton, beq_false_of_ne other.symm]
    simpa using owned.balancedLive y old
  balanced := by
    intro y notLive
    rw [created, deleted, List.count_append]
    by_cases same : y = r
    · subst same
      rw [List.count_singleton_self]
      exact owned.balancedLive y (owned.live o y held)
    · have old : ¬ e.live y := fun old => notLive ((live y).mpr ⟨same, old⟩)
      rw [List.count_singleton, beq_false_of_ne (Ne.symm same)]
      simpa using owned.balanced y old

theorem Transfer.owned (transfer : Transfer e e') (owned : Owned e) : Owned e' := by
  cases transfer with
  | exchange a b holds live created deleted =>
      exact owned.exchange a b holds live created deleted
  | acquire o r vacant fresh holds live created deleted =>
      exact owned.acquire o r vacant fresh holds live created deleted
  | release o r held holds live created deleted =>
      exact owned.release o r held holds live created deleted

theorem Transfers.owned (transfers : Transfers e e') (owned : Owned e) : Owned e' := by
  induction transfers with
  | refl => exact owned
  | tail _ last ih => exact last.owned ih

end Transfer

end Ownership
