import Mathlib.Data.List.Nodup
import Mathlib.Data.List.Perm.Basic
import Mathlib.Logic.ExistsUnique

/-! # Custody of items

Items are numbered in the order of their intake, kept in places, and handed over
in the end.  As long as items are only taken in and handed over, each is in one
place or has been handed over once. -/
set_option autoImplicit false

namespace Custody

structure Ledger (Place : Type) where
  kept : Place → List Nat
  issued : Nat
  handed : List Nat

variable {Place : Type}

inductive Change (l l' : Ledger Place) : Prop
  | same (kept : ∀ p, l'.kept p = l.kept p) (issued : l'.issued = l.issued)
      (handed : l'.handed = l.handed)
  | intake (p : Place) (here : (l'.kept p).Perm (l.issued :: l.kept p))
      (elsewhere : ∀ x, x ≠ p → l'.kept x = l.kept x) (issued : l'.issued = l.issued + 1)
      (handed : l'.handed = l.handed)
  | handover (p : Place) (n : Nat) (here : (l.kept p).Perm (n :: l'.kept p))
      (elsewhere : ∀ x, x ≠ p → l'.kept x = l.kept x) (issued : l'.issued = l.issued)
      (handed : l'.handed = l.handed ++ [n])

structure Sound (l : Ledger Place) : Prop where
  keptKnown : ∀ p, ∀ n ∈ l.kept p, n < l.issued
  handedKnown : ∀ n ∈ l.handed, n < l.issued
  keptOnce : ∀ p, (l.kept p).Nodup
  handedOnce : l.handed.Nodup
  onePlace : ∀ p p' n, n ∈ l.kept p → n ∈ l.kept p' → p = p'
  notBoth : ∀ p, ∀ n ∈ l.kept p, n ∉ l.handed
  complete : ∀ n < l.issued, n ∈ l.handed ∨ ∃ p, n ∈ l.kept p

section Rules
variable {l l' : Ledger Place}

theorem Sound.same (sound : Sound l) (kept : ∀ p, l'.kept p = l.kept p)
    (issued : l'.issued = l.issued) (handed : l'.handed = l.handed) : Sound l' := by
  have equal : l' = l := by
    cases l
    cases l'
    simp only [Ledger.mk.injEq]
    exact ⟨funext kept, issued, handed⟩
  exact equal ▸ sound

theorem Sound.intake (sound : Sound l) (p : Place)
    (here : (l'.kept p).Perm (l.issued :: l.kept p))
    (elsewhere : ∀ x, x ≠ p → l'.kept x = l.kept x) (issued : l'.issued = l.issued + 1)
    (handed : l'.handed = l.handed) : Sound l' := by
  have before : ∀ x n, n ∈ l'.kept x → n ∈ l.kept x ∨ (x = p ∧ n = l.issued) := by
    intro x n member
    by_cases same : x = p
    · subst same
      rcases List.mem_cons.mp (here.mem_iff.mp member) with new | old
      · exact .inr ⟨rfl, new⟩
      · exact .inl old
    · rw [elsewhere x same] at member
      exact .inl member
  have fresh : ∀ x, l.issued ∉ l.kept x := by
    intro x member
    exact absurd (sound.keptKnown x _ member) (Nat.lt_irrefl _)
  have freshHanded : l.issued ∉ l.handed := by
    intro member
    exact absurd (sound.handedKnown _ member) (Nat.lt_irrefl _)
  constructor
  · intro x n member
    rcases before x n member with old | ⟨_, rfl⟩
    · have known := sound.keptKnown x n old
      omega
    · omega
  · intro n member
    rw [handed] at member
    have known := sound.handedKnown n member
    omega
  · intro x
    by_cases same : x = p
    · rw [same, here.nodup_iff, List.nodup_cons]
      exact ⟨fresh p, sound.keptOnce p⟩
    · rw [elsewhere x same]
      exact sound.keptOnce x
  · rw [handed]
    exact sound.handedOnce
  · intro x x' n member member'
    rcases before x n member with old | ⟨rfl, rfl⟩
    · rcases before x' n member' with old' | ⟨_, rfl⟩
      · exact sound.onePlace x x' n old old'
      · exact absurd old (fresh x)
    · rcases before x' _ member' with old' | ⟨rfl, _⟩
      · exact absurd old' (fresh x')
      · rfl
  · intro x n member
    rw [handed]
    rcases before x n member with old | ⟨_, rfl⟩
    · exact sound.notBoth x n old
    · exact freshHanded
  · intro n known
    rw [handed]
    by_cases new : n = l.issued
    · exact .inr ⟨p, here.mem_iff.mpr (new ▸ List.mem_cons_self)⟩
    · rcases sound.complete n (by omega) with out | ⟨x, member⟩
      · exact .inl out
      · right
        refine ⟨x, ?_⟩
        by_cases same : x = p
        · subst same
          exact here.mem_iff.mpr (List.mem_cons_of_mem _ member)
        · rwa [elsewhere x same]

theorem Sound.handover (sound : Sound l) (p : Place) (n : Nat)
    (here : (l.kept p).Perm (n :: l'.kept p))
    (elsewhere : ∀ x, x ≠ p → l'.kept x = l.kept x) (issued : l'.issued = l.issued)
    (handed : l'.handed = l.handed ++ [n]) : Sound l' := by
  have before : ∀ x m, m ∈ l'.kept x → m ∈ l.kept x := by
    intro x m member
    by_cases same : x = p
    · rw [same, here.mem_iff]
      exact List.mem_cons_of_mem _ (same ▸ member)
    · rwa [elsewhere x same] at member
  have inPlace : n ∈ l.kept p := here.mem_iff.mpr List.mem_cons_self
  have nodup := sound.keptOnce p
  rw [here.nodup_iff, List.nodup_cons] at nodup
  constructor
  · intro x m member
    rw [issued]
    exact sound.keptKnown x m (before x m member)
  · intro m member
    rw [issued]
    rw [handed] at member
    rcases List.mem_append.mp member with old | new
    · exact sound.handedKnown m old
    · rw [List.mem_singleton.mp new]
      exact sound.keptKnown p n inPlace
  · intro x
    by_cases same : x = p
    · rw [same]
      exact nodup.2
    · rw [elsewhere x same]
      exact sound.keptOnce x
  · rw [handed, List.nodup_append]
    refine ⟨sound.handedOnce, by simp, ?_⟩
    intro m old m' new same
    rw [List.mem_singleton.mp new] at same
    exact sound.notBoth p n inPlace (same ▸ old)
  · intro x x' m member member'
    exact sound.onePlace x x' m (before x m member) (before x' m member')
  · intro x m member
    rw [handed]
    intro out
    rcases List.mem_append.mp out with old | new
    · exact sound.notBoth x m (before x m member) old
    · rw [List.mem_singleton.mp new] at member
      have same := sound.onePlace x p n (before x n member) inPlace
      exact nodup.1 (same ▸ member)
  · intro m known
    rw [issued] at known
    rw [handed]
    rcases sound.complete m known with out | ⟨x, member⟩
    · exact .inl (List.mem_append_left _ out)
    · by_cases same : x = p
      · rw [same, here.mem_iff] at member
        rcases List.mem_cons.mp member with rfl | rest
        · exact .inl (List.mem_append_right _ (List.mem_singleton_self m))
        · exact .inr ⟨p, rest⟩
      · exact .inr ⟨x, by rwa [elsewhere x same]⟩

theorem Change.sound (change : Change l l') (sound : Sound l) : Sound l' := by
  cases change with
  | same kept issued handed => exact sound.same kept issued handed
  | intake p here elsewhere issued handed => exact sound.intake p here elsewhere issued handed
  | handover p n here elsewhere issued handed =>
      exact sound.handover p n here elsewhere issued handed

/-- An item is with the receiver, or in one place. -/
theorem Sound.whereabouts (sound : Sound l) {n : Nat} (known : n < l.issued) :
    (n ∈ l.handed ∧ ∀ p, n ∉ l.kept p) ∨ (n ∉ l.handed ∧ ∃! p, n ∈ l.kept p) := by
  by_cases out : n ∈ l.handed
  · exact .inl ⟨out, fun p member => sound.notBoth p n member out⟩
  · obtain ⟨p, member⟩ := (sound.complete n known).resolve_left out
    exact .inr ⟨out, p, member, fun p' member' => sound.onePlace p' p n member' member⟩

theorem Sound.empty : Sound (⟨fun _ => [], 0, []⟩ : Ledger Place) := by
  constructor <;> simp

end Rules

end Custody
