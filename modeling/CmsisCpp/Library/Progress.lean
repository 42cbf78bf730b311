import CmsisCpp.Library.Refinement

/-! # Ranks that bound how long something lasts

A rank that no step raises and some actions lower bounds how often these actions
are taken before it is zero. -/
set_option autoImplicit false

namespace ActionSystem

variable {State Action : Type} {sys : ActionSystem State Action}

theorem Path.rank_zero {own : Action → Bool} {rank : State → Nat}
    (kept : ∀ s a s', sys.step s a = some s' → own a = false → rank s' ≤ rank s)
    (falls : ∀ s a s', sys.step s a = some s' → own a = true → 0 < rank s → rank s' < rank s)
    {acts : List Action} {s s' : State} (path : Path sys s acts s') :
    rank s ≤ acts.countP own →
      ∃ front back m, acts = front ++ back ∧ Path sys s front m ∧ rank m = 0 := by
  induction path with
  | stay s =>
      intro enough
      exact ⟨[], [], s, rfl, .stay s, Nat.le_zero.mp enough⟩
  | @step s middle s' a acts taken rest ih =>
      intro enough
      rcases Nat.eq_zero_or_pos (rank s) with zero | positive
      · exact ⟨[], a :: acts, s, rfl, .stay s, zero⟩
      · have enough' : rank middle ≤ acts.countP own := by
          cases isOwn : own a with
          | true =>
              have lower := falls s a middle taken isOwn positive
              rw [List.countP_cons_of_pos isOwn] at enough
              omega
          | false =>
              have notHigher := kept s a middle taken isOwn
              rw [List.countP_cons_of_neg (by simp [isOwn])] at enough
              omega
        obtain ⟨front, back, m, rfl, path, zero⟩ := ih enough'
        exact ⟨a :: front, back, m, rfl, .step taken path, zero⟩

end ActionSystem
