import CmsisCpp.Thread.Ownership

/-! # `joinable` and `get_id`

`joinable` reads the flag that a join or detach sets, `get_id` whether there is a
`thread_impl` at all; a join or detach does not let go of it. -/
set_option autoImplicit false

namespace CmsisCpp.Thread

open ActionSystem CallScript

/-- The law of `std::thread`; an object that was moved from has no identifier. -/
structure FollowsStd (s : State) : Prop where
  law : ∀ o obj, s.objs o = some obj →
    (joinable (s.pThread obj) = true ↔ getId (s.pThread obj) ≠ 0)
  movedFrom : ∀ o source env s', s.step (.user (.moveConstruct o source) env) = some s' ∨
      s.step (.user (.moveAssign o source) env) = some s' → s'.status = .running →
    ∀ obj, s'.objs source = some obj → getId (s'.pThread obj) = 0

def joinStatus (env : Environment) (os : OsState) (id : Handle) : OsStatus :=
  (kernel env (.osThreadJoin id) os).1

def detachStatus (env : Environment) (os : OsState) (id : Handle) : OsStatus :=
  (kernel env (.osThreadDetach id) os).1

/-- A join is called on no joinable object, by the thread itself or outside of any
thread, or the OS refuses it. -/
def JoinRefused (env : Environment) (os : OsState) (pThread : Option ThreadImpl) : Prop :=
  ∀ impl ∈ pThread, impl.joinable = true → env.caller ≠ 0 → impl.id ≠ env.caller →
    joinStatus env os impl.id ≠ .osOK

def DetachRefused (env : Environment) (os : OsState) (pThread : Option ThreadImpl) : Prop :=
  ∀ impl ∈ pThread, impl.joinable = true → detachStatus env os impl.id ≠ .osOK

def Refused (s : State) : Action → Prop
  | .user (.join o) env => ∀ obj ∈ s.objs o, JoinRefused env s.os (s.pThread obj)
  | .user (.detach o) env => ∀ obj ∈ s.objs o, DetachRefused env s.os (s.pThread obj)
  | _ => True

section Decide
variable (env : Environment) (os : OsState) (pThread : Option ThreadImpl)

instance : Decidable (JoinRefused env os pThread) :=
  inferInstanceAs (Decidable (∀ impl ∈ pThread, _ → _ → _ → joinStatus env os impl.id ≠ .osOK))

instance : Decidable (DetachRefused env os pThread) :=
  inferInstanceAs (Decidable (∀ impl ∈ pThread, _ → detachStatus env os impl.id ≠ .osOK))

instance (s : State) : (a : Action) → Decidable (Refused s a)
  | .user (.join o) env =>
      inferInstanceAs (Decidable (∀ obj ∈ s.objs o, JoinRefused env s.os (s.pThread obj)))
  | .user (.detach o) env =>
      inferInstanceAs (Decidable (∀ obj ∈ s.objs o, DetachRefused env s.os (s.pThread obj)))
  | .user (.default _) _ => .isTrue trivial
  | .user (.construct _ _) _ => .isTrue trivial
  | .user (.moveConstruct _ _) _ => .isTrue trivial
  | .user (.moveAssign _ _) _ => .isTrue trivial
  | .user (.swap _ _) _ => .isTrue trivial
  | .user (.destroy _) _ => .isTrue trivial
  | .finish _ => .isTrue trivial

end Decide

def Unclaimed (s : State) : Prop := ∀ i impl, s.impls i = some impl → impl.detached = false

/-! ## A refused call claims nothing -/

section Calls
variable {s : State} {env : Environment} {os : OsState} {obj : Option ImplId}

theorem ThreadImpl.join_isOk_iff (impl : ThreadImpl) :
    ((impl.join).run (kernel env) os).1.isOk = true ↔ joinStatus env os impl.id = .osOK := by
  rw [ThreadImpl.join, Script.run_ask, joinStatus]
  split
  · rename_i refused
    exact iff_of_false Bool.false_ne_true refused
  · rename_i accepted
    exact iff_of_true rfl (not_not.mp accepted)

theorem ThreadImpl.detach_isOk_iff (impl : ThreadImpl) :
    ((impl.detach).run (kernel env) os).1.isOk = true ↔ detachStatus env os impl.id = .osOK := by
  rw [ThreadImpl.detach, Script.run_ask, detachStatus]
  split
  · rename_i refused
    exact iff_of_false Bool.false_ne_true refused
  · rename_i accepted
    exact iff_of_true rfl (not_not.mp accepted)

theorem join_isOk_iff (pThread : Option ThreadImpl) :
    ((join pThread).run (kernel env) os).1.isOk = true ↔ ¬ JoinRefused env os pThread := by
  cases pThread with
  | none => simp [join, JoinRefused, Except.isOk, Except.toBool]
  | some impl =>
      simp only [JoinRefused, Option.mem_def, Option.some.injEq, forall_eq']
      by_cases joinable : impl.joinable = true
      · by_cases null : env.caller = 0
        · simp [join, joinable, Script.run_bind, thisThreadGetId, kernel, null, Except.isOk,
            Except.toBool]
        · by_cases own : impl.id = env.caller
          · simp [join, joinable, Script.run_bind, thisThreadGetId, kernel, null, own, Except.isOk,
              Except.toBool]
          · rw [join_called env os joinable null own, impl.join_isOk_iff]
            simp [joinable, null, own]
      · simp [join, joinable, Except.isOk, Except.toBool]

theorem detach_isOk_iff (pThread : Option ThreadImpl) :
    ((detach pThread).run (kernel env) os).1.isOk = true ↔ ¬ DetachRefused env os pThread := by
  cases pThread with
  | none => simp [detach, DetachRefused, Except.isOk, Except.toBool]
  | some impl =>
      simp only [detach, DetachRefused, Option.mem_def, Option.some.injEq, forall_eq']
      by_cases joinable : impl.joinable = true
      · simp only [joinable, Bool.true_eq_false, if_false, impl.detach_isOk_iff, ne_eq,
          forall_const, not_not]
      · simp [joinable, Except.isOk, Except.toBool]

theorem claimedBy_join_eq_nil :
    s.claimedBy env obj join = [] ↔ JoinRefused env s.os (s.pThread obj) := by
  rw [← not_iff_not, ← join_isOk_iff, State.claimedBy, State.call]
  rcases join_run env s.os (s.pThread obj) with ⟨_, _, _, _, present, _, run⟩ | ⟨error, run⟩
  · simp [run, State.serials, present, Except.isOk, Except.toBool]
  · simp [run, Except.isOk, Except.toBool]

theorem claimedBy_detach_eq_nil :
    s.claimedBy env obj detach = [] ↔ DetachRefused env s.os (s.pThread obj) := by
  rw [← not_iff_not, ← detach_isOk_iff, State.claimedBy, State.call]
  rcases detach_run env s.os (s.pThread obj) with ⟨_, _, _, _, present, run⟩ | ⟨error, run⟩
  · simp [run, State.serials, present, Except.isOk, Except.toBool]
  · simp [run, Except.isOk, Except.toBool]

theorem refused_iff (s : State) (a : Action) : Refused s a ↔ s.claims a = [] := by
  cases a with
  | finish id => exact iff_of_true trivial rfl
  | user op env =>
      cases op with
      | join o =>
          cases present : s.objs o with
          | none => simp [Refused, State.claims, present]
          | some obj => simp [Refused, State.claims, present, claimedBy_join_eq_nil]
      | detach o =>
          cases present : s.objs o with
          | none => simp [Refused, State.claims, present]
          | some obj => simp [Refused, State.claims, present, claimedBy_detach_eq_nil]
      | _ => exact iff_of_true trivial rfl

end Calls

/-! ## The law -/

section Law
variable {s s' : State} {a : Action}

/-- The law holds exactly while no `thread_impl` was joined or detached. -/
theorem law_iff_unclaimed (inv : ImplInv s) :
    (∀ o obj, s.objs o = some obj →
      (joinable (s.pThread obj) = true ↔ getId (s.pThread obj) ≠ 0)) ↔ Unclaimed s := by
  constructor
  · intro law i impl found
    obtain ⟨o, held⟩ := inv.owned.held i (by simp [State.estate, found])
    have observed := law o (some i) (estate_holds.mp held)
    simpa [State.pThread, found, joinable, ThreadImpl.joinable, getId, inv.valid i impl found]
      using observed
  · intro unclaimed o obj owned
    cases obj with
    | none => simp [State.pThread, joinable, getId]
    | some i =>
        have isLive := inv.owned.live o i (estate_holds.mpr owned)
        obtain ⟨impl, found⟩ := Option.isSome_iff_exists.mp isLive
        simp [State.pThread, found, joinable, ThreadImpl.joinable, getId,
          inv.valid i impl found, unclaimed i impl found]

theorem Taken.unclaimed_iff {new : List Nat} (taken : Taken s a new s') (before : Unclaimed s) :
    Unclaimed s' ↔ new = [] := by
  cases taken with
  | moved transfers => exact iff_of_true before rfl
  | terminated => exact iff_of_true before rfl
  | finished present => exact iff_of_true before rfl
  | @constructed o id absent valid free =>
      refine iff_of_true ?_ rfl
      intro i impl found
      by_cases new : i = s.allocated
      · have made : (⟨id, false⟩ : ThreadImpl) = impl := by
          simpa [new] using found
        rw [← made]
      · exact before i impl (by simpa [new] using found)
  | destroyed act owned found claimed =>
      rw [before _ _ found] at claimed
      contradiction
  | @joined o env i impl thread act owned found joinable present hasEnded =>
      refine iff_of_false ?_ (List.cons_ne_nil _ _)
      intro unclaimed
      have still := unclaimed i { impl with detached := true } (Function.update_self ..)
      contradiction
  | @detached o env i impl thread act owned found joinable present =>
      refine iff_of_false ?_ (List.cons_ne_nil _ _)
      intro unclaimed
      have still := unclaimed i { impl with detached := true } (Function.update_self ..)
      contradiction

theorem followsStd_of_unclaimed (inv : ImplInv s) (unclaimed : Unclaimed s) : FollowsStd s where
  law := (law_iff_unclaimed inv).mpr unclaimed
  movedFrom := by
    intro o source env s' moved running obj owned
    rcases moved with moved | moved
    · simp only [State.step, Option.ite_none_right_eq_some, State.userStep] at moved
      obtain ⟨_, moved⟩ := moved
      split at moved
      · rename_i obj' absent found
        cases moved
        have other : source ≠ o := by
          rintro rfl
          rw [absent] at found
          contradiction
        obtain rfl : none = obj := by simpa [State.setObj, other] using owned
        rfl
      · contradiction
    · simp only [State.step, Option.ite_none_right_eq_some, State.userStep] at moved
      obtain ⟨_, moved⟩ := moved
      split at moved
      · rename_i obj' obj'' found found'
        split at moved
        · cases moved
          contradiction
        · rename_i notJoinable
          cases moved
          obtain rfl : obj' = obj := by simpa [State.setObj] using owned
          have observed := (law_iff_unclaimed inv).mpr unclaimed o obj' found
          exact not_not.mp (mt observed.mpr notJoinable)
      · contradiction

end Law

/-- In a reachable state that follows the law, a step leads to another one exactly
when no join or detach succeeds in it. -/
theorem followsStd_step_iff {acts : List Action} {s s' : State} {a : Action}
    (run : Run system Unrestricted acts s) (law : FollowsStd s) (stepped : s.step a = some s') :
    FollowsStd s' ↔ Refused s a := by
  have inv := run_implInv run
  have inv' := (step_taken stepped).implInv inv
  have unclaimed := (law_iff_unclaimed inv).mp law.law
  rw [refused_iff, ← (step_taken stepped).unclaimed_iff unclaimed]
  constructor
  · intro law'
    exact (law_iff_unclaimed inv').mp law'.law
  · exact followsStd_of_unclaimed inv'

/-- In a run in which no join or detach succeeds, the objects follow the law of
`std::thread`. -/
theorem refused_followsStd {acts : List Action} {s : State} (run : Run system Refused acts s) :
    FollowsStd s := by
  have unclaimed : Unclaimed s := by
    refine run.invariant Unclaimed (by simp [Unclaimed, system, State.initial]) ?_
    intro s a s' before refused stepped
    exact ((step_taken stepped).unclaimed_iff before).mpr ((refused_iff s a).mp refused)
  exact followsStd_of_unclaimed (run_implInv run) unclaimed

def refusedAndMoved : List Action :=
  [.user (.construct 0 ⟨0, 0, osPriorityNone, none⟩) ⟨1, .osOK, 9⟩,
    .user (.join 0) ⟨0, .osErrorParameter, 9⟩, .user (.moveConstruct 1 0) ⟨0, .osOK, 9⟩]

theorem refusedAndMoved_followsStd :
    ∃ s, Run system Refused refusedAndMoved s ∧ FollowsStd s := by
  have run : Run system Refused _ _ := Run.replayed refusedAndMoved rfl
  exact ⟨_, run, refused_followsStd run⟩

/-- After the join the object is not joinable and still has its identifier. -/
def finishedAndJoined : List Action :=
  [.user (.construct 0 ⟨0, 0, osPriorityNone, none⟩) ⟨1, .osOK, 9⟩, .finish 1,
    .user (.join 0) ⟨0, .osOK, 9⟩]

theorem finishedAndJoined_keepsIdentifier :
    ¬ ∀ (acts : List Action) (s : State), Run system Unrestricted acts s → FollowsStd s := by
  intro claimed
  have run : Run system Unrestricted _ _ := Run.replayed finishedAndJoined rfl
  have observed := (claimed _ _ run).law 0 (some 0) rfl
  exact absurd (observed.mpr (by decide)) (by decide)

end CmsisCpp.Thread
