import CmsisCpp.Semaphore

/-! # Releasing several tokens

Source: `base_semaphore::release` in `src/Semaphore.cpp`.  The tokens are released one
by one, and the first refusal of the kernel throws, wherever the loop is.  The loop
runs while `update--` is not zero: a negative `update` has no end of its own but the
overflow of the counter, which is undefined. -/
set_option autoImplicit false

namespace CmsisCpp.Semaphore

open CallScript

inductive ReleaseCall
  | osSemaphoreRelease (id : Handle)
  deriving DecidableEq, Repr

abbrev releaseSig : Signature where
  Call := ReleaseCall
  Reply
    | .osSemaphoreRelease _ => OsStatus

def ptrdiffMin : Int := -2147483648

inductive ReleaseEnd
  | thrown (error : SystemError)
  | undefined
  deriving DecidableEq, Repr

/-- `while (update--)` around one release. -/
def release (id : Handle) (update : Int) : Script releaseSig ReleaseEnd Unit :=
  if update ≤ ptrdiffMin then .throw .undefined
  else if update = 0 then .done ()
  else
    .ask (.osSemaphoreRelease id) fun (sta : OsStatus) =>
      if sta ≠ .osOK then .throw (.thrown (osFailure sta (strError "osSemaphoreRelease" id)))
      else release id (update - 1)
termination_by (update - ptrdiffMin).toNat
decreasing_by omega

def releaseKernel :
    (call : ReleaseCall) → OsSemaphore → releaseSig.Reply call × OsSemaphore
  | .osSemaphoreRelease _, s =>
      match s.give with
      | some given => (OsStatus.osOK, given)
      | none => (OsStatus.osErrorResource, s)

section Loop
variable (id : Handle)

theorem release_zero : release id 0 = .done () := by
  rw [release, if_neg (by decide), if_pos rfl]

theorem release_undefined {update : Int} (least : update ≤ ptrdiffMin) :
    release id update = .throw .undefined := by
  rw [release, if_pos least]

section Iteration
variable {update : Int} (inRange : ptrdiffMin < update) (nonzero : update ≠ 0)
include inRange nonzero

theorem release_run_of_lt {s : OsSemaphore} (fits : s.count < s.max) :
    (release id update).run releaseKernel s =
      (release id (update - 1)).run releaseKernel ⟨s.max, s.count + 1, fits⟩ := by
  rw [release, if_neg (by omega), if_neg nonzero, Script.run_ask]
  simp only [releaseKernel, OsSemaphore.give_of_lt fits, ne_eq, not_true_eq_false, if_false]

theorem release_run_of_full {s : OsSemaphore} (full : s.count = s.max) :
    ∃ error, (release id update).run releaseKernel s = (.error (.thrown error), s) := by
  refine ⟨osFailure .osErrorResource (strError "osSemaphoreRelease" id), ?_⟩
  rw [release, if_neg (by omega), if_neg nonzero, Script.run_ask]
  simp [releaseKernel, OsSemaphore.give_of_full full]

end Iteration

theorem release_run_fits : ∀ (update : Nat) {s : OsSemaphore}, s.count + update ≤ s.max →
    ∃ s', (release id update).run releaseKernel s = (.ok (), s') ∧
      s'.count = s.count + update := by
  intro update
  induction update with
  | zero =>
      intro s fits
      exact ⟨s, by rw [Nat.cast_zero, release_zero, Script.run_done], rfl⟩
  | succ update ih =>
      intro s fits
      have below : s.count < s.max := by omega
      have inRange : ptrdiffMin < (update + 1 : Nat) := by rw [ptrdiffMin]; omega
      have nonzero : ((update + 1 : Nat) : Int) ≠ 0 := by omega
      have earlier : ((update + 1 : Nat) : Int) - 1 = update := by omega
      rw [release_run_of_lt id inRange nonzero below, earlier]
      obtain ⟨s', returned, grown⟩ := ih (s := ⟨s.max, s.count + 1, below⟩) (by simp only; omega)
      refine ⟨s', returned, ?_⟩
      simp only at grown
      omega

/-- The loop does not end before the semaphore is full: it fills it and throws, or
runs its counter into the overflow. -/
theorem release_run_overruns : ∀ (room : Nat) {update : Int} {s : OsSemaphore},
    s.count + room = s.max → ptrdiffMin < update → update < 0 ∨ room < update →
      ∃ failure s', (release id update).run releaseKernel s = (.error failure, s') ∧
        (failure = .undefined ∨ s'.count = s.max) := by
  intro room
  induction room with
  | zero =>
      intro update s full inRange beyond
      obtain ⟨error, refused⟩ := release_run_of_full id inRange (by omega) (s := s) (by omega)
      exact ⟨_, s, refused, .inr (by omega)⟩
  | succ room ih =>
      intro update s spare inRange beyond
      have below : s.count < s.max := by omega
      rw [release_run_of_lt id inRange (by omega) below]
      by_cases least : update - 1 ≤ ptrdiffMin
      · rw [release_undefined id least]
        exact ⟨.undefined, _, rfl, .inl rfl⟩
      · exact ih (s := ⟨s.max, s.count + 1, below⟩) (by simp only; omega) (by omega) (by omega)

end Loop

/-- `release(update)` either returns and has added `update` tokens, or throws and has
added none. -/
def AllOrNothing (id : Handle) (update : Int) (s : OsSemaphore) : Prop :=
  (∃ s', (release id update).run releaseKernel s = (.ok (), s') ∧ s'.count = s.count + update) ∨
    ∃ error s', (release id update).run releaseKernel s = (.error (.thrown error), s') ∧
      s'.count = s.count

section Law
variable {id : Handle} {update : Int} {s : OsSemaphore}

theorem allOrNothing_of_fits (nonneg : 0 ≤ update) (fits : s.count + update ≤ s.max) :
    AllOrNothing id update s := by
  obtain ⟨tokens, rfl⟩ := Int.eq_ofNat_of_zero_le nonneg
  obtain ⟨s', returned, grown⟩ := release_run_fits id tokens (s := s) (by omega)
  exact .inl ⟨s', returned, by omega⟩

theorem allOrNothing_of_full (inRange : ptrdiffMin < update) (full : s.count = s.max) :
    AllOrNothing id update s := by
  by_cases zero : update = 0
  · apply allOrNothing_of_fits <;> omega
  · obtain ⟨error, refused⟩ := release_run_of_full id inRange zero full
    exact .inr ⟨error, s, refused, rfl⟩

theorem full_of_allOrNothing (inRange : ptrdiffMin < update)
    (beyond : update < 0 ∨ s.max < s.count + update) (law : AllOrNothing id update s) :
    s.count = s.max := by
  have bounded := s.bounded
  obtain ⟨failure, last, ended, atEnd⟩ :=
    @release_run_overruns id (s.max - s.count) update s (by omega) inRange (by omega)
  rcases law with ⟨s', returned, _⟩ | ⟨error, s', threw, unchanged⟩
  · rw [ended] at returned
    cases returned
  · rw [ended] at threw
    cases threw
    rcases atEnd with undefined | full
    · cases undefined
    · omega

end Law

/-- `release` is all or nothing exactly when the tokens fit or the first one is
refused. -/
theorem allOrNothing_iff (id : Handle) (update : Int) (s : OsSemaphore) :
    AllOrNothing id update s ↔
      (0 ≤ update ∧ s.count + update ≤ s.max) ∨ (ptrdiffMin < update ∧ s.count = s.max) := by
  constructor
  · intro law
    by_cases fits : 0 ≤ update ∧ s.count + update ≤ s.max
    · exact .inl fits
    · have inRange : ptrdiffMin < update := by
        by_contra least
        rw [AllOrNothing, release_undefined id (by omega)] at law
        rcases law with ⟨s', returned, _⟩ | ⟨error, s', threw, _⟩
        · cases returned
        · cases threw
      exact .inr ⟨inRange, full_of_allOrNothing inRange (by omega) law⟩
  · intro condition
    rcases condition with ⟨nonneg, fits⟩ | ⟨inRange, full⟩
    · exact allOrNothing_of_fits nonneg fits
    · exact allOrNothing_of_full inRange full

/-- Two tokens released where one fits: it stays, and the call throws. -/
theorem allOrNothing_overrun :
    ¬ ∀ (id : Handle) (update : Int) (s : OsSemaphore), AllOrNothing id update s := by
  intro claimed
  have law := claimed 1 2 ⟨2, 1, by decide⟩
  have full := full_of_allOrNothing (by decide) (.inr (by decide)) law
  exact absurd full (by decide)

end CmsisCpp.Semaphore
