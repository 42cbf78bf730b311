import CmsisCpp.ConditionVariable.Steps

/-! # Who holds what

Three invariants of every run: exactly the threads inside a critical section of
`m_mutex` hold it, a waiter holds the caller's lock where the code assumes so,
and a local semaphore is alive exactly from its construction to the end of its
call. -/
set_option autoImplicit false

namespace CmsisCpp.ConditionVariable

def Pc.holdsMutex : Pc → Bool
  | .insert | .unlockRegister | .unlockInsertFailed | .erase | .unlockErase => true
  | .front | .popFront | .releasing _ | .unlockNotify => true
  | _ => false

/-- The caller's lock is held.  An exception out of the acquisition is the only
way to `leave` without it. -/
def Pc.holdsLock : Pc → Bool
  | .semaphoreNew | .lockRegister | .insert | .unlockRegister => true
  | .unlockInsertFailed | .unlockUser | .lockErase | .erase | .unlockErase => true
  | .leave (.threw (.system _)) => false
  | .leave _ => true
  | _ => false

def Pc.hasSemaphore : Pc → Bool
  | .lockRegister | .insert | .unlockRegister | .unlockInsertFailed | .unlockUser => true
  | .acquire | .relock _ | .lockErase | .erase | .unlockErase | .leave _ => true
  | _ => false

section Frame
variable {freq : Int} {s s' : State} {t other : ThreadId} {answer : Answer}

theorem Taken.pc_other (taken : Taken freq s t answer s') (ne : other ≠ t) :
    s'.pc other = s.pc other := by
  cases taken <;>
    simp [State.goto, State.setSema, State.record, State.finish, State.unlockMutex, ne]

theorem Taken.calls_other (taken : Taken freq s t answer s') (ne : other ≠ t) :
    s'.calls other = s.calls other := by
  cases taken <;>
    simp [State.goto, State.setSema, State.record, State.finish, State.unlockMutex, ne]

theorem Taken.current_other (taken : Taken freq s t answer s') (ne : other ≠ t) :
    s'.current other = s.current other := by
  rw [State.current, State.current, taken.calls_other ne]

theorem Taken.args_other (taken : Taken freq s t answer s') (ne : other ≠ t) :
    s'.args other = s.args other := by
  cases taken <;>
    simp [State.goto, State.setSema, State.record, State.finish, State.unlockMutex, ne]

theorem ReleaseTarget.holdsMutex {c : Call} {next : Pc} (target : ReleaseTarget s t c next) :
    (s.pc t).holdsMutex = true ∧ next.holdsMutex = true := by
  cases target with
  | front pc list => exact ⟨by rw [pc]; rfl, rfl⟩
  | each pc => exact ⟨by rw [pc]; rfl, rfl⟩

theorem ReleaseTarget.not_inCall {c : Call} {next : Pc} (target : ReleaseTarget s t c next) :
    (s.pc t).holdsLock = false ∧ next.holdsLock = false ∧ (s.pc t).hasSemaphore = false ∧
      next.hasSemaphore = false := by
  cases target with
  | front pc list => simp [pc, Pc.holdsLock, Pc.hasSemaphore]
  | each pc => simp [pc, Pc.holdsLock, Pc.hasSemaphore]

end Frame

/-! ## Mutual exclusion on `m_mutex` -/

def MutexInv (s : State) : Prop := ∀ t, (s.pc t).holdsMutex = true ↔ s.mMutex = some t

theorem Taken.mutex {freq : Int} {s s' : State} {t : ThreadId} {answer : Answer}
    (taken : Taken freq s t answer s') :
    (s'.mMutex = s.mMutex ∧ (s'.pc t).holdsMutex = (s.pc t).holdsMutex) ∨
      (s.mMutex = none ∧ s'.mMutex = some t ∧ (s'.pc t).holdsMutex = true) ∨
      ((s.pc t).holdsMutex = true ∧ s'.mMutex = none ∧ (s'.pc t).holdsMutex = false) := by
  cases taken with
  | dangling target destroyed => exact .inl ⟨rfl, rfl⟩
  | overflowed target found full => exact .inl ⟨rfl, rfl⟩
  | released target found room =>
      refine .inl ⟨rfl, ?_⟩
      simp [State.goto, State.setSema, State.record, target.holdsMutex]
  | left pc => simp [State.goto, State.setSema, State.record, State.finish, pc, Pc.holdsMutex]
  | _ =>
      rename_i pc
      simp_all [State.goto, State.setSema, State.record, State.finish, State.unlockMutex,
        Pc.holdsMutex]

theorem Taken.mutexInv {freq : Int} {s s' : State} {t : ThreadId} {answer : Answer}
    (taken : Taken freq s t answer s') (inv : MutexInv s) : MutexInv s' := by
  intro other
  by_cases same : other = t
  · subst same
    rcases taken.mutex with ⟨mutex, kept⟩ | ⟨_, mutex, holds⟩ | ⟨_, mutex, holds⟩
    · rw [mutex, kept]
      exact inv other
    · simp [mutex, holds]
    · simp [mutex, holds]
  · rw [taken.pc_other same]
    rcases taken.mutex with ⟨mutex, _⟩ | ⟨free, mutex, _⟩ | ⟨held, mutex, _⟩
    · rw [mutex]
      exact inv other
    · have idle := (inv other).not.mpr (by simp [free])
      simp [mutex, idle, Ne.symm same]
    · have holder := (inv t).mp held
      have idle := (inv other).not.mpr (by simp [holder, Ne.symm same])
      simp [mutex, idle]

/-! ## The caller's lock -/

def LockInv (s : State) : Prop :=
  ∀ t, (s.pc t).holdsLock = true → s.owner (s.args t).lock = some t

section Lock
variable {freq : Int} {s s' : State} {t : ThreadId} {answer : Answer}

/-- A thread only takes free locks and only gives back its own. -/
theorem Taken.owner_other {l : LockId} {other : ThreadId} (taken : Taken freq s t answer s')
    (inv : LockInv s) (ne : other ≠ t) (owned : s.owner l = some other) :
    s'.owner l = some other := by
  cases taken with
  | @lock l' pc free =>
      have differs : l ≠ l' := by
        intro same
        rw [same, free] at owned
        contradiction
      simp [differs, owned]
  | @unlock l' pc mine =>
      have differs : l ≠ l' := by
        intro same
        rw [same, mine] at owned
        exact ne (Option.some.inj owned).symm
      simp [differs, owned]
  | unlockUser pc =>
      have mine := inv t (by rw [pc]; rfl)
      have differs : l ≠ (s.args t).lock := by
        intro same
        rw [same, mine] at owned
        exact ne (Option.some.inj owned).symm
      simp [State.goto, differs, owned]
  | relockNotified pc free | relockTimedOut pc free =>
      have differs : l ≠ (s.args t).lock := by
        intro same
        rw [same, free] at owned
        contradiction
      simp [State.goto, differs, owned]
  | _ =>
      simpa [State.goto, State.setSema, State.record, State.finish, State.unlockMutex] using owned

theorem Taken.lock_self (taken : Taken freq s t answer s') (inv : LockInv s)
    (holds : (s'.pc t).holdsLock = true) : s'.owner (s'.args t).lock = some t := by
  have before := inv t
  cases taken with
  | dangling target destroyed => exact before holds
  | overflowed target found full => exact before holds
  | released target found room =>
      simp [State.goto, State.setSema, State.record, target.not_inCall] at holds
  | @left exit pc =>
      simp [State.goto, State.setSema, State.record, State.finish, Pc.holdsLock] at holds
  | _ =>
      rename_i pc
      simp_all [State.goto, State.setSema, State.record, State.finish, State.unlockMutex,
        Pc.holdsLock]

theorem Taken.lockInv (taken : Taken freq s t answer s') (inv : LockInv s) : LockInv s' := by
  intro other holds
  by_cases same : other = t
  · subst same
    exact taken.lock_self inv holds
  · rw [taken.args_other same]
    rw [taken.pc_other same] at holds
    exact taken.owner_other inv same (inv other holds)

end Lock

/-! ## The life of a local semaphore -/

structure SemaInv (s : State) : Prop where
  alive : ∀ t, (s.pc t).hasSemaphore = true → ∃ sema, s.sema (s.current t) = some sema
  only : ∀ c sema, s.sema c = some sema →
    c.seq = s.calls c.thread ∧ (s.pc c.thread).hasSemaphore = true

section Semaphores
variable {freq : Int} {s s' : State} {t : ThreadId} {answer : Answer}

theorem eq_current_iff {c : Call} : c = s.current t ↔ c.thread = t ∧ c.seq = s.calls t := by
  cases c
  simp [State.current]

theorem ne_current {c : Call} (s : State) (ne : c.thread ≠ t) : c ≠ s.current t :=
  fun same => ne (eq_current_iff.mp same).1

/-- Only the call's own thread constructs and destroys its semaphore. -/
theorem Taken.sema_other {c : Call} (taken : Taken freq s t answer s')
    (differs : c ≠ s.current t) :
    (s'.sema c = s.sema c) ∨
      ∃ sema, s.sema c = some sema ∧ sema.count < 1 ∧
        s'.sema c = some ⟨sema.id, sema.count + 1⟩ ∧ s'.log = s.log ++ [.released c] := by
  cases taken with
  | @released c' next sema target found room =>
      by_cases same : c = c'
      · subst same
        exact .inr ⟨sema, found, room,
          by simp [State.goto, State.setSema, State.record], rfl⟩
      · exact .inl (by simp [State.goto, State.setSema, State.record, same])
  | _ =>
      left
      simp [State.goto, State.setSema, State.record, State.finish, State.unlockMutex, differs]

theorem Taken.sema_self (taken : Taken freq s t answer s') (inv : SemaInv s)
    (has : (s'.pc t).hasSemaphore = true) : ∃ sema, s'.sema (s'.current t) = some sema := by
  have before := inv.alive t
  cases taken with
  | dangling target destroyed => exact before has
  | overflowed target found full => exact before has
  | released target found room =>
      simp [State.goto, State.setSema, State.record, target.not_inCall] at has
  | @left exit pc =>
      simp [State.goto, State.setSema, State.record, State.finish, Pc.hasSemaphore] at has
  | _ =>
      rename_i pc
      simp_all [State.goto, State.setSema, State.record, State.finish, State.unlockMutex,
        State.current, Pc.hasSemaphore]

theorem Taken.sema_only {c : Call} {sema : LocalSemaphore} (taken : Taken freq s t answer s')
    (inv : SemaInv s) (found : s'.sema c = some sema) (own : c.thread = t) :
    c.seq = s'.calls c.thread ∧ (s'.pc c.thread).hasSemaphore = true := by
  have before := inv.only c
  rw [own] at before ⊢
  by_cases same : c = s.current t
  · have seq := (eq_current_iff.mp same).2
    cases taken with
    | dangling target destroyed => exact before sema found
    | overflowed target existed full => exact before sema found
    | @released c' next raised target existed room =>
        obtain ⟨old, existed⟩ : ∃ old, s.sema c = some old := by
          by_cases hit : c = c'
          · exact ⟨raised, hit ▸ existed⟩
          · exact ⟨sema, by simpa [State.goto, State.setSema, State.record, hit] using found⟩
        simp [target.not_inCall] at before
        exact absurd existed (before old)
    | @left exit pc =>
        simp [State.goto, State.setSema, State.record, State.finish, same] at found
    | _ =>
        rename_i pc
        simp_all [State.goto, State.setSema, State.record, State.finish, State.unlockMutex,
          Pc.hasSemaphore]
  · -- a call that is over has no semaphore, and a step does not bring it back
    have absent : s.sema c = none := by
      cases existed : s.sema c with
      | none => rfl
      | some old => exact absurd (eq_current_iff.mpr ⟨own, (before old existed).1⟩) same
    rcases taken.sema_other same with kept | ⟨_, existed, _⟩
    · simp [kept, absent] at found
    · simp [absent] at existed

theorem Taken.semaInv (taken : Taken freq s t answer s') (inv : SemaInv s) : SemaInv s' where
  alive other has := by
    by_cases same : other = t
    · subst same
      exact taken.sema_self inv has
    · rw [taken.pc_other same] at has
      obtain ⟨sema, found⟩ := inv.alive other has
      rw [taken.current_other same]
      have different := ne_current s (c := s.current other) same
      rcases taken.sema_other different with kept | ⟨_, _, _, raised, _⟩
      · exact ⟨sema, by rw [kept, found]⟩
      · exact ⟨_, raised⟩
  only c sema found := by
    by_cases same : c.thread = t
    · exact taken.sema_only inv found same
    · rw [taken.pc_other same, taken.calls_other same]
      rcases taken.sema_other (ne_current s same) with kept | ⟨_, existed, _, _, _⟩
      · exact inv.only c sema (by rw [← kept, found])
      · exact inv.only c _ existed

end Semaphores

end CmsisCpp.ConditionVariable
