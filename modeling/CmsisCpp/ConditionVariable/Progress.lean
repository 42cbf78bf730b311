import CmsisCpp.ConditionVariable.UntimedWait
import CmsisCpp.Library.Progress

/-! # What a thread can be held up by

The holder of `m_mutex` can always take its next step and gives the mutex back
after a number of its own steps that the length of `m_wait` bounds.  So a thread
inside an operation is held up only by the holder of `m_mutex`, by the owner of
its own lock, or as a waiter that nobody has notified and that waits forever. -/
set_option autoImplicit false

namespace CmsisCpp.ConditionVariable

open ActionSystem CallScript CmsisCpp.Semaphore

/-- The steps a thread takes until it leaves its critical section. -/
def Pc.sectionLeft : Pc → Nat
  | .insert => 2
  | .unlockRegister | .unlockInsertFailed => 1
  | .erase => 2
  | .unlockErase => 1
  | .front => 3
  | .popFront => 2
  | .releasing rest => rest.length + 2
  | .unlockNotify => 1
  | _ => 0

def State.sectionLeft (s : State) (t : ThreadId) : Nat :=
  if s.status = .running then (s.pc t).sectionLeft else 0

theorem Pc.sectionLeft_pos_iff {pc : Pc} : 0 < pc.sectionLeft ↔ pc.holdsMutex = true := by
  cases pc <;> simp [Pc.sectionLeft, Pc.holdsMutex]

section Step
variable {freq : Int} {s s' : State} {t : ThreadId} {answer : Answer}

theorem Taken.sectionLeft_self (taken : Taken freq s t answer s') (inside : 0 < (s.pc t).sectionLeft) :
    s'.status ≠ .running ∨ (s'.pc t).sectionLeft < (s.pc t).sectionLeft := by
  cases taken with
  | dangling target destroyed => exact .inl (by simp)
  | overflowed target found full => exact .inl (by simp)
  | eraseMissing pc missing => exact .inl (by simp [State.record])
  | popEmpty pc list => exact .inl (by simp)
  | released target found room =>
      right
      cases target with
      | front pc list => simp [State.goto, pc, Pc.sectionLeft]
      | each pc => simp [State.goto, pc, Pc.sectionLeft]
  | left pc => simp [pc, Pc.sectionLeft] at inside
  | _ =>
      rename_i pc
      simp_all [State.goto, State.record, State.unlockMutex, Pc.sectionLeft]

theorem sectionLeft_kept {a : Action} (stepped : s.step freq a = some s')
    (different : a.thread ≠ t) : s'.sectionLeft t ≤ s.sectionLeft t := by
  obtain ⟨running, taken⟩ := step_taken stepped
  rw [State.sectionLeft, State.sectionLeft, if_pos running, taken.pc_other (Ne.symm different)]
  split
  · exact le_rfl
  · exact Nat.zero_le _

theorem sectionLeft_falls {a : Action} (stepped : s.step freq a = some s')
    (own : a.thread = t) (inside : 0 < s.sectionLeft t) : s'.sectionLeft t < s.sectionLeft t := by
  obtain ⟨running, taken⟩ := step_taken stepped
  rw [own] at taken
  have before : s.sectionLeft t = (s.pc t).sectionLeft := if_pos running
  rw [before] at inside ⊢
  rcases taken.sectionLeft_self inside with ended | lower
  · rwa [State.sectionLeft, if_neg ended]
  · rw [State.sectionLeft]
    split
    · exact lower
    · exact inside

end Step

/-! ## The holder of `m_mutex` -/

/-- The OS answers as it should: an acquisition ends with a token, or without one
because none was there or the time was over. -/
def Answer.OfWorkingOs : Answer → Prop
  | .status sta => sta = .osOK ∨ sta = .osErrorTimeout ∨ sta = .osErrorResource
  | _ => True

def State.GoesOn (freq : Int) (s : State) (t : ThreadId) : Prop :=
  ∃ answer, answer.OfWorkingOs ∧ (s.instruction freq t answer).isSome

section Holder
variable {freq : Int} {s : State} {t : ThreadId}

/-- The next instruction of the holder waits for nothing. -/
theorem holder_goesOn (holds : (s.pc t).holdsMutex = true) : s.GoesOn freq t := by
  cases pc : s.pc t with
  | insert =>
      exact ⟨.allocated true, trivial, by simp only [State.instruction, pc, Option.isSome_some]⟩
  | erase =>
      refine ⟨.done, trivial, ?_⟩
      simp only [State.instruction, pc]
      split <;> rfl
  | front =>
      refine ⟨.done, trivial, ?_⟩
      simp only [State.instruction, pc]
      split <;> rfl
  | popFront =>
      refine ⟨.done, trivial, ?_⟩
      simp only [State.instruction, pc]
      split <;> rfl
  | releasing rest =>
      refine ⟨.done, trivial, ?_⟩
      cases rest <;> simp only [State.instruction, pc, Option.isSome_some]
  | unlockRegister | unlockInsertFailed | unlockErase | unlockNotify =>
      exact ⟨.done, trivial, by simp only [State.instruction, pc, Option.isSome_some]⟩
  | _ => simp [pc, Pc.holdsMutex] at holds

theorem Invariants.sectionLeft_le (inv : Invariants freq s) : s.sectionLeft t ≤ s.mWait.length + 3 := by
  rw [State.sectionLeft]
  split
  · cases pc : s.pc t with
    | releasing rest =>
        obtain ⟨_, visited, list⟩ := inv.queue.list.releasing inv.mutex pc
        rw [list, List.length_append, Pc.sectionLeft]
        omega
    | _ =>
        simp only [Pc.sectionLeft]
        omega
  · omega

end Holder

/-- The holder `t` can go on, and however the threads take turns it has given
`m_mutex` back, or the program has ended, before it has taken more steps than
`m_wait` has nodes and three. -/
structure SectionEnds (freq : Int) (s : State) (t : ThreadId) : Prop where
  goesOn : s.GoesOn freq t
  bounded : ∀ more s', (system freq).Path s more s' →
    s.mWait.length + 3 ≤ more.countP (fun a => a.thread = t) →
      ∃ front back m, more = front ++ back ∧ (system freq).Path s front m ∧
        (m.mMutex ≠ some t ∨ m.status ≠ .running)

theorem run_sectionEnds {freq : Int} {allowed : State → Action → Prop} {acts : List Action}
    {s : State} {t : ThreadId} (run : Run (system freq) allowed acts s)
    (holder : s.mMutex = some t) : SectionEnds freq s t := by
  have inv := run_invariants run
  have holds := (inv.mutex t).mpr holder
  constructor
  · exact holder_goesOn holds
  · intro more s' path enough
    have bound := @Invariants.sectionLeft_le freq s t inv
    have kept : ∀ s a s', (system freq).step s a = some s' → decide (a.thread = t) = false →
        s'.sectionLeft t ≤ s.sectionLeft t := by
      intro s a s' stepped other
      exact sectionLeft_kept stepped (by simpa using other)
    have falls : ∀ s a s', (system freq).step s a = some s' → decide (a.thread = t) = true →
        0 < s.sectionLeft t → s'.sectionLeft t < s.sectionLeft t := by
      intro s a s' stepped own inside
      exact sectionLeft_falls stepped (by simpa using own) inside
    obtain ⟨front, back, m, split, reached, zero⟩ :=
      path.rank_zero kept falls (bound.trans enough)
    refine ⟨front, back, m, split, reached, ?_⟩
    have reachedInv := run_invariants ((run.mono fun _ _ _ => trivial).append_path reached)
    by_cases running : m.status = .running
    · left
      rw [State.sectionLeft, if_pos running] at zero
      rw [ne_eq, ← reachedInv.mutex t, ← Pc.sectionLeft_pos_iff]
      omega
    · exact .inr running

def notifying : List Action :=
  [.start 0 (.lock 0)] ++ register ++ [.start 1 .notifyAll, .next 1 .done]

theorem notifying_sectionEnds :
    ∃ s, Run (system 1000) Unrestricted notifying s ∧ SectionEnds 1000 s 1 := by
  have run : Run (system 1000) Unrestricted _ _ := Run.replayed notifying rfl
  exact ⟨_, run, run_sectionEnds run rfl⟩

/-! ## What holds a thread up -/

def Pc.unlocked : Pc → Bool
  | .acquire | .relock _ => true
  | _ => false

def Pc.lockingMutex : Pc → Bool
  | .lockRegister | .lockErase | .lockNotifyOne | .lockNotifyAll => true
  | _ => false

def UnlockedInv (s : State) : Prop :=
  ∀ t, (s.pc t).unlocked = true → s.owner (s.args t).lock ≠ some t

section Unlocked
variable {freq : Int} {s s' : State} {t : ThreadId} {answer : Answer}

theorem Taken.owner_before {l : LockId} {other : ThreadId} (taken : Taken freq s t answer s')
    (ne : other ≠ t) (owned : s'.owner l = some other) : s.owner l = some other := by
  cases taken with
  | @lock l' pc free =>
      by_cases same : l = l'
      · simp [same, Ne.symm ne] at owned
      · simpa [same] using owned
  | @unlock l' pc mine =>
      by_cases same : l = l'
      · simp [same] at owned
      · simpa [same] using owned
  | unlockUser pc =>
      by_cases same : l = (s.args t).lock
      · simp [State.goto, same] at owned
      · simpa [State.goto, same] using owned
  | relockNotified pc free | relockTimedOut pc free =>
      by_cases same : l = (s.args t).lock
      · simp [State.goto, same, Ne.symm ne] at owned
      · simpa [State.goto, same] using owned
  | _ =>
      simpa [State.goto, State.setSema, State.record, State.finish, State.unlockMutex] using owned

theorem Taken.unlocked_self (taken : Taken freq s t answer s')
    (before : (s.pc t).unlocked = true → s.owner (s.args t).lock ≠ some t)
    (unlocked : (s'.pc t).unlocked = true) : s'.owner (s'.args t).lock ≠ some t := by
  cases taken with
  | unlockUser pc => simp [State.goto]
  | dangling target destroyed => exact before unlocked
  | overflowed target found full => exact before unlocked
  | released target found room => cases target <;> simp [State.goto, Pc.unlocked] at unlocked
  | left pc => simp [State.finish, State.goto, Pc.unlocked] at unlocked
  | _ =>
      rename_i pc
      simp_all [State.goto, State.setSema, State.finish, State.record, State.unlockMutex,
        Pc.unlocked]

theorem Taken.unlockedInv (taken : Taken freq s t answer s') (inv : UnlockedInv s) :
    UnlockedInv s' := by
  intro other unlocked
  by_cases same : other = t
  · subst same
    exact taken.unlocked_self (inv other) unlocked
  · rw [taken.pc_other same] at unlocked
    rw [taken.args_other same]
    exact fun owned => inv other unlocked (taken.owner_before same owned)

end Unlocked

theorem run_unlockedInv {freq : Int} {allowed : State → Action → Prop} {acts : List Action}
    {s : State} (run : Run (system freq) allowed acts s) : UnlockedInv s := by
  refine run.invariant UnlockedInv ?_ ?_
  · intro t unlocked
    simp [system, State.initial, Pc.unlocked] at unlocked
  · intro s a s' inv _ stepped
    exact (step_taken stepped).2.unlockedInv inv

inductive HeldUp (freq : Int) (s : State) (t : ThreadId) : Prop
  | mutex {holder : ThreadId} (pc : (s.pc t).lockingMutex = true) (other : holder ≠ t)
      (held : s.mMutex = some holder)
  | lock {owner : ThreadId} {st : Bool} (pc : s.pc t = .relock st) (other : owner ≠ t)
      (owned : s.owner (s.args t).lock = some owner)
  | unnotified (pc : s.pc t = .acquire) (waits : s.current t ∈ s.waiters)
      (nonneg : 0 ≤ (s.args t).usec)
      (forever : timeoutTicks freq (s.args t).usec = osWaitForever)

section HeldUp
variable {freq : Int} {s : State} {t : ThreadId}

theorem lockMutex_isSome_iff (pc : Pc) : (s.lockMutex t pc).isSome ↔ s.mMutex = none := by
  rw [State.lockMutex]
  split <;> simp_all

/-- An acquisition of a working OS ends unless it waits forever for its token. -/
theorem acquire_goesOn_iff {sema : LocalSemaphore} (pc : s.pc t = .acquire)
    (found : s.sema (s.current t) = some sema) :
    s.GoesOn freq t ↔ 0 < sema.count ∨ (s.args t).usec < 0 ∨
      timeoutTicks freq (s.args t).usec ≠ osWaitForever := by
  constructor
  · rintro ⟨answer, working, executed⟩
    by_contra stuck
    rw [not_or, not_or, not_lt, not_lt, not_not] at stuck
    obtain ⟨noToken, nonneg, forever⟩ := stuck
    have notNow : ¬ osWaitForever = 0 := by decide
    cases answer with
    | status sta =>
        simp only [State.instruction, pc, State.tryAcquire, found,
          tryAcquireForUsec_trace sema.id nonneg, List.forall_mem_singleton, forever] at executed
        rcases working with rfl | rfl | rfl
        · simp [AcquireAnswer, Nat.le_zero.mp noToken] at executed
        · simp [AcquireAnswer] at executed
        · simp [AcquireAnswer, notNow] at executed
    | done => simp [State.instruction, pc] at executed
    | handle id => simp [State.instruction, pc] at executed
    | allocated ok => simp [State.instruction, pc] at executed
  · intro reasons
    rcases lt_or_ge (s.args t).usec 0 with negative | nonneg
    · refine ⟨.status .osOK, .inl rfl, ?_⟩
      simp [State.instruction, pc, State.tryAcquire, found,
        tryAcquireForUsec_negative sema.id negative]
    · by_cases token : 0 < sema.count
      · refine ⟨.status .osOK, .inl rfl, ?_⟩
        simp [State.instruction, pc, State.tryAcquire, found, AcquireAnswer, token,
          tryAcquireForUsec_trace sema.id nonneg, tryAcquireForUsec_eval sema.id nonneg]
      · have finite : timeoutTicks freq (s.args t).usec ≠ osWaitForever := by
          rcases reasons with token' | negative | finite
          · exact absurd token' token
          · omega
          · exact finite
        have empty : sema = ⟨sema.id, 0⟩ := by
          cases sema
          simp_all
        rw [empty] at found
        have expires := tryAcquire_expired found nonneg finite
        refine ⟨.status (expiredStatus (timeoutTicks freq (s.args t).usec)), ?_, ?_⟩
        · rw [expiredStatus]
          split
          · exact .inr (.inr rfl)
          · exact .inr (.inl rfl)
        · simp only [State.instruction, pc, expires, Option.isSome_some]

theorem acquire_heldUp_iff (inv : Invariants freq s) (pc : s.pc t = .acquire) :
    ¬ s.GoesOn freq t ↔ HeldUp freq s t := by
  obtain ⟨sema, found⟩ := inv.sema.alive t (by rw [pc]; rfl)
  rw [acquire_goesOn_iff pc found]
  constructor
  · intro stuck
    rw [not_or, not_or, not_lt, not_lt, not_not] at stuck
    obtain ⟨noToken, nonneg, forever⟩ := stuck
    rcases inv.queue.waiting t (by rw [pc]; rfl) with waits | ⟨sema', found', token⟩
    · exact .unnotified pc waits nonneg forever
    · rw [found] at found'
      cases found'
      omega
  · intro heldUp
    cases heldUp with
    | mutex locking _ _ => simp [pc, Pc.lockingMutex] at locking
    | lock relocking _ _ => simp [pc] at relocking
    | unnotified _ waits nonneg forever =>
        have empty : sema.count = 0 := by
          rcases inv.queue.members _ waits with ⟨_, _, id, shown⟩ | isOver
          · rw [found] at shown
            cases shown
            rfl
          · rcases isOver with earlier | ⟨_, outside⟩
            · exact absurd earlier (lt_irrefl _)
            · simp [State.current, pc, Pc.inCall, Pc.hasSemaphore] at outside
        rw [not_or, not_or]
        refine ⟨by omega, by omega, by simp [forever]⟩

theorem lockingMutex_heldUp_iff (inv : Invariants freq s) (pc : (s.pc t).lockingMutex = true) :
    ¬ s.GoesOn freq t ↔ HeldUp freq s t := by
  have outside : ∀ holder, s.mMutex = some holder → holder ≠ t := by
    rintro holder held rfl
    have inside := (inv.mutex holder).mpr held
    cases at_ : s.pc holder <;> simp_all [Pc.lockingMutex, Pc.holdsMutex]
  have goesOn : s.GoesOn freq t ↔ s.mMutex = none := by
    constructor
    · rintro ⟨answer, _, executed⟩
      cases at_ : s.pc t <;> cases answer <;>
        simp_all [Pc.lockingMutex, State.instruction, lockMutex_isSome_iff]
    · intro free
      refine ⟨.done, trivial, ?_⟩
      cases at_ : s.pc t <;> simp_all [Pc.lockingMutex, State.instruction, lockMutex_isSome_iff]
  rw [goesOn]
  constructor
  · intro held
    obtain ⟨holder, held⟩ := Option.ne_none_iff_exists'.mp held
    exact .mutex pc (outside holder held) held
  · intro heldUp
    cases heldUp with
    | mutex _ _ held => simp [held]
    | lock relocking _ _ => simp [relocking, Pc.lockingMutex] at pc
    | unnotified acquiring _ _ _ => simp [acquiring, Pc.lockingMutex] at pc

theorem relock_heldUp_iff {st : Bool} (unlocked : UnlockedInv s) (pc : s.pc t = .relock st) :
    ¬ s.GoesOn freq t ↔ HeldUp freq s t := by
  have notMine := unlocked t (by rw [pc]; rfl)
  have goesOn : s.GoesOn freq t ↔ s.owner (s.args t).lock = none := by
    constructor
    · rintro ⟨answer, _, executed⟩
      cases answer <;> simp_all [State.instruction]
    · intro free
      exact ⟨.done, trivial, by simp [State.instruction, pc, free]⟩
  rw [goesOn]
  constructor
  · intro owned
    obtain ⟨owner, owned⟩ := Option.ne_none_iff_exists'.mp owned
    refine .lock pc ?_ owned
    rintro rfl
    exact notMine owned
  · intro heldUp
    cases heldUp with
    | mutex locking _ _ => simp [pc, Pc.lockingMutex] at locking
    | lock _ _ owned => simp [owned]
    | unnotified acquiring _ _ _ => simp [pc] at acquiring

/-- The other instructions of an operation wait for nothing. -/
theorem goesOn_of_plain (busy : s.pc t ≠ .idle) (notLocking : (s.pc t).lockingMutex = false)
    (notUnlocked : (s.pc t).unlocked = false) : s.GoesOn freq t := by
  by_cases holds : (s.pc t).holdsMutex = true
  · exact holder_goesOn holds
  · cases pc : s.pc t with
    | semaphoreNew => exact ⟨.handle 0, trivial, by simp [State.instruction, pc]⟩
    | unlockUser | leave => exact ⟨.done, trivial, by simp [State.instruction, pc]⟩
    | _ => simp_all [Pc.lockingMutex, Pc.unlocked, Pc.holdsMutex]

theorem HeldUp.pc (heldUp : HeldUp freq s t) :
    (s.pc t).lockingMutex = true ∨ (s.pc t).unlocked = true := by
  cases heldUp with
  | mutex pc _ _ => exact .inl pc
  | lock pc _ _ => exact .inr (by rw [pc]; rfl)
  | unnotified pc _ _ _ => exact .inr (by rw [pc]; rfl)

end HeldUp

/-- In every state of every run a thread inside an operation does not go on exactly
when another thread holds `m_mutex`, another thread owns the lock it has to lock
again, or it waits forever in line. -/
theorem run_heldUp_iff {freq : Int} {allowed : State → Action → Prop} {acts : List Action}
    {s : State} {t : ThreadId} (run : Run (system freq) allowed acts s) (busy : s.pc t ≠ .idle) :
    ¬ s.GoesOn freq t ↔ HeldUp freq s t := by
  have inv := run_invariants run
  by_cases locking : (s.pc t).lockingMutex = true
  · exact lockingMutex_heldUp_iff inv locking
  · by_cases unlocked : (s.pc t).unlocked = true
    · cases pc : s.pc t with
      | acquire => exact acquire_heldUp_iff inv pc
      | relock st => exact relock_heldUp_iff (run_unlockedInv run) pc
      | _ => simp [pc, Pc.unlocked] at unlocked
    · rw [Bool.not_eq_true] at locking unlocked
      refine iff_of_false (fun stuck => stuck (goesOn_of_plain busy locking unlocked)) ?_
      intro heldUp
      rcases heldUp.pc with locking' | unlocked'
      · simp [locking] at locking'
      · simp [unlocked] at unlocked'

def comingLate : List Action :=
  notifying ++ [.start 2 (.lock 1), .start 2 (.wait 1), .next 2 (.handle 2)]

theorem comingLate_heldUp :
    ∃ s, Run (system 1000) Unrestricted comingLate s ∧ (¬ s.GoesOn 1000 2 ↔ HeldUp 1000 s 2) := by
  have run : Run (system 1000) Unrestricted _ _ := Run.replayed comingLate rfl
  exact ⟨_, run, run_heldUp_iff run (by decide)⟩

end CmsisCpp.ConditionVariable
