import CmsisCpp.ConditionVariable.Model

/-! # What a step of a thread can do

`Taken freq s t answer s'` lists, one constructor each, the outcomes of a step of thread
`t` in a running state, with the guard under which it happens; `step_taken` is
the inversion of the executable step function.  Every invariant of the
condition variable is derived from `Taken` and never unfolds the step function. -/
set_option autoImplicit false

namespace CmsisCpp.ConditionVariable

open CallScript CmsisCpp.Semaphore

/-- The semaphore a notifier is about to release, and its next instruction. -/
inductive ReleaseTarget (s : State) (t : ThreadId) : Call → Pc → Prop
  | front {c : Call} {rest : List Call} (pc : s.pc t = .front) (list : s.mWait = c :: rest) :
      ReleaseTarget s t c .popFront
  | each {c : Call} {rest : List Call} (pc : s.pc t = .releasing (c :: rest)) :
      ReleaseTarget s t c (.releasing rest)

/-- `try_acquire_for` leaves by an exception: the duration is negative or the OS
answers with a status that is neither a token nor an expired timeout. -/
def AcquireThrows (freq usec : Int) (sta : OsStatus) : Prop :=
  usec < 0 ∨ ¬ (sta = .osOK ∨ sta = .osErrorTimeout ∨
    (timeoutTicks freq usec = 0 ∧ sta = .osErrorResource))

instance (freq usec : Int) (sta : OsStatus) : Decidable (AcquireThrows freq usec sta) :=
  inferInstanceAs (Decidable (_ ∨ ¬ _))

inductive Taken (freq : Int) (s : State) (t : ThreadId) (answer : Answer) : State → Prop
  | lock {l : LockId} (pc : s.pc t = .idle) (free : s.owner l = none) :
      Taken freq s t answer { s with owner := Function.update s.owner l (some t) }
  | unlock {l : LockId} (pc : s.pc t = .idle) (owned : s.owner l = some t) :
      Taken freq s t answer { s with owner := Function.update s.owner l none }
  | waitUnowned (pc : s.pc t = .idle) : Taken freq s t answer { s with status := .terminated }
  | waitStart {l : LockId} {usec : Int} (pc : s.pc t = .idle) (owned : s.owner l = some t) :
      Taken freq s t answer { s with
        calls := Function.update s.calls t (s.calls t + 1)
        args := Function.update s.args t ⟨l, usec⟩
        pc := Function.update s.pc t .semaphoreNew }
  | expired (pc : s.pc t = .idle) : Taken freq s t answer s
  | notifyOneStart (pc : s.pc t = .idle) : Taken freq s t answer (s.goto t .lockNotifyOne)
  | notifyAllStart (pc : s.pc t = .idle) : Taken freq s t answer (s.goto t .lockNotifyAll)
  | noSemaphore (pc : s.pc t = .semaphoreNew) :
      Taken freq s t answer (s.finish t (.threw (.system (osFailure .osError "osSemaphoreNew"))))
  | semaphore {id : Handle} (pc : s.pc t = .semaphoreNew) :
      Taken freq s t answer ((s.setSema (s.current t) (some ⟨id, 0⟩)).goto t .lockRegister)
  | lockRegister (pc : s.pc t = .lockRegister) (free : s.mMutex = none) :
      Taken freq s t answer ({ s with mMutex := some t }.goto t .insert)
  | inserted (pc : s.pc t = .insert) :
      Taken freq s t answer (({ s with mWait := s.mWait ++ [s.current t] }.record
        [.registered (s.current t)]).goto t .unlockRegister)
  | insertFailed (pc : s.pc t = .insert) : Taken freq s t answer (s.goto t .unlockInsertFailed)
  | unlockRegister (pc : s.pc t = .unlockRegister) :
      Taken freq s t answer (s.unlockMutex t .unlockUser)
  | unlockInsertFailed (pc : s.pc t = .unlockInsertFailed) :
      Taken freq s t answer (s.unlockMutex t (.leave (.threw .badAlloc)))
  | unlockUser (pc : s.pc t = .unlockUser) :
      Taken freq s t answer
        ({ s with owner := Function.update s.owner (s.args t).lock none }.goto t .acquire)
  | acquireThrew {sta : OsStatus} {error : SystemError} (pc : s.pc t = .acquire)
      (answered : answer = .status sta) (throws : AcquireThrows freq (s.args t).usec sta) :
      Taken freq s t answer (s.goto t (.leave (.threw (.system error))))
  | acquired {sema : LocalSemaphore} (pc : s.pc t = .acquire)
      (found : s.sema (s.current t) = some sema) (token : 0 < sema.count) :
      Taken freq s t answer
        ((s.setSema (s.current t) (some ⟨sema.id, sema.count - 1⟩)).goto t (.relock true))
  | timedOut {sema : LocalSemaphore} (pc : s.pc t = .acquire)
      (found : s.sema (s.current t) = some sema) (noToken : sema.count = 0)
      (finite : timeoutTicks freq (s.args t).usec ≠ osWaitForever) :
      Taken freq s t answer (s.goto t (.relock false))
  | relockNotified (pc : s.pc t = .relock true) (free : s.owner (s.args t).lock = none) :
      Taken freq s t answer ({ s with owner := Function.update s.owner (s.args t).lock (some t) }.goto t
        (.leave (.returned .noTimeout)))
  | relockTimedOut (pc : s.pc t = .relock false) (free : s.owner (s.args t).lock = none) :
      Taken freq s t answer
        ({ s with owner := Function.update s.owner (s.args t).lock (some t) }.goto t .lockErase)
  | lockErase (pc : s.pc t = .lockErase) (free : s.mMutex = none) :
      Taken freq s t answer ({ s with mMutex := some t }.goto t .erase)
  | erased (pc : s.pc t = .erase) (present : s.current t ∈ s.mWait) :
      Taken freq s t answer (({ s with mWait := s.mWait.erase (s.current t) }.record
        [.removed (s.current t)]).goto t .unlockErase)
  | eraseMissing (pc : s.pc t = .erase) (missing : s.current t ∉ s.mWait) :
      Taken freq s t answer ({ s with status := .undefined }.record [.removed (s.current t)])
  | unlockErase (pc : s.pc t = .unlockErase) :
      Taken freq s t answer (s.unlockMutex t (.leave (.returned .timeout)))
  | left {exit : Exit} (pc : s.pc t = .leave exit) :
      Taken freq s t answer ((s.setSema (s.current t) none).finish t exit)
  | lockNotifyOne (pc : s.pc t = .lockNotifyOne) (free : s.mMutex = none) :
      Taken freq s t answer ({ s with mMutex := some t }.goto t .front)
  | noWaiter (pc : s.pc t = .front) (list : s.mWait = []) :
      Taken freq s t answer (s.goto t .unlockNotify)
  | popEmpty (pc : s.pc t = .popFront) (list : s.mWait = []) :
      Taken freq s t answer { s with status := .undefined }
  | popped {c : Call} {rest : List Call} (pc : s.pc t = .popFront) (list : s.mWait = c :: rest) :
      Taken freq s t answer (({ s with mWait := rest }.record [.removed c]).goto t .unlockNotify)
  | lockNotifyAll (pc : s.pc t = .lockNotifyAll) (free : s.mMutex = none) :
      Taken freq s t answer ({ s with mMutex := some t }.goto t (.releasing s.mWait))
  | cleared (pc : s.pc t = .releasing []) :
      Taken freq s t answer
        (({ s with mWait := [] }.record (s.mWait.map .removed)).goto t .unlockNotify)
  | unlockNotify (pc : s.pc t = .unlockNotify) : Taken freq s t answer (s.unlockMutex t .idle)
  | dangling {c : Call} {next : Pc} (target : ReleaseTarget s t c next)
      (destroyed : s.sema c = none) : Taken freq s t answer { s with status := .undefined }
  | overflowed {c : Call} {next : Pc} {sema : LocalSemaphore} (target : ReleaseTarget s t c next)
      (found : s.sema c = some sema) (full : ¬ sema.count < 1) :
      Taken freq s t answer { s with status := .terminated }
  | released {c : Call} {next : Pc} {sema : LocalSemaphore} (target : ReleaseTarget s t c next)
      (found : s.sema c = some sema) (room : sema.count < 1) :
      Taken freq s t answer (((s.setSema c (some ⟨sema.id, sema.count + 1⟩)).record
        [.released c]).goto t next)

section Inversion
variable {freq : Int} {s s' : State} {t : ThreadId} {answer : Answer}

theorem waitForUsec_taken (l : LockId) (usec : Int) (pc : s.pc t = .idle) :
    Taken freq s t answer (s.waitForUsec t l usec) := by
  rw [State.waitForUsec]
  split
  · rename_i owned
    exact .waitStart pc owned
  · exact .waitUnowned pc

theorem startOperation_taken {op : Operation} (pc : s.pc t = .idle)
    (started : s.startOperation t op = some s') : Taken freq s t answer s' := by
  cases op with
  | lock l =>
      simp only [State.startOperation, Option.ite_none_right_eq_some, Option.some.injEq] at started
      obtain ⟨free, rfl⟩ := started
      exact .lock pc free
  | unlock l =>
      simp only [State.startOperation, Option.ite_none_right_eq_some, Option.some.injEq] at started
      obtain ⟨owned, rfl⟩ := started
      exact .unlock pc owned
  | wait l =>
      cases started
      exact waitForUsec_taken l _ pc
  | waitFor l relTime =>
      cases started
      exact waitForUsec_taken l _ pc
  | waitUntil l relTime =>
      simp only [State.startOperation] at started
      split at started
      · cases started
        exact .expired pc
      · cases started
        exact waitForUsec_taken l _ pc
  | notifyOne =>
      cases started
      exact .notifyOneStart pc
  | notifyAll =>
      cases started
      exact .notifyAllStart pc

theorem release_taken {c : Call} {next : Pc} (target : ReleaseTarget s t c next) :
    Taken freq s t answer (s.release t c next) := by
  rw [State.release]
  split
  · rename_i destroyed
    exact .dangling target destroyed
  · rename_i sema found
    split
    · rename_i room
      exact .released target found room
    · rename_i full
      exact .overflowed target found full

theorem tryAcquire_taken {sta : OsStatus} (pc : s.pc t = .acquire)
    (taken : s.tryAcquire freq t sta = some s') : Taken freq s t (.status sta) s' := by
  cases found : s.sema (s.current t) with
  | none => simp [State.tryAcquire, found] at taken
  | some sema =>
      simp only [State.tryAcquire, found, Option.ite_none_right_eq_some] at taken
      obtain ⟨answers, outcome⟩ := taken
      rcases lt_or_ge (s.args t).usec 0 with negative | nonneg
      · rw [tryAcquireForUsec_negative sema.id negative, Script.eval_throw] at outcome
        cases outcome
        exact .acquireThrew pc rfl (.inl negative)
      · rw [tryAcquireForUsec_trace sema.id nonneg, List.forall_mem_singleton] at answers
        rw [tryAcquireForUsec_eval sema.id nonneg] at outcome
        by_cases ok : sta = .osOK
        · subst ok
          cases outcome
          exact .acquired pc found answers
        · rw [if_neg ok] at outcome
          by_cases expired : sta = .osErrorTimeout ∨
              (timeoutTicks freq (s.args t).usec = 0 ∧ sta = .osErrorResource)
          · rw [if_pos expired] at outcome
            cases outcome
            rcases expired with rfl | ⟨immediate, rfl⟩
            · exact .timedOut pc found answers.1 answers.2.2
            · refine .timedOut pc found answers.1 ?_
              rw [immediate, osWaitForever]
              decide
          · rw [if_neg expired] at outcome
            cases outcome
            exact .acquireThrew pc rfl (.inr fun answered => answered.elim ok expired)

theorem lockMutex_eq {pc : Pc} (taken : s.lockMutex t pc = some s') :
    s.mMutex = none ∧ { s with mMutex := some t }.goto t pc = s' := by
  simpa only [State.lockMutex, Option.ite_none_right_eq_some, Option.some.injEq] using taken

theorem instruction_taken (taken : s.instruction freq t answer = some s') :
    Taken freq s t answer s' := by
  unfold State.instruction at taken
  split at taken
  case h_1 id pc =>
      split at taken
      · cases taken
        exact .noSemaphore pc
      · cases taken
        exact .semaphore pc
  case h_2 pc =>
      obtain ⟨free, rfl⟩ := lockMutex_eq taken
      exact .lockRegister pc free
  case h_3 pc =>
      cases taken
      exact .inserted pc
  case h_4 pc =>
      cases taken
      exact .insertFailed pc
  case h_5 pc =>
      cases taken
      exact .unlockRegister pc
  case h_6 pc =>
      cases taken
      exact .unlockInsertFailed pc
  case h_7 pc =>
      cases taken
      exact .unlockUser pc
  case h_8 sta pc => exact tryAcquire_taken pc taken
  case h_9 st pc =>
      simp only [Option.ite_none_right_eq_some, Option.some.injEq] at taken
      obtain ⟨free, rfl⟩ := taken
      cases st with
      | true => exact .relockNotified pc free
      | false => exact .relockTimedOut pc free
  case h_10 pc =>
      obtain ⟨free, rfl⟩ := lockMutex_eq taken
      exact .lockErase pc free
  case h_11 pc =>
      split at taken
      · rename_i present
        cases taken
        exact .erased pc present
      · rename_i missing
        cases taken
        exact .eraseMissing pc missing
  case h_12 pc =>
      cases taken
      exact .unlockErase pc
  case h_13 exit pc =>
      cases taken
      exact .left pc
  case h_14 pc =>
      obtain ⟨free, rfl⟩ := lockMutex_eq taken
      exact .lockNotifyOne pc free
  case h_15 pc =>
      split at taken
      · rename_i list
        cases taken
        exact .noWaiter pc list
      · rename_i c rest list
        cases taken
        exact release_taken (.front pc list)
  case h_16 pc =>
      split at taken
      · rename_i list
        cases taken
        exact .popEmpty pc list
      · rename_i c rest list
        cases taken
        exact .popped pc list
  case h_17 pc =>
      obtain ⟨free, rfl⟩ := lockMutex_eq taken
      exact .lockNotifyAll pc free
  case h_18 c rest pc =>
      cases taken
      exact release_taken (.each pc)
  case h_19 pc =>
      cases taken
      exact .cleared pc
  case h_20 pc =>
      cases taken
      exact .unlockNotify pc
  case h_21 => contradiction

theorem step_taken {a : Action} (taken : s.step freq a = some s') :
    s.status = .running ∧ Taken freq s a.thread a.answer s' := by
  simp only [State.step, Option.ite_none_right_eq_some] at taken
  obtain ⟨running, taken⟩ := taken
  refine ⟨running, ?_⟩
  cases a with
  | start t op =>
      simp only [Option.ite_none_right_eq_some] at taken
      exact startOperation_taken taken.1 taken.2
  | next t answer => exact instruction_taken taken

end Inversion

end CmsisCpp.ConditionVariable
