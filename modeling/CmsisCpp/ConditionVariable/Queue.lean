import CmsisCpp.ConditionVariable.Ownership

/-! # `m_wait` is the queue of unnotified waiters

The history of a run determines the queue of the calls that are registered and
neither notified nor withdrawn, in registration order (`State.waiters`).  Outside
the critical sections `m_wait` is this queue; inside them the notifier's program
counter says how far the two are apart.  A member of the queue has an empty
semaphore, or its call was left by an exception. -/
set_option autoImplicit false

namespace CmsisCpp.ConditionVariable

def waitersAfter (queue : List Call) : Event → List Call
  | .registered c => queue ++ [c]
  | .released c => queue.erase c
  | .removed c => queue.erase c
  | .left _ _ _ _ => queue

def waitersOf (log : List Event) : List Call := log.foldl waitersAfter []

def State.waiters (s : State) : List Call := waitersOf s.log

@[simp] theorem waitersOf_concat (log : List Event) (event : Event) :
    waitersOf (log ++ [event]) = waitersAfter (waitersOf log) event := by
  simp [waitersOf]

@[simp] theorem waiters_goto (s : State) (t : ThreadId) (pc : Pc) :
    (s.goto t pc).waiters = s.waiters := rfl

@[simp] theorem waiters_setSema (s : State) (c : Call) (sema : Option LocalSemaphore) :
    (s.setSema c sema).waiters = s.waiters := rfl

@[simp] theorem waiters_record (s : State) (event : Event) :
    (s.record [event]).waiters = waitersAfter s.waiters event :=
  waitersOf_concat s.log event

@[simp] theorem waiters_finish (s : State) (t : ThreadId) (exit : Exit) :
    (s.finish t exit).waiters = s.waiters :=
  waitersOf_concat s.log _

theorem waitersOf_removed (log : List Event) : ∀ cs : List Call,
    (∀ c ∈ cs, c ∉ waitersOf log) → waitersOf (log ++ cs.map .removed) = waitersOf log := by
  intro cs absent
  rw [waitersOf, List.foldl_append, List.foldl_map]
  change cs.foldl (fun queue c => queue.erase c) (waitersOf log) = waitersOf log
  induction cs with
  | nil => rfl
  | cons c rest ih =>
      rw [List.foldl_cons, List.erase_of_not_mem (absent c (by simp))]
      exact ih fun c' member => absent c' (by simp [member])

/-- Registered by its own thread and not yet past its `m_wait.erase`. -/
def Pc.registered : Pc → Bool
  | .unlockRegister | .unlockUser | .acquire | .relock false | .lockErase | .erase => true
  | .leave (.threw (.system _)) => true
  | _ => false

def Pc.waiting : Pc → Bool
  | .unlockRegister | .unlockUser | .acquire => true
  | _ => false

def Pc.inCall (pc : Pc) : Bool := pc = .semaphoreNew || pc.hasSemaphore

/-- The call is in progress, registered, and nobody has released its semaphore. -/
def Unsignalled (s : State) (c : Call) : Prop :=
  c.seq = s.calls c.thread ∧ (s.pc c.thread).registered = true ∧ ∃ id, s.sema c = some ⟨id, 0⟩

def Over (s : State) (c : Call) : Prop :=
  c.seq < s.calls c.thread ∨ (c.seq = s.calls c.thread ∧ (s.pc c.thread).inCall = false)

def QueueMatches (s : State) : Prop :=
  match s.mMutex with
  | none => s.mWait = s.waiters
  | some t =>
      match s.pc t with
      | .popFront => ∃ c, s.mWait = c :: s.waiters
      | .releasing rest => rest = s.waiters ∧ ∃ visited, s.mWait = visited ++ rest
      | _ => s.mWait = s.waiters

structure QueueInv (s : State) : Prop where
  nodup : s.mWait.Nodup
  list : QueueMatches s
  fresh : ∀ t, (s.pc t = .lockRegister ∨ s.pc t = .insert) →
    ∃ id, s.sema (s.current t) = some ⟨id, 0⟩
  members : ∀ c ∈ s.waiters, Unsignalled s c ∨ Over s c
  waiting : ∀ t, (s.pc t).waiting = true →
    s.current t ∈ s.waiters ∨ ∃ sema, s.sema (s.current t) = some sema ∧ 0 < sema.count

section Consequences
variable {freq : Int} {s s' : State} {t : ThreadId} {answer : Answer}

/-- The notifier in its loop, and the notifier between release and pop, aside,
the holder of `m_mutex` sees the queue itself. -/
theorem QueueMatches.of_holder (list : QueueMatches s) (mutex : MutexInv s)
    (holds : (s.pc t).holdsMutex = true) (notPop : s.pc t ≠ .popFront)
    (notLoop : ∀ rest, s.pc t ≠ .releasing rest) : s.mWait = s.waiters := by
  rw [QueueMatches, (mutex t).mp holds] at list
  split at list
  · contradiction
  · rename_i holder held
    cases held
    split at list
    · contradiction
    · rename_i rest pc
      exact absurd pc (notLoop rest)
    · exact list

theorem QueueMatches.popFront (list : QueueMatches s) (mutex : MutexInv s)
    (pc : s.pc t = .popFront) : ∃ c, s.mWait = c :: s.waiters := by
  have held := (mutex t).mp (by rw [pc]; rfl)
  simpa [QueueMatches, held, pc] using list

theorem QueueMatches.releasing {rest : List Call} (list : QueueMatches s) (mutex : MutexInv s)
    (pc : s.pc t = .releasing rest) :
    rest = s.waiters ∧ ∃ visited, s.mWait = visited ++ rest := by
  have held := (mutex t).mp (by rw [pc]; rfl)
  simpa [QueueMatches, held, pc] using list

theorem QueueMatches.target {c : Call} {next : Pc} (list : QueueMatches s) (mutex : MutexInv s)
    (target : ReleaseTarget s t c next) : ∃ rest, s.waiters = c :: rest := by
  cases target with
  | @front rest pc shown =>
      have same := list.of_holder mutex (t := t) (by rw [pc]; rfl) (by simp [pc]) (by simp [pc])
      exact ⟨rest, by rw [← same, shown]⟩
  | @each rest pc => exact ⟨rest, (list.releasing mutex pc).1.symm⟩

theorem QueueInv.waiters_nodup (inv : QueueInv s) : s.waiters.Nodup := by
  have list := inv.list
  have nodup := inv.nodup
  rw [QueueMatches] at list
  split at list
  · rwa [← list]
  · split at list
    · obtain ⟨c, shown⟩ := list
      rw [shown] at nodup
      exact (List.nodup_cons.mp nodup).2
    · obtain ⟨rfl, visited, shown⟩ := list
      rw [shown] at nodup
      exact (List.nodup_append.mp nodup).2.1
    · rwa [← list]

end Consequences

/-! ## What a step does to the queue -/

section Step
variable {freq : Int} {s s' : State} {t : ThreadId} {answer : Answer}

theorem ReleaseTarget.not_erase {c : Call} {next : Pc} (target : ReleaseTarget s t c next) :
    s.pc t ≠ .erase := by
  cases target <;> simp [*]

inductive QueueChange (s : State) (t : ThreadId) (s' : State) : Prop
  | same (waiters : s'.waiters = s.waiters) (notErase : s.pc t ≠ .erase)
  | inserted (pc : s.pc t = .insert) (waiters : s'.waiters = s.waiters ++ [s.current t])
  | erased (pc : s.pc t = .erase) (waiters : s'.waiters = s.waiters.erase (s.current t))
  | released {c : Call} {next : Pc} (target : ReleaseTarget s t c next)
      (waiters : s.waiters = c :: s'.waiters)

theorem Taken.queueChange (taken : Taken freq s t answer s') (mutex : MutexInv s)
    (inv : QueueInv s) : QueueChange s t s' := by
  cases taken with
  | inserted pc =>
      exact .inserted pc (by simp [State.waiters, State.goto, State.record, waitersAfter])
  | erased pc present =>
      exact .erased pc (by simp [State.waiters, State.goto, State.record, waitersAfter])
  | eraseMissing pc missing =>
      exact .erased pc (by simp [State.waiters, State.record, waitersAfter])
  | @popped c rest pc shown =>
      obtain ⟨c', same⟩ := inv.list.popFront mutex pc
      rw [shown, List.cons.injEq] at same
      have absent : c ∉ s.waiters := by
        have nodup := inv.nodup
        rw [shown, same.2] at nodup
        exact (List.nodup_cons.mp nodup).1
      refine .same ?_ (by simp [pc])
      simp only [State.waiters, State.goto, State.record, waitersOf_concat, waitersAfter]
      exact List.erase_of_not_mem absent
  | cleared pc =>
      have empty := (inv.list.releasing mutex pc).1
      refine .same ?_ (by simp [pc])
      simp only [State.waiters, State.goto, State.record]
      exact waitersOf_removed s.log s.mWait fun c _ => by
        rw [← State.waiters, ← empty]
        exact List.not_mem_nil
  | @released c next sema target found room =>
      obtain ⟨rest, shown⟩ := inv.list.target mutex target
      refine .released target ?_
      simp only [State.waiters, State.goto, State.setSema, State.record, waitersOf_concat,
        waitersAfter]
      rw [← State.waiters, shown, List.erase_cons_head]
  | left pc => exact .same (by simp) (by simp [pc])
  | noSemaphore pc => exact .same (by simp) (by simp [pc])
  | dangling target destroyed => exact .same rfl target.not_erase
  | overflowed target found full => exact .same rfl target.not_erase
  | _ =>
      rename_i pc
      exact .same rfl (by simp_all)

/-! ## The queue invariant is kept -/

theorem Pc.hasSemaphore_of_registered {pc : Pc} (registered : pc.registered = true) :
    pc.hasSemaphore = true := by
  cases pc <;> simp_all [Pc.registered, Pc.hasSemaphore]

theorem Taken.calls_le (taken : Taken freq s t answer s') : s.calls t ≤ s'.calls t := by
  cases taken <;>
    simp [State.goto, State.setSema, State.record, State.finish, State.unlockMutex]

theorem Taken.outside (taken : Taken freq s t answer s') (outside : (s.pc t).inCall = false) :
    s'.calls t = s.calls t + 1 ∨ (s'.calls t = s.calls t ∧ (s'.pc t).inCall = false) := by
  cases taken with
  | dangling target destroyed => exact .inr ⟨rfl, outside⟩
  | overflowed target found full => exact .inr ⟨rfl, outside⟩
  | released target found room =>
      refine .inr ⟨rfl, ?_⟩
      cases target <;>
        simp [State.goto, State.record, Pc.inCall, Pc.hasSemaphore]
  | left pc => simp [pc, Pc.inCall, Pc.hasSemaphore] at outside
  | _ =>
      rename_i pc
      simp_all [State.goto, State.record, State.unlockMutex, Pc.inCall, Pc.hasSemaphore]

theorem Taken.staysOver {c : Call} (taken : Taken freq s t answer s') (isOver : Over s c) :
    Over s' c := by
  by_cases own : c.thread = t
  · rw [Over, own] at isOver ⊢
    rcases isOver with earlier | ⟨seq, outside⟩
    · exact .inl (lt_of_lt_of_le earlier taken.calls_le)
    · rcases taken.outside outside with next | ⟨same, outside'⟩
      · exact .inl (by omega)
      · exact .inr ⟨by omega, outside'⟩
  · rw [Over, taken.pc_other own, taken.calls_other own]
    exact isOver

/-- A waiting call that this step neither withdraws nor releases keeps waiting,
unless an exception takes it away. -/
theorem Taken.unsignalled {c : Call} (taken : Taken freq s t answer s') (waiter : Unsignalled s c)
    (notWithdrawn : s.pc t = .erase → c ≠ s.current t)
    (notReleased : s'.log ≠ s.log ++ [.released c]) :
    Unsignalled s' c ∨ (Over s' c ∧ ∃ error, s.pc t = .leave (.threw (.system error))) := by
  by_cases own : c.thread = t
  · rw [Unsignalled, own] at waiter
    rw [Unsignalled, Over, own]
    obtain ⟨seq, registered, id, empty⟩ := waiter
    have isCurrent : c = s.current t := eq_current_iff.mpr ⟨own, seq⟩
    have hasSemaphore := Pc.hasSemaphore_of_registered registered
    cases taken with
    | unlockRegister pc =>
        exact .inl ⟨seq, by simp [State.unlockMutex, State.goto, Pc.registered], id, empty⟩
    | unlockUser pc => exact .inl ⟨seq, by simp [State.goto, Pc.registered], id, empty⟩
    | acquireThrew pc => exact .inl ⟨seq, by simp [State.goto, Pc.registered], id, empty⟩
    | timedOut pc => exact .inl ⟨seq, by simp [State.goto, Pc.registered], id, empty⟩
    | relockTimedOut pc => exact .inl ⟨seq, by simp [State.goto, Pc.registered], id, empty⟩
    | lockErase pc => exact .inl ⟨seq, by simp [State.goto, Pc.registered], id, empty⟩
    | acquired pc found token =>
        -- a waiter has no token to take
        rw [← isCurrent, empty, Option.some.injEq] at found
        simp [← found] at token
    | @left exit pc =>
        refine .inr ⟨.inr ⟨seq, ?_⟩, ?_⟩
        · simp [State.finish, State.record, State.setSema, State.goto, Pc.inCall,
            Pc.hasSemaphore]
        · rw [pc] at registered
          cases exit with
          | returned status => simp [Pc.registered] at registered
          | threw exn =>
              cases exn with
              | system error => exact ⟨error, pc⟩
              | badAlloc => simp [Pc.registered] at registered
    | erased pc => exact absurd isCurrent (notWithdrawn pc)
    | eraseMissing pc => exact absurd isCurrent (notWithdrawn pc)
    | released target | dangling target | overflowed target =>
        simp [target.not_inCall.2.2.1] at hasSemaphore
    | _ =>
        rename_i pc
        simp_all [Pc.registered]
  · have sema : s'.sema c = s.sema c := by
      rcases taken.sema_other (ne_current s own) with kept | ⟨_, _, _, _, released⟩
      · exact kept
      · exact absurd released notReleased
    left
    rw [Unsignalled, taken.pc_other own, taken.calls_other own, sema]
    exact waiter

theorem Taken.member {c : Call} (taken : Taken freq s t answer s')
    (member : Unsignalled s c ∨ Over s c) (notWithdrawn : s.pc t = .erase → c ≠ s.current t)
    (notReleased : s'.log ≠ s.log ++ [.released c]) : Unsignalled s' c ∨ Over s' c := by
  rcases member with waiter | isOver
  · rcases taken.unsignalled waiter notWithdrawn notReleased with waiter' | ⟨isOver, _⟩
    · exact .inl waiter'
    · exact .inr isOver
  · exact .inr (taken.staysOver isOver)

theorem QueueMatches.kept (list : QueueMatches s) (mutex : s'.mMutex = s.mMutex)
    (shown : s'.mWait = s.mWait) (waiters : s'.waiters = s.waiters)
    (holder : ∀ h, s.mMutex = some h → s'.pc h = s.pc h) : QueueMatches s' := by
  rw [QueueMatches, mutex, shown, waiters]
  rw [QueueMatches] at list
  cases held : s.mMutex with
  | none => simpa [held] using list
  | some h => simpa [held, holder h held] using list

theorem QueueMatches.of_eq (same : s'.mWait = s'.waiters)
    (plain : ∀ h, s'.mMutex = some h → s'.pc h ≠ .popFront ∧ ∀ rest, s'.pc h ≠ .releasing rest) :
    QueueMatches s' := by
  rw [QueueMatches]
  split
  · exact same
  · rename_i h held
    obtain ⟨notPop, notLoop⟩ := plain h held
    split
    · contradiction
    · rename_i rest pc
      exact absurd pc (notLoop rest)
    · exact same

/-- No thread but `t` can be inside, and `t` is at a plain step. -/
theorem QueueMatches.of_plain (holder : ∀ h, s'.mMutex = some h → h = t)
    (same : s'.mWait = s'.waiters)
    (plain : s'.pc t ≠ .popFront ∧ ∀ rest, s'.pc t ≠ .releasing rest) : QueueMatches s' := by
  refine .of_eq same ?_
  intro h held
  rw [holder h held]
  exact plain

theorem QueueMatches.of_free (list : QueueMatches s) (free : s.mMutex = none) :
    s.mWait = s.waiters := by
  simpa [QueueMatches, free] using list

theorem QueueMatches.of_loop {rest : List Call} (held : s'.mMutex = some t)
    (pc : s'.pc t = .releasing rest) (queue : rest = s'.waiters)
    (list : ∃ visited, s'.mWait = visited ++ rest) : QueueMatches s' := by
  rw [QueueMatches, held]
  simp only [pc]
  exact ⟨queue, list⟩

theorem QueueMatches.of_pop (held : s'.mMutex = some t) (pc : s'.pc t = .popFront)
    (list : ∃ c, s'.mWait = c :: s'.waiters) : QueueMatches s' := by
  rw [QueueMatches, held]
  simp only [pc]
  exact list

/-- The step of a thread inside its critical section. -/
theorem Taken.queueMatches_holder (taken : Taken freq s t answer s') (mutex : MutexInv s)
    (inv : QueueInv s) (holds : (s.pc t).holdsMutex = true) : QueueMatches s' := by
  have held := (mutex t).mp holds
  have shown := inv.list.of_holder mutex holds
  -- the holder of the successor state, when there is one, is still `t`
  have holder : ∀ h, s'.mMutex = some h → h = t := by
    intro h other
    rcases taken.mutex with ⟨kept, _⟩ | ⟨free, _⟩ | ⟨_, free, _⟩
    · rw [kept, held] at other
      exact (Option.some.inj other).symm
    · simp [held] at free
    · simp [free] at other
  cases taken with
  | inserted pc =>
      have same := shown (by simp [pc]) (by simp [pc])
      refine .of_plain holder ?_ (by simp [State.goto])
      rw [waiters_goto, waiters_record]
      exact congrArg (· ++ [s.current t]) same
  | insertFailed pc =>
      exact .of_plain holder (shown (by simp [pc]) (by simp [pc])) (by simp [State.goto])
  | unlockRegister pc | unlockInsertFailed pc | unlockErase pc | unlockNotify pc =>
      exact .of_eq (shown (by simp [pc]) (by simp [pc])) fun h other => by
        simp [State.unlockMutex, State.goto] at other
  | erased pc present =>
      have same := shown (by simp [pc]) (by simp [pc])
      refine .of_plain holder ?_ (by simp [State.goto])
      rw [waiters_goto, waiters_record]
      exact congrArg (·.erase (s.current t)) same
  | eraseMissing pc missing =>
      have same := shown (by simp [pc]) (by simp [pc])
      refine .of_plain holder ?_ (by simp [State.record, pc])
      rw [waiters_record]
      change s.mWait = s.waiters.erase (s.current t)
      rw [← same, List.erase_of_not_mem missing]
  | noWaiter pc list =>
      exact .of_plain holder (shown (by simp [pc]) (by simp [pc])) (by simp [State.goto])
  | popEmpty pc list => exact inv.list
  | @popped c rest pc list =>
      obtain ⟨c', queue⟩ := inv.list.popFront mutex pc
      have absent : c ∉ s.waiters := by
        have nodup := inv.nodup
        rw [queue] at list nodup
        rw [← (List.cons.inj list).1]
        exact (List.nodup_cons.mp nodup).1
      refine .of_plain holder ?_ (by simp [State.goto])
      rw [waiters_goto, waiters_record]
      change rest = s.waiters.erase c
      rw [List.erase_of_not_mem absent]
      exact (List.cons.inj (list.symm.trans queue)).2
  | cleared pc =>
      have empty := (inv.list.releasing mutex pc).1
      refine .of_plain holder ?_ (by simp [State.goto])
      change [] = waitersOf (s.log ++ s.mWait.map .removed)
      rw [waitersOf_removed s.log s.mWait fun c _ => by
        rw [← State.waiters, ← empty]
        exact List.not_mem_nil]
      exact empty
  | dangling target destroyed => exact inv.list
  | overflowed target found full => exact inv.list
  | @released c next sema target found room =>
      obtain ⟨rest, queue⟩ := inv.list.target mutex target
      have after : s.waiters.erase c = rest := by rw [queue, List.erase_cons_head]
      cases target with
      | @front shownRest pc list =>
          have same := shown (by simp [pc]) (by simp [pc])
          refine .of_pop held (by simp [State.goto]) ⟨c, ?_⟩
          rw [waiters_goto, waiters_record]
          change s.mWait = c :: s.waiters.erase c
          rw [after, same, queue]
      | @each loopRest pc =>
          obtain ⟨loop, visited, list⟩ := inv.list.releasing mutex pc
          have tail : loopRest = rest := (List.cons.inj (loop.trans queue)).2
          refine @QueueMatches.of_loop _ t loopRest held (by simp [State.goto]) ?_
            ⟨visited ++ [c], ?_⟩
          · rw [waiters_goto, waiters_record]
            change loopRest = s.waiters.erase c
            rw [after, tail]
          · change s.mWait = visited ++ [c] ++ loopRest
            rw [list, List.append_assoc]
            rfl
  | _ =>
      rename_i pc
      simp_all [Pc.holdsMutex]

theorem Taken.queueMatches (taken : Taken freq s t answer s') (mutex : MutexInv s)
    (inv : QueueInv s) : QueueMatches s' := by
  have list := inv.list
  by_cases holds : (s.pc t).holdsMutex = true
  · exact taken.queueMatches_holder mutex inv holds
  · have notHolder : ∀ h, s.mMutex = some h → s'.pc h = s.pc h := by
      intro h held
      refine taken.pc_other fun same => holds ?_
      exact (mutex t).mpr (same ▸ held)
    cases taken with
    | lockRegister pc free | lockErase pc free | lockNotifyOne pc free =>
        refine .of_eq (list.of_free free) fun h held => ?_
        obtain rfl : t = h := Option.some.inj held
        simp [State.goto]
    | lockNotifyAll pc free =>
        have shown := list.of_free free
        refine .of_loop rfl (by simp [State.goto]) shown ⟨[], rfl⟩
    | inserted pc | insertFailed pc | unlockRegister pc | unlockInsertFailed pc =>
        simp [pc, Pc.holdsMutex] at holds
    | erased pc | eraseMissing pc | unlockErase pc | noWaiter pc =>
        simp [pc, Pc.holdsMutex] at holds
    | popEmpty pc | popped pc | cleared pc | unlockNotify pc =>
        simp [pc, Pc.holdsMutex] at holds
    | released target | dangling target | overflowed target =>
        exact absurd target.holdsMutex.1 holds
    | left pc => exact list.kept rfl rfl (by simp) notHolder
    | noSemaphore pc => exact list.kept rfl rfl (by simp) notHolder
    | _ => exact list.kept rfl rfl rfl notHolder

theorem QueueInv.absent (inv : QueueInv s) (mutex : MutexInv s) (pc : s.pc t = .insert) :
    s.current t ∉ s.mWait := by
  rw [inv.list.of_holder mutex (t := t) (by rw [pc]; rfl) (by simp [pc]) (by simp [pc])]
  intro member
  rcases inv.members _ member with ⟨_, registered, _⟩ | earlier | ⟨_, outside⟩
  · simp [State.current, pc, Pc.registered] at registered
  · simp [State.current] at earlier
  · simp [State.current, pc, Pc.inCall, Pc.hasSemaphore] at outside

theorem Taken.mWait_nodup (taken : Taken freq s t answer s') (mutex : MutexInv s)
    (inv : QueueInv s) : s'.mWait.Nodup := by
  have nodup := inv.nodup
  cases taken with
  | inserted pc =>
      have absent := inv.absent mutex pc
      simp [State.goto, State.record, List.nodup_append, nodup]
      intro c member same
      exact absent (same ▸ member)
  | erased pc present => exact nodup.erase _
  | popped pc list =>
      rw [list] at nodup
      exact (List.nodup_cons.mp nodup).2
  | cleared pc => exact List.nodup_nil
  | _ => exact nodup

theorem Taken.inserted_unsignalled (taken : Taken freq s t answer s') (inv : QueueInv s)
    (pc : s.pc t = .insert) (entered : s'.waiters ≠ s.waiters) :
    Unsignalled s' (s.current t) := by
  obtain ⟨id, empty⟩ := inv.fresh t (.inr pc)
  cases taken with
  | inserted _ =>
      exact ⟨rfl, by simp [State.current, State.goto, Pc.registered], id, empty⟩
  | insertFailed _ => exact absurd rfl entered
  | dangling target destroyed => exact absurd rfl entered
  | overflowed target found full => exact absurd rfl entered
  | released target found room => cases target <;> simp_all
  | _ => simp_all

theorem Taken.members (taken : Taken freq s t answer s') (mutex : MutexInv s) (inv : QueueInv s) :
    ∀ c ∈ s'.waiters, Unsignalled s' c ∨ Over s' c := by
  intro c member
  have nodup := inv.waiters_nodup
  -- a released call is no longer in the queue
  have notReleased : s'.log ≠ s.log ++ [.released c] := by
    intro released
    rw [State.waiters, released, waitersOf_concat] at member
    exact (nodup.mem_erase_iff.mp member).1 rfl
  cases taken.queueChange mutex inv with
  | same waiters notErase =>
      rw [waiters] at member
      exact taken.member (inv.members c member) (fun pc => absurd pc notErase) notReleased
  | inserted pc waiters =>
      rw [waiters, List.mem_append, List.mem_singleton] at member
      rcases member with old | new
      · exact taken.member (inv.members c old) (by simp [pc]) notReleased
      · left
        rw [new]
        exact taken.inserted_unsignalled inv pc (by simp [waiters])
  | erased pc waiters =>
      rw [waiters] at member
      obtain ⟨differs, old⟩ := nodup.mem_erase_iff.mp member
      exact taken.member (inv.members c old) (fun _ => differs) notReleased
  | released target waiters =>
      have old : c ∈ s.waiters := by
        rw [waiters]
        exact List.mem_cons_of_mem _ member
      exact taken.member (inv.members c old) (fun pc => absurd pc target.not_erase) notReleased

theorem Taken.fresh_self (taken : Taken freq s t answer s') (inv : QueueInv s)
    (pc' : s'.pc t = .lockRegister ∨ s'.pc t = .insert) :
    ∃ id, s'.sema (s'.current t) = some ⟨id, 0⟩ := by
  have before := inv.fresh t
  cases taken with
  | @semaphore id pc =>
      exact ⟨id, by simp [State.goto, State.setSema, State.current]⟩
  | dangling target destroyed => exact before pc'
  | overflowed target found full => exact before pc'
  | released target found room =>
      cases target <;> simp [State.goto, State.record] at pc'
  | _ =>
      rename_i pc
      simp_all [State.goto, State.setSema, State.record, State.finish, State.unlockMutex,
        State.current]

theorem Taken.released_waiter {c : Call} (taken : Taken freq s t answer s') (mutex : MutexInv s)
    (inv : QueueInv s) (logged : s'.log = s.log ++ [.released c]) : c ∈ s.waiters := by
  cases taken with
  | @released c' next sema target found room =>
      have same : c' = c := by simpa [State.goto, State.record, State.setSema] using logged
      obtain ⟨rest, queue⟩ := inv.list.target mutex target
      simp [queue, same]
  | cleared pc =>
      simp only [State.goto, State.record, List.append_cancel_left_eq] at logged
      cases list : s.mWait <;> simp [list] at logged
  | _ =>
      simp [State.goto, State.record, State.setSema, State.finish, State.unlockMutex] at logged

theorem Taken.fresh (taken : Taken freq s t answer s') (mutex : MutexInv s) (inv : QueueInv s) :
    ∀ other, (s'.pc other = .lockRegister ∨ s'.pc other = .insert) →
      ∃ id, s'.sema (s'.current other) = some ⟨id, 0⟩ := by
  intro other pc
  by_cases same : other = t
  · subst same
    exact taken.fresh_self inv pc
  · rw [taken.pc_other same] at pc
    rw [taken.current_other same]
    have different := ne_current s (c := s.current other) same
    rcases taken.sema_other different with kept | ⟨_, _, _, _, logged⟩
    · rw [kept]
      exact inv.fresh other pc
    · -- the call is not in the queue yet
      exfalso
      rcases inv.members _ (taken.released_waiter mutex inv logged) with
        ⟨_, registered, _⟩ | earlier | ⟨_, outside⟩
      · rcases pc with pc | pc <;> simp [State.current, pc, Pc.registered] at registered
      · simp [State.current] at earlier
      · rcases pc with pc | pc <;>
          simp [State.current, pc, Pc.inCall, Pc.hasSemaphore] at outside

theorem Taken.waiting_self (taken : Taken freq s t answer s') (inv : QueueInv s)
    (waits : (s'.pc t).waiting = true) :
    s'.current t ∈ s'.waiters ∨ ∃ sema, s'.sema (s'.current t) = some sema ∧ 0 < sema.count := by
  have before := inv.waiting t
  cases taken with
  | inserted pc =>
      left
      rw [waiters_goto, waiters_record]
      exact List.mem_append_right _ (List.mem_singleton.mpr rfl)
  | unlockRegister pc => exact before (by rw [pc]; rfl)
  | unlockUser pc => exact before (by rw [pc]; rfl)
  | dangling target destroyed => exact before waits
  | overflowed target found full => exact before waits
  | released target found room =>
      cases target <;> simp [State.goto, Pc.waiting] at waits
  | left pc => simp [State.finish, State.goto, Pc.waiting] at waits
  | _ => simp_all [State.goto, State.finish, State.record, State.unlockMutex, Pc.waiting]

theorem ReleaseTarget.unique {c c' : Call} {next next' : Pc} (target : ReleaseTarget s t c next)
    (target' : ReleaseTarget s t c' next') : c = c' := by
  cases target <;> cases target' <;> simp_all

/-- When the queue loses its head to a notifier, the head has got its token. -/
theorem Taken.released_token {c : Call} {next : Pc} (taken : Taken freq s t answer s')
    (target : ReleaseTarget s t c next) (waiters : s.waiters = c :: s'.waiters) :
    ∃ sema, s'.sema c = some sema ∧ 0 < sema.count := by
  have shorter : s'.waiters ≠ s.waiters := by
    rw [waiters]
    exact fun same => List.cons_ne_self _ _ same.symm
  cases taken with
  | @released c' next' sema target' found room =>
      obtain rfl := target.unique target'
      exact ⟨⟨sema.id, sema.count + 1⟩, by simp [State.goto, State.record, State.setSema],
        Nat.succ_pos _⟩
  | dangling _ _ => exact absurd rfl shorter
  | overflowed _ _ _ => exact absurd rfl shorter
  | noWaiter pc list => exact absurd rfl shorter
  | _ => cases target <;> simp_all

theorem Taken.waiting_other {other : ThreadId} (taken : Taken freq s t answer s')
    (mutex : MutexInv s) (inv : QueueInv s) (ne : other ≠ t)
    (waits : (s.pc other).waiting = true) :
    s.current other ∈ s'.waiters ∨
      ∃ sema, s'.sema (s.current other) = some sema ∧ 0 < sema.count := by
  have differs : s.current other ≠ s.current t := ne_current s ne
  rcases inv.waiting other waits with member | ⟨sema, found, token⟩
  · cases taken.queueChange mutex inv with
    | same waiters notErase =>
        left
        rwa [waiters]
    | inserted pc waiters =>
        left
        rw [waiters]
        exact List.mem_append_left _ member
    | erased pc waiters =>
        left
        rw [waiters]
        exact (List.mem_erase_of_ne differs).mpr member
    | @released c next target waiters =>
        rw [waiters, List.mem_cons] at member
        rcases member with head | tail
        · right
          rw [head]
          exact taken.released_token target waiters
        · exact .inl tail
  · right
    rcases taken.sema_other differs with kept | ⟨old, _, _, raised, _⟩
    · exact ⟨sema, by rw [kept, found], token⟩
    · exact ⟨_, raised, Nat.succ_pos _⟩

theorem Taken.queueInv (taken : Taken freq s t answer s') (mutex : MutexInv s)
    (inv : QueueInv s) : QueueInv s' where
  nodup := taken.mWait_nodup mutex inv
  list := taken.queueMatches mutex inv
  fresh := taken.fresh mutex inv
  members := taken.members mutex inv
  waiting other waits := by
    by_cases same : other = t
    · subst same
      exact taken.waiting_self inv waits
    · rw [taken.current_other same]
      rw [taken.pc_other same] at waits
      exact taken.waiting_other mutex inv same waits

end Step

end CmsisCpp.ConditionVariable
