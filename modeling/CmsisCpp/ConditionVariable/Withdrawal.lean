import CmsisCpp.ConditionVariable.History

/-! # Who takes a node out of `m_wait`

A node is taken out by the notifier that releases its semaphore or, after a
timeout, by its own waiter.  The waiter decides from the acquisition alone that
it has timed out and withdraws later, so a notifier that releases it in between
takes the node out first and `m_wait.erase(it)` finds it gone.  In a run without
such a release every node is taken out at most once. -/
set_option autoImplicit false

namespace CmsisCpp.ConditionVariable

open ActionSystem

def State.releaseTarget (s : State) (t : ThreadId) : Option Call :=
  match s.pc t with
  | .front => s.mWait.head?
  | .releasing rest => rest.head?
  | _ => none

def State.TimedOut (s : State) (c : Call) : Prop :=
  c = s.current c.thread ∧ (s.pc c.thread).timedOut = true

instance (s : State) (c : Call) : Decidable (s.TimedOut c) := inferInstanceAs (Decidable (_ ∧ _))

def NotifiesInTime (s : State) (a : Action) : Prop :=
  ∀ c ∈ s.releaseTarget a.thread, ¬ s.TimedOut c

instance (s : State) (a : Action) : Decidable (NotifiesInTime s a) :=
  inferInstanceAs (Decidable (∀ c ∈ s.releaseTarget a.thread, ¬ s.TimedOut c))

theorem ReleaseTarget.releaseTarget_eq {s : State} {t : ThreadId} {c : Call} {next : Pc}
    (target : ReleaseTarget s t c next) : s.releaseTarget t = some c := by
  cases target with
  | front pc list => simp [State.releaseTarget, pc, list]
  | each pc => simp [State.releaseTarget, pc]

/-! ## A timed out call stays in the queue -/

def TimedOutQueued (s : State) : Prop :=
  ∀ t, (s.pc t).timedOut = true → s.current t ∈ s.waiters

section Step
variable {freq : Int} {s s' : State} {t : ThreadId} {answer : Answer}

theorem Taken.timedOut_self (taken : Taken freq s t answer s') (inv : Invariants freq s)
    (queued : TimedOutQueued s) (late : (s'.pc t).timedOut = true) :
    s'.current t ∈ s'.waiters := by
  have before := queued t
  cases taken with
  | @timedOut sema pc found noToken finite =>
      rcases inv.queue.waiting t (by rw [pc]; rfl) with member | ⟨other, found', token⟩
      · exact member
      · rw [found, Option.some.injEq] at found'
        rw [← found', noToken] at token
        contradiction
  | relockTimedOut pc free => exact before (by rw [pc]; rfl)
  | lockErase pc free => exact before (by rw [pc]; rfl)
  | eraseMissing pc missing =>
      have same := inv.queue.list.of_holder inv.mutex (t := t) (by rw [pc]; rfl) (by simp [pc])
        (by simp [pc])
      rw [same] at missing
      exact absurd (before (by rw [pc]; rfl)) missing
  | dangling target destroyed => exact before late
  | overflowed target found full => exact before late
  | released target found room => cases target <;> simp [State.goto, Pc.timedOut] at late
  | left pc => simp [State.finish, State.goto, Pc.timedOut] at late
  | _ => simp_all [State.goto, State.finish, State.record, State.unlockMutex, Pc.timedOut]

theorem Taken.timedOutQueued (taken : Taken freq s t answer s') (inv : Invariants freq s)
    (queued : TimedOutQueued s) (inTime : ∀ c ∈ s.releaseTarget t, ¬ s.TimedOut c) :
    TimedOutQueued s' := by
  intro other late
  by_cases same : other = t
  · subst same
    exact taken.timedOut_self inv queued late
  · rw [taken.current_other same]
    rw [taken.pc_other same] at late
    have member := queued other late
    cases taken.queueChange inv.mutex inv.queue with
    | same waiters notErase => rwa [waiters]
    | inserted pc waiters =>
        rw [waiters]
        exact List.mem_append_left _ member
    | erased pc waiters =>
        rw [waiters]
        exact (List.mem_erase_of_ne (ne_current s same)).mpr member
    | @released c next target waiters =>
        rw [waiters, List.mem_cons] at member
        rcases member with head | tail
        · have notLate := inTime c target.releaseTarget_eq
          rw [← head] at notLate
          exact absurd ⟨rfl, late⟩ notLate
        · exact tail

theorem TimedOutQueued.present (queued : TimedOutQueued s) (inv : Invariants freq s)
    (pc : s.pc t = .erase) : s.current t ∈ s.mWait := by
  rw [inv.queue.list.of_holder inv.mutex (t := t) (by rw [pc]; rfl) (by simp [pc]) (by simp [pc])]
  exact queued t (by rw [pc]; rfl)

/-! ## Counting registrations and removals -/

def Pc.entering : Pc → Bool
  | .semaphoreNew | .lockRegister | .insert => true
  | _ => false

def RegisteredOnce (s : State) : Prop :=
  ∀ c, s.log.count (.registered c) = 0 ∨ (s.log.count (.registered c) = 1 ∧
    (c.seq < s.calls c.thread ∨ (c.seq = s.calls c.thread ∧ (s.pc c.thread).entering = false)))

@[simp] theorem count_removed_map (c : Call) (cs : List Call) :
    (cs.map Event.removed).count (.removed c) = cs.count c := by
  induction cs with
  | nil => rfl
  | cons head rest ih => simp [List.count_cons, ih]

@[simp] theorem count_registered_map (c : Call) (cs : List Call) :
    (cs.map Event.removed).count (.registered c) = 0 := by
  simp [List.count_eq_zero]

theorem Taken.registered_count (taken : Taken freq s t answer s') (c : Call) :
    s'.log.count (.registered c) = s.log.count (.registered c) ∨
      (s.pc t = .insert ∧ c = s.current t ∧ (s'.pc t).entering = false ∧ s'.calls t = s.calls t ∧
        s'.log.count (.registered c) = s.log.count (.registered c) + 1) := by
  cases taken with
  | inserted pc =>
      by_cases same : c = s.current t
      · right
        subst same
        simp [State.goto, State.record, pc, Pc.entering, List.count_append]
      · left
        simp [State.goto, State.record, List.count_append, Ne.symm same]
  | _ =>
      left
      simp [State.goto, State.setSema, State.record, State.finish, State.unlockMutex,
        List.count_append]

theorem Taken.entered (taken : Taken freq s t answer s') (entered : (s.pc t).entering = false) :
    s'.calls t = s.calls t + 1 ∨ (s'.calls t = s.calls t ∧ (s'.pc t).entering = false) := by
  cases taken with
  | dangling target destroyed => exact .inr ⟨rfl, entered⟩
  | overflowed target found full => exact .inr ⟨rfl, entered⟩
  | released target found room =>
      refine .inr ⟨rfl, ?_⟩
      cases target <;> simp [State.goto, Pc.entering]
  | left pc => exact .inr ⟨rfl, by simp [State.finish, State.goto, Pc.entering]⟩
  | _ =>
      simp_all [State.goto, State.setSema, State.record, State.unlockMutex, Pc.entering]

theorem Taken.registeredOnce (taken : Taken freq s t answer s') (once : RegisteredOnce s) :
    RegisteredOnce s' := by
  intro c
  rcases taken.registered_count c with count | ⟨pc, rfl, entered, calls, count⟩
  · rw [count]
    rcases once c with absent | ⟨single, isOver⟩
    · exact .inl absent
    · refine .inr ⟨single, ?_⟩
      by_cases own : c.thread = t
      · rw [own] at isOver ⊢
        rcases isOver with earlier | ⟨seq, entered⟩
        · exact .inl (lt_of_lt_of_le earlier taken.calls_le)
        · rcases taken.entered entered with next | ⟨same, entered'⟩
          · exact .inl (by omega)
          · exact .inr ⟨by omega, entered'⟩
      · rwa [taken.pc_other own, taken.calls_other own]
  · rcases once (s.current t) with absent | ⟨_, earlier | ⟨_, wrong⟩⟩
    · exact .inr ⟨by rw [count, absent], .inr ⟨calls.symm, entered⟩⟩
    · simp [State.current] at earlier
    · simp [State.current, pc, Pc.entering] at wrong

def Balanced (s : State) : Prop :=
  ∀ c, s.log.count (.removed c) + s.mWait.count c = s.log.count (.registered c)

theorem Taken.balanced (taken : Taken freq s t answer s') (balanced : Balanced s)
    (present : s.pc t = .erase → s.current t ∈ s.mWait) : Balanced s' := by
  intro c
  have before := balanced c
  cases taken with
  | inserted pc =>
      simp only [State.goto, State.record, List.count_append, List.count_singleton]
      simp
      omega
  | erased pc member =>
      by_cases same : c = s.current t
      · have positive : 0 < s.mWait.count (s.current t) := List.count_pos_iff.mpr member
        subst same
        simp [State.goto, State.record, List.count_append]
        omega
      · simp [State.goto, State.record, List.count_append, Ne.symm same, List.count_erase_of_ne same]
        omega
  | eraseMissing pc missing => exact absurd (present pc) missing
  | popped pc list =>
      rw [list] at before
      simp [State.goto, State.record, List.count_append, List.count_cons] at before ⊢
      omega
  | cleared pc => simpa [State.goto, State.record, List.count_append] using before
  | _ =>
      simpa [State.goto, State.setSema, State.record, State.finish, State.unlockMutex,
        List.count_append] using before

end Step

/-! ## Runs -/

/-- A waiter that withdraws finds its node, and no node is taken out twice. -/
def WithdrawsOnce (s : State) : Prop :=
  (∀ t, s.pc t = .erase → s.current t ∈ s.mWait) ∧ ∀ c, s.log.count (.removed c) ≤ 1

theorem run_registeredOnce {freq : Int} {allowed : State → Action → Prop} {acts : List Action}
    {s : State} (run : Run (system freq) allowed acts s) : RegisteredOnce s := by
  refine run.invariant RegisteredOnce (fun c => .inl rfl) ?_
  intro s a s' once _ taken
  exact (step_taken taken).2.registeredOnce once

theorem run_timedOutQueued {freq : Int} {acts : List Action} {s : State}
    (run : Run (system freq) NotifiesInTime acts s) : TimedOutQueued s := by
  refine run.invariant_under (Invariants freq) TimedOutQueued run_invariants ?_ ?_
  · intro t late
    simp [system, State.initial, Pc.timedOut] at late
  · intro s a s' inv queued inTime taken
    exact (step_taken taken).2.timedOutQueued inv queued inTime

theorem run_balanced {freq : Int} {acts : List Action} {s : State}
    (run : Run (system freq) NotifiesInTime acts s) : Balanced s := by
  refine run.invariant_under (fun s => Invariants freq s ∧ TimedOutQueued s) Balanced
    (fun before => ⟨run_invariants before, run_timedOutQueued before⟩) (fun c => rfl) ?_
  intro s a s' known balanced _ taken
  exact (step_taken taken).2.balanced balanced fun pc => known.2.present known.1 pc

/-- In a run in which no notifier releases a call that has timed out, every node
of `m_wait` is taken out at most once and `m_wait.erase` finds the node. -/
theorem notifiesInTime_withdrawsOnce {freq : Int} {acts : List Action} {s : State}
    (run : Run (system freq) NotifiesInTime acts s) : WithdrawsOnce s := by
  constructor
  · intro t pc
    exact (run_timedOutQueued run).present (run_invariants run) pc
  · intro c
    have sum := run_balanced run c
    rcases run_registeredOnce run c with absent | ⟨single, _⟩ <;> omega

def register : List Action :=
  [.start 0 (.waitFor 0 (.microseconds 1000)), .next 0 (.handle 1), .next 0 .done,
    .next 0 (.allocated true), .next 0 .done, .next 0 .done]

def notify : List Action :=
  [.start 1 .notifyOne, .next 1 .done, .next 1 .done, .next 1 .done, .next 1 .done]

def expire : Action := .next 0 (.status .osErrorTimeout)

/-- The wait times out, then comes the notification, then the waiter goes on and
executes its `m_wait.erase`. -/
def notifiedAfterTimeout : List Action :=
  [.start 0 (.lock 0)] ++ register ++ [expire] ++ notify ++ List.replicate 3 (.next 0 .done)

theorem notifiedAfterTimeout_withdrawsTwice :
    ¬ ∀ (acts : List Action) (s : State), Run (system 1000) Unrestricted acts s →
      WithdrawsOnce s := by
  intro claimed
  have run : Run (system 1000) Unrestricted _ _ := Run.replayed notifiedAfterTimeout rfl
  have once := (claimed _ _ run).2 ⟨0, 1⟩
  revert once
  decide

def notifiedInTime : List Action :=
  [.start 0 (.lock 0)] ++ register ++ [expire] ++ List.replicate 5 (.next 0 .done) ++
    register ++ notify ++ [.next 0 (.status .osOK), .next 0 .done, .next 0 .done]

theorem notifiedInTime_withdrawsOnce :
    ∃ s, Run (system 1000) NotifiesInTime notifiedInTime s ∧ WithdrawsOnce s := by
  have run : Run (system 1000) NotifiesInTime _ _ := Run.replayed notifiedInTime rfl
  exact ⟨_, run, notifiesInTime_withdrawsOnce run⟩

end CmsisCpp.ConditionVariable
