import CmsisCpp.ConditionVariable.Notification

/-! # Whom the notifiers release

While no acquisition times out, `m_wait` is the list of the registered calls that
have not been released, in the order of their registration.  `notify_one`
releases the first of them and `notify_all` all of them, each once.  The calls
are still in progress then, unless an acquisition has thrown. -/
set_option autoImplicit false

namespace CmsisCpp.ConditionVariable

open ActionSystem CmsisCpp.Semaphore

def TimesOut (freq usec : Int) (sta : OsStatus) : Prop :=
  0 ≤ usec ∧ (sta = .osErrorTimeout ∨ (timeoutTicks freq usec = 0 ∧ sta = .osErrorResource))

instance (freq usec : Int) (sta : OsStatus) : Decidable (TimesOut freq usec sta) :=
  inferInstanceAs (Decidable (_ ∧ _))

def NotTimingOut (freq : Int) (s : State) : Action → Prop
  | .next t (.status sta) => s.pc t = .acquire → ¬ TimesOut freq (s.args t).usec sta
  | _ => True

instance (freq : Int) (s : State) : (a : Action) → Decidable (NotTimingOut freq s a)
  | .next t (.status sta) =>
      inferInstanceAs (Decidable (s.pc t = .acquire → ¬ TimesOut freq (s.args t).usec sta))
  | .next _ .done => .isTrue trivial
  | .next _ (.handle _) => .isTrue trivial
  | .next _ (.allocated _) => .isTrue trivial
  | .start _ _ => .isTrue trivial

def Event.registration : Event → Option Call
  | .registered c => some c
  | _ => none

def Event.notification : Event → Option Call
  | .released c => some c
  | _ => none

namespace State

def registrations (s : State) : List Call := s.log.filterMap Event.registration
def notified (s : State) : List Call := s.log.filterMap Event.notification

/-- The registered calls that no notifier has released. -/
def pending (s : State) : List Call := s.registrations.filter (· ∉ s.notified)

/-- What the notifier `t` still has to release. -/
def toRelease (s : State) (t : ThreadId) : List Call :=
  match s.pc t with
  | .front => s.mWait.head?.toList
  | .releasing rest => rest
  | _ => []

end State

def Pc.notifying : Pc → Bool
  | .front | .popFront | .releasing _ | .unlockNotify => true
  | _ => false

def Pc.releasedLock : Pc → Bool
  | .acquire | .relock _ | .leave (.returned _) => true
  | _ => false

section Step
variable {freq : Int} {s s' : State} {t : ThreadId} {answer : Answer}

theorem tryAcquire_timedOut {sta : OsStatus} (taken : s.tryAcquire freq t sta = some s')
    (timedOut : s'.pc t = .relock false) : TimesOut freq (s.args t).usec sta := by
  cases found : s.sema (s.current t) with
  | none => simp [State.tryAcquire, found] at taken
  | some sema =>
      simp only [State.tryAcquire, found, Option.ite_none_right_eq_some] at taken
      obtain ⟨_, outcome⟩ := taken
      rcases lt_or_ge (s.args t).usec 0 with negative | nonneg
      · rw [tryAcquireForUsec_negative sema.id negative, CallScript.Script.eval_throw] at outcome
        cases outcome
        simp [State.goto] at timedOut
      · rw [tryAcquireForUsec_eval sema.id nonneg] at outcome
        by_cases ok : sta = .osOK
        · rw [if_pos ok] at outcome
          cases outcome
          simp [State.goto] at timedOut
        · by_cases expired : sta = .osErrorTimeout ∨
              (timeoutTicks freq (s.args t).usec = 0 ∧ sta = .osErrorResource)
          · exact ⟨nonneg, expired⟩
          · rw [if_neg ok, if_neg expired] at outcome
            cases outcome
            simp [State.goto] at timedOut

def NoneTimedOut (s : State) : Prop := ∀ t, (s.pc t).afterTimeout = false

theorem NoneTimedOut.step {a : Action} (none : NoneTimedOut s) (stepped : s.step freq a = some s')
    (notTimingOut : NotTimingOut freq s a) : NoneTimedOut s' := by
  intro other
  have taken := (step_taken stepped).2
  by_cases same : other = a.thread
  · subst same
    have before := none a.thread
    cases taken with
    | timedOut pc found noToken finite =>
        cases a with
        | start t op => simp_all [State.step, Action.thread]
        | next t answer =>
            simp only [Action.thread] at pc stepped
            simp only [State.step, State.instruction, pc] at stepped
            simp only [Option.ite_none_right_eq_some] at stepped
            cases answer with
            | status sta =>
                have expired := tryAcquire_timedOut stepped.2 (by simp [State.goto])
                exact absurd expired (notTimingOut pc)
            | done => simp at stepped
            | handle id => simp at stepped
            | allocated ok => simp at stepped
    | dangling target destroyed => exact before
    | overflowed target found full => exact before
    | released target found room => cases target <;> simp [State.goto, Pc.afterTimeout]
    | left pc => simp [State.finish, State.goto, Pc.afterTimeout]
    | _ =>
        rename_i pc
        simp_all [State.goto, State.finish, State.record, State.unlockMutex, Pc.afterTimeout]
  · rw [taken.pc_other same]
    exact none other

/-! ## The pending calls are the queue -/

/-- What a step adds to the two lists of calls, and what it does to the queue. -/
inductive NoticeChange (s : State) (t : ThreadId) (s' : State) : Prop
  | same (registrations : s'.registrations = s.registrations) (notified : s'.notified = s.notified)
      (waiters : s.pc t = .erase ∨ s'.waiters = s.waiters)
  | registered (pc : s.pc t = .insert) (notified : s'.notified = s.notified)
      (registrations : s'.registrations = s.registrations ++ [s.current t])
      (waiters : s'.waiters = s.waiters ++ [s.current t])
  | released {c : Call} {next : Pc} (target : ReleaseTarget s t c next)
      (registrations : s'.registrations = s.registrations)
      (notified : s'.notified = s.notified ++ [c]) (waiters : s.waiters = c :: s'.waiters)

@[simp] theorem registrations_record (s : State) (events : List Event) :
    (s.record events).registrations = s.registrations ++ events.filterMap Event.registration :=
  List.filterMap_append

@[simp] theorem notified_record (s : State) (events : List Event) :
    (s.record events).notified = s.notified ++ events.filterMap Event.notification :=
  List.filterMap_append

theorem registration_removed (cs : List Call) :
    (cs.map Event.removed).filterMap Event.registration = [] := by
  simp [List.filterMap_map, Function.comp_def, Event.registration]

theorem notification_removed (cs : List Call) :
    (cs.map Event.removed).filterMap Event.notification = [] := by
  simp [List.filterMap_map, Function.comp_def, Event.notification]

theorem Taken.noticeChange (taken : Taken freq s t answer s') (mutex : MutexInv s)
    (inv : QueueInv s) : NoticeChange s t s' := by
  have change := taken.queueChange mutex inv
  cases taken with
  | inserted pc =>
      refine .registered pc ?_ ?_ ?_
      · exact (notified_record _ _).trans (List.append_nil _)
      · exact registrations_record _ _
      · exact waiters_record _ _
  | @released c next sema target found room =>
      obtain ⟨rest, shown⟩ := inv.list.target mutex target
      refine .released target ?_ ?_ ?_
      · exact (registrations_record _ _).trans (List.append_nil _)
      · exact notified_record _ _
      · rw [waiters_goto, waiters_record]
        change s.waiters = c :: s.waiters.erase c
        rw [shown, List.erase_cons_head]
  | erased pc present =>
      refine .same ?_ ?_ (.inl pc)
      · exact (registrations_record _ _).trans (List.append_nil _)
      · exact (notified_record _ _).trans (List.append_nil _)
  | eraseMissing pc missing =>
      refine .same ?_ ?_ (.inl pc)
      · exact (registrations_record _ _).trans (List.append_nil _)
      · exact (notified_record _ _).trans (List.append_nil _)
  | popped pc list =>
      refine .same ?_ ?_ ?_
      · exact (registrations_record _ _).trans (List.append_nil _)
      · exact (notified_record _ _).trans (List.append_nil _)
      · cases change with
        | same waiters notErase => exact .inr waiters
        | inserted pc' waiters => simp [pc] at pc'
        | erased pc' waiters => exact .inl pc'
        | released target waiters => cases target <;> simp_all
  | cleared pc =>
      refine .same ?_ ?_ ?_
      · rw [← List.append_nil s.registrations, ← registration_removed s.mWait]
        exact registrations_record _ _
      · rw [← List.append_nil s.notified, ← notification_removed s.mWait]
        exact notified_record _ _
      · cases change with
        | same waiters notErase => exact .inr waiters
        | inserted pc' waiters => simp [pc] at pc'
        | erased pc' waiters => exact .inl pc'
        | released target waiters => cases target <;> simp_all
  | noSemaphore pc | left pc =>
      refine .same ?_ ?_ (.inr (by simp))
      · exact (registrations_record _ _).trans (List.append_nil _)
      · exact (notified_record _ _).trans (List.append_nil _)
  | _ => exact .same rfl rfl (.inr rfl)

theorem mem_registrations {c : Call} : c ∈ s.registrations ↔ .registered c ∈ s.log := by
  rw [State.registrations, List.mem_filterMap]
  constructor
  · rintro ⟨event, logged, shown⟩
    cases event <;> simp_all [Event.registration]
  · intro logged
    exact ⟨_, logged, rfl⟩

theorem mem_notified {c : Call} : c ∈ s.notified ↔ .released c ∈ s.log := by
  rw [State.notified, List.mem_filterMap]
  constructor
  · rintro ⟨event, logged, shown⟩
    cases event <;> simp_all [Event.notification]
  · intro logged
    exact ⟨_, logged, rfl⟩

theorem mem_pending {c : Call} : c ∈ s.pending ↔ c ∈ s.registrations ∧ c ∉ s.notified := by
  simp [State.pending]

structure PendingInv (s : State) : Prop where
  waiters : s.waiters = s.pending
  registrations : s.registrations.Nodup
  notified : s.notified.Nodup
  subset : ∀ c ∈ s.notified, c ∈ s.registrations

theorem RegisteredOnce.fresh (once : RegisteredOnce s) (pc : s.pc t = .insert) :
    s.current t ∉ s.registrations := by
  rw [mem_registrations]
  intro logged
  have positive := List.count_pos_iff.mpr logged
  rcases once (s.current t) with absent | ⟨_, earlier | ⟨_, entered⟩⟩
  · omega
  · exact absurd earlier (lt_irrefl _)
  · simp [State.current, pc, Pc.entering] at entered

theorem pending_registered {c : Call} (subset : ∀ c ∈ s.notified, c ∈ s.registrations)
    (fresh : c ∉ s.registrations) (registrations : s'.registrations = s.registrations ++ [c])
    (notified : s'.notified = s.notified) : s'.pending = s.pending ++ [c] := by
  have unnotified : c ∉ s.notified := fun member => fresh (subset c member)
  simp [State.pending, registrations, notified, unnotified]

theorem pending_released {c : Call} {rest : List Call} (nodup : s.registrations.Nodup)
    (first : s.pending = c :: rest) (registrations : s'.registrations = s.registrations)
    (notified : s'.notified = s.notified ++ [c]) : s'.pending = rest := by
  have others : s'.pending = s.pending.filter (· ≠ c) := by
    rw [State.pending, State.pending, registrations, notified, List.filter_filter]
    apply List.filter_congr
    intro other _
    simp [and_comm]
  have pendingNodup : s.pending.Nodup := nodup.filter _
  rw [first] at others pendingNodup
  rw [others, List.filter_cons_of_neg (by simp)]
  apply List.filter_eq_self.mpr
  intro other member
  have different : other ≠ c := by
    rintro rfl
    exact (List.nodup_cons.mp pendingNodup).1 member
  simpa using different

theorem NoticeChange.pendingInv (change : NoticeChange s t s') (notErase : s.pc t ≠ .erase)
    (once : RegisteredOnce s) (inv : PendingInv s) : PendingInv s' := by
  cases change with
  | same registrations notified waiters =>
      have kept := waiters.resolve_left notErase
      constructor
      · rw [kept, inv.waiters, State.pending, State.pending, registrations, notified]
      · rw [registrations]
        exact inv.registrations
      · rw [notified]
        exact inv.notified
      · rw [registrations, notified]
        exact inv.subset
  | registered pc notified registrations waiters =>
      have fresh := once.fresh pc
      constructor
      · rw [waiters, inv.waiters]
        exact (pending_registered inv.subset fresh registrations notified).symm
      · rw [registrations, List.nodup_append]
        refine ⟨inv.registrations, by simp, ?_⟩
        intro c member c' new same
        rw [List.mem_singleton.mp new] at same
        exact fresh (same ▸ member)
      · rw [notified]
        exact inv.notified
      · rw [registrations, notified]
        intro c member
        exact List.mem_append_left _ (inv.subset c member)
  | @released c next target registrations notified waiters =>
      have first : s.pending = c :: s'.waiters := inv.waiters.symm.trans waiters
      obtain ⟨registered, unnotified⟩ := mem_pending.mp (first ▸ List.mem_cons_self)
      constructor
      · exact (pending_released inv.registrations first registrations notified).symm
      · rw [registrations]
        exact inv.registrations
      · rw [notified, List.nodup_append]
        refine ⟨inv.notified, by simp, ?_⟩
        intro other member c' new same
        rw [List.mem_singleton.mp new] at same
        exact unnotified (same ▸ member)
      · rw [registrations, notified]
        intro other member
        rcases List.mem_append.mp member with old | new
        · exact inv.subset other old
        · rw [List.mem_singleton.mp new]
          exact registered

/-! ## A notifier's critical section -/

theorem Taken.mWait_other {other : ThreadId} (taken : Taken freq s t answer s') (mutex : MutexInv s)
    (held : s.mMutex = some other) (ne : other ≠ t) : s'.mWait = s.mWait := by
  have outside : (s.pc t).holdsMutex = false := by
    cases holds : (s.pc t).holdsMutex with
    | false => rfl
    | true =>
        have holder := (mutex t).mp holds
        rw [held, Option.some.injEq] at holder
        exact absurd holder ne
  cases taken with
  | inserted pc | erased pc present | popped pc list | cleared pc =>
      simp [pc, Pc.holdsMutex] at outside
  | _ => rfl

theorem NoticeChange.notified_other {other : ThreadId} (change : NoticeChange s t s')
    (mutex : MutexInv s) (held : s.mMutex = some other) (ne : other ≠ t) :
    s'.notified = s.notified := by
  cases change with
  | same registrations notified waiters => exact notified
  | registered pc notified registrations waiters => exact notified
  | released target registrations notified waiters =>
      have holder := (mutex t).mp target.holdsMutex.1
      rw [held, Option.some.injEq] at holder
      exact absurd holder ne

theorem Pc.holdsMutex_of_notifying {pc : Pc} (notifying : pc.notifying = true) :
    pc.holdsMutex = true := by
  cases pc <;> simp_all [Pc.notifying, Pc.holdsMutex]

/-- Each step of a notifier's critical section releases what was to be released
next, and no other thread's step releases anything. -/
theorem Taken.toRelease {other : ThreadId} (taken : Taken freq s t answer s') (mutex : MutexInv s)
    (inv : QueueInv s) (notifying : (s.pc other).notifying = true)
    (stays : (s'.pc other).notifying = true) :
    s'.notified ++ s'.toRelease other = s.notified ++ s.toRelease other := by
  have change := taken.noticeChange mutex inv
  have held := (mutex other).mp (Pc.holdsMutex_of_notifying notifying)
  by_cases own : other = t
  · subst own
    cases taken with
    | released target found room =>
        cases target <;> simp_all [State.toRelease, State.goto, State.notified, State.record,
          State.setSema, Event.notification]
    | dangling target destroyed => rfl
    | overflowed target found full => rfl
    | _ =>
        rename_i pc
        simp_all [State.toRelease, State.goto, State.unlockMutex, State.notified,
          State.record, Event.notification, Pc.notifying, List.filterMap_map, Function.comp_def]
  · rw [change.notified_other mutex held own]
    rw [State.toRelease, State.toRelease, taken.pc_other own, taken.mWait_other mutex held own]

end Step

/-! ## Runs -/

def Acquires (freq : Int) (s : State) (a : Action) : Prop :=
  NotTimingOut freq s a ∧ AcquireReturns freq s a

instance (freq : Int) (s : State) (a : Action) : Decidable (Acquires freq s a) :=
  inferInstanceAs (Decidable (_ ∧ _))

/-- What the notifiers guarantee: the last two fields speak of the semaphore a
notifier is about to release, and of a notifier that has just locked `m_mutex`. -/
structure NotifiesInOrder (freq : Int) (s : State) : Prop where
  listed : s.mMutex = none → s.mWait = s.pending
  nodup : s.registrations.Nodup
  once : s.notified.Nodup
  notifyOne : ∀ t, s.pc t = .front → s.toRelease t = s.pending.head?.toList
  notifyAll : ∀ t rest, s.pc t = .releasing rest → s.toRelease t = s.pending
  exactly : ∀ t s', Within (system freq) (fun s => (s.pc t).notifying = true) s s' →
    s'.notified ++ s'.toRelease t = s.notified ++ s.toRelease t
  passes : ∀ t, (s.pc t).afterToken = true → s.current t ∈ s.notified
  left : ∀ c usec owns, .left c usec (.returned .noTimeout) owns ∈ s.log → c ∈ s.notified
  inProgress : ∀ t c, s.releaseTarget t = some c → c = s.current c.thread ∧
    (s.pc c.thread).inCall = true ∧ ∃ id, s.sema c = some ⟨id, 0⟩
  found : ∀ t, s.pc t = .front ∨ s.pc t = .releasing s.mWait → ∀ other,
    (s.pc other).releasedLock = true → s.current other ∈ s.mWait ∨ s.current other ∈ s.notified

section Runs
variable {freq : Int} {acts : List Action} {s : State}

theorem run_noneTimedOut (run : Run (system freq) (Acquires freq) acts s) : NoneTimedOut s := by
  refine run.invariant NoneTimedOut (fun t => rfl) ?_
  intro s a s' none acquires stepped
  exact none.step stepped acquires.1

theorem run_pendingInv (run : Run (system freq) (Acquires freq) acts s) : PendingInv s := by
  refine run.invariant_under (fun s => Invariants freq s ∧ RegisteredOnce s ∧ NoneTimedOut s)
    PendingInv ?_ ?_ ?_
  · intro acts s before
    exact ⟨run_invariants before, run_registeredOnce before, run_noneTimedOut before⟩
  · constructor
    · rfl
    · exact List.nodup_nil
    · exact List.nodup_nil
    · intro c member
      cases member
  · intro s a s' known inv _ stepped
    obtain ⟨invariants, once, none⟩ := known
    have change := (step_taken stepped).2.noticeChange invariants.mutex invariants.queue
    refine change.pendingInv ?_ once inv
    intro pc
    simpa [pc, Pc.afterTimeout] using none a.thread

theorem Invariants.within_toRelease {s' : State} {t : ThreadId} (inv : Invariants freq s)
    (within : Within (system freq) (fun s => (s.pc t).notifying = true) s s') :
    s'.notified ++ s'.toRelease t = s.notified ++ s.toRelease t := by
  have kept := within.invariant (fun s' => Invariants freq s' ∧
    s'.notified ++ s'.toRelease t = s.notified ++ s.toRelease t) ⟨inv, rfl⟩ ?_
  · exact kept.2
  · intro before a after known notifying stays stepped
    have taken := (step_taken stepped).2
    refine ⟨taken.invariants known.1, ?_⟩
    rw [taken.toRelease known.1.mutex known.1.queue notifying stays, known.2]

/-- A waiter that has released the user's lock is in the queue or was notified. -/
theorem Invariants.registered_or_notified {t : ThreadId} (inv : Invariants freq s)
    (none : NoneTimedOut s) (released : (s.pc t).releasedLock = true) :
    s.current t ∈ s.waiters ∨ s.current t ∈ s.notified := by
  have notTimedOut := none t
  by_cases waits : (s.pc t).waiting = true
  · rcases inv.queue.waiting t waits with listed | ⟨sema, found, token⟩
    · exact .inl listed
    · exact .inr (mem_notified.mpr (inv.history.token _ _ found token))
  · right
    apply mem_notified.mpr
    apply inv.history.notified
    generalize s.pc t = pc at *
    cases pc with
    | relock st => cases st <;> simp_all [Pc.afterTimeout, Pc.afterToken]
    | leave exit =>
        cases exit with
        | returned status => cases status <;> simp_all [Pc.afterTimeout, Pc.afterToken]
        | threw exn => simp [Pc.releasedLock] at released
    | _ => simp_all [Pc.releasedLock, Pc.waiting]

/-- In a run in which every acquisition ends with a token, the notifiers release
the waiters in the order of their registration. -/
theorem acquires_notifiesInOrder (run : Run (system freq) (Acquires freq) acts s) :
    NotifiesInOrder freq s := by
  have inv := run_invariants run
  have pending := run_pendingInv run
  have returning := run_returningInv (run.mono fun _ _ acquires => acquires.2)
  constructor
  · intro free
    rw [inv.queue.list.of_free free, pending.waiters]
  · exact pending.registrations
  · exact pending.notified
  · intro t pc
    have list := inv.queue.list.of_holder inv.mutex (t := t) (by rw [pc]; rfl) (by simp [pc])
      (by simp [pc])
    simp [State.toRelease, pc, list, pending.waiters]
  · intro t rest pc
    rw [State.toRelease, pc, ← pending.waiters]
    exact (inv.queue.list.releasing inv.mutex pc).1
  · intro t s' within
    exact inv.within_toRelease within
  · intro t goesOn
    exact mem_notified.mpr (inv.history.notified t goesOn)
  · intro c usec owns logged
    exact mem_notified.mpr (inv.history.leftNotified c usec owns logged)
  · intro t c target
    obtain ⟨seq, registered, id, found⟩ := returning.waiters c (releaseTarget_waiter inv target)
    have hasSemaphore := Pc.hasSemaphore_of_registered registered
    exact ⟨eq_current_iff.mpr ⟨rfl, seq⟩, by simp [Pc.inCall, hasSemaphore], id, found⟩
  · intro t entered other released
    have list : s.mWait = s.waiters := by
      rcases entered with pc | pc
      · exact inv.queue.list.of_holder inv.mutex (t := t) (by rw [pc]; rfl) (by simp [pc])
          (by simp [pc])
      · exact (inv.queue.list.releasing inv.mutex pc).1
    rw [list]
    exact inv.registered_or_notified (run_noneTimedOut run) released

end Runs

/-- A wait that has thrown out of its acquisition is notified. -/
def notifiedAfterThrow : List Action :=
  negativeWait ++ [.start 1 .notifyOne, .next 1 .done]

theorem notifiedAfterThrow_notInOrder :
    ¬ ∀ (acts : List Action) (s : State), Run (system 1000) (NotTimingOut 1000) acts s →
      NotifiesInOrder 1000 s := by
  intro claimed
  have run : Run (system 1000) (NotTimingOut 1000) _ _ := Run.replayed notifiedAfterThrow rfl
  have inProgress := ((claimed _ _ run).inProgress 1 ⟨0, 1⟩ (by decide)).2.1
  revert inProgress
  decide

def notifiedWait : List Action :=
  [.start 0 (.lock 0)] ++ register ++ notify ++
    [.next 0 (.status .osOK), .next 0 .done, .next 0 .done]

theorem notifiedWait_inOrder :
    ∃ s, Run (system 1000) (Acquires 1000) notifiedWait s ∧ NotifiesInOrder 1000 s := by
  have run : Run (system 1000) (Acquires 1000) _ _ := Run.replayed notifiedWait rfl
  exact ⟨_, run, acquires_notifiesInOrder run⟩

end CmsisCpp.ConditionVariable
