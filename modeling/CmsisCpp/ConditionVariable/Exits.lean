import CmsisCpp.ConditionVariable.Withdrawal

/-! # How `wait_for` is left

`try_acquire_for` throws for a negative duration and for an error status of the
OS.  The call is then left without the caller's lock and with the address of its
destroyed semaphore in `m_wait`, for a later notifier to release.  Every other
exit, by a return or by an exception, restores both. -/
set_option autoImplicit false

namespace CmsisCpp.ConditionVariable

open ActionSystem CmsisCpp.Semaphore

def AcquireReturns (freq : Int) (s : State) : Action → Prop
  | .next t (.status sta) => s.pc t = .acquire → ¬ AcquireThrows freq (s.args t).usec sta
  | _ => True

instance (freq : Int) (s : State) (a : Action) : Decidable (AcquireReturns freq s a) := by
  unfold AcquireReturns
  split <;> infer_instance

structure ReturningInv (s : State) : Prop where
  notThrown : ∀ t error, s.pc t ≠ .leave (.threw (.system error))
  waiters : ∀ c ∈ s.waiters, Unsignalled s c
  owns : ∀ c usec exit owns, .left c usec exit owns ∈ s.log → owns = true

section Step
variable {freq : Int} {s s' : State}

theorem Taken.notThrown {a : Action} (taken : Taken freq s a.thread a.answer s')
    (before : ∀ error, s.pc a.thread ≠ .leave (.threw (.system error)))
    (returns : AcquireReturns freq s a) :
    ∀ error, s'.pc a.thread ≠ .leave (.threw (.system error)) := by
  intro error
  cases taken with
  | acquireThrew pc answered throws =>
      cases a with
      | start t op => contradiction
      | next t answer =>
          change answer = _ at answered
          subst answered
          exact absurd throws (returns pc)
  | dangling target destroyed => exact before error
  | overflowed target found full => exact before error
  | released target found room => cases target <;> simp [State.goto]
  | left pc => simp [State.finish, State.goto]
  | _ => simp_all [State.goto, State.finish, State.record, State.setSema, State.unlockMutex]

variable {t : ThreadId} {answer : Answer}

theorem Taken.waiters_unsignalled (taken : Taken freq s t answer s') (inv : Invariants freq s)
    (returning : ReturningInv s) : ∀ c ∈ s'.waiters, Unsignalled s' c := by
  intro c member
  have nodup := inv.queue.waiters_nodup
  have notReleased : s'.log ≠ s.log ++ [.released c] := by
    intro released
    rw [State.waiters, released, waitersOf_concat] at member
    exact (nodup.mem_erase_iff.mp member).1 rfl
  have stays : c ∈ s.waiters → (s.pc t = .erase → c ≠ s.current t) → Unsignalled s' c := by
    intro old notWithdrawn
    rcases taken.unsignalled (returning.waiters c old) notWithdrawn notReleased with
      waiter | ⟨_, error, threw⟩
    · exact waiter
    · exact absurd threw (returning.notThrown t error)
  cases taken.queueChange inv.mutex inv.queue with
  | same waiters notErase =>
      rw [waiters] at member
      exact stays member fun pc => absurd pc notErase
  | inserted pc waiters =>
      rw [waiters, List.mem_append, List.mem_singleton] at member
      rcases member with old | rfl
      · exact stays old (by simp [pc])
      · exact taken.inserted_unsignalled inv.queue pc (by simp [waiters])
  | erased pc waiters =>
      rw [waiters] at member
      obtain ⟨differs, old⟩ := nodup.mem_erase_iff.mp member
      exact stays old fun _ => differs
  | released target waiters =>
      have old : c ∈ s.waiters := by
        rw [waiters]
        exact List.mem_cons_of_mem _ member
      exact stays old fun pc => absurd pc target.not_erase

theorem Pc.holdsLock_of_leave {exit : Exit}
    (notThrown : ∀ error, Pc.leave exit ≠ .leave (.threw (.system error))) :
    (Pc.leave exit).holdsLock = true := by
  cases exit with
  | returned status => rfl
  | threw exn =>
      cases exn with
      | system error => exact absurd rfl (notThrown error)
      | badAlloc => rfl

theorem Taken.left_owns {c : Call} {usec : Int} {exit : Exit} {owns : Bool}
    (taken : Taken freq s t answer s') (inv : Invariants freq s) (returning : ReturningInv s)
    (logged : .left c usec exit owns ∈ s'.log) : owns = true := by
  rcases taken.left_logged logged with old | ⟨_, _, rfl, leaves, _⟩
  · exact returning.owns c usec exit owns old
  · have holds : (s.pc t).holdsLock = true := by
      rcases leaves with pc | ⟨pc, _⟩
      · have notThrown := returning.notThrown t
        rw [pc] at notThrown ⊢
        exact Pc.holdsLock_of_leave notThrown
      · rw [pc]
        rfl
    simp [State.ownsLock, inv.lock t holds]

end Step

theorem run_returningInv {freq : Int} {acts : List Action} {s : State}
    (run : Run (system freq) (AcquireReturns freq) acts s) : ReturningInv s := by
  refine run.invariant_under (Invariants freq) ReturningInv run_invariants ?_ ?_
  · constructor
    · intro t error
      simp [system, State.initial]
    · intro c member
      simp [system, State.initial, State.waiters, waitersOf] at member
    · intro c usec exit owns logged
      simp [system, State.initial] at logged
  · intro s a s' inv returning returns stepped
    have taken := (step_taken stepped).2
    constructor
    · intro other error
      by_cases same : other = a.thread
      · rw [same]
        exact taken.notThrown (returning.notThrown a.thread) returns error
      · rw [taken.pc_other same]
        exact returning.notThrown other error
    · exact taken.waiters_unsignalled inv returning
    · intro c usec exit owns logged
      exact taken.left_owns inv returning logged

/-! ## What a call leaves behind -/

/-- A call that was left owns its lock again and is not in `m_wait` outside the
critical sections; the notifiers release calls in progress. -/
structure LeavesNothing (s : State) : Prop where
  relocked : ∀ c usec exit owns, .left c usec exit owns ∈ s.log → owns = true
  unlisted : s.mMutex = none → ∀ c usec exit owns, .left c usec exit owns ∈ s.log → c ∉ s.mWait
  inProgress : ∀ t c, s.releaseTarget t = some c →
    c = s.current c.thread ∧ (s.pc c.thread).inCall = true ∧ ∃ sema, s.sema c = some sema

theorem Unsignalled.not_over {s : State} {c : Call} (waiter : Unsignalled s c) : ¬ Over s c := by
  obtain ⟨seq, registered, _⟩ := waiter
  have hasSemaphore := Pc.hasSemaphore_of_registered registered
  intro isOver
  rcases isOver with earlier | ⟨_, outside⟩
  · omega
  · simp [Pc.inCall, hasSemaphore] at outside

theorem releaseTarget_waiter {s : State} {t : ThreadId} {c : Call} {freq : Int}
    (inv : Invariants freq s) (target : s.releaseTarget t = some c) : c ∈ s.waiters := by
  unfold State.releaseTarget at target
  split at target
  · rename_i pc
    obtain ⟨rest, list⟩ := List.head?_eq_some_iff.mp target
    obtain ⟨_, queue⟩ := inv.queue.list.target inv.mutex (.front pc list)
    simp [queue]
  · rename_i rest pc
    rw [← (inv.queue.list.releasing inv.mutex pc).1]
    exact List.mem_of_head? target
  · contradiction

/-- In a run in which no acquisition throws, a call leaves nothing behind,
however it is left. -/
theorem acquireReturns_leavesNothing {freq : Int} {acts : List Action} {s : State}
    (run : Run (system freq) (AcquireReturns freq) acts s) : LeavesNothing s := by
  have inv := run_invariants run
  have returning := run_returningInv run
  constructor
  · exact returning.owns
  · intro free c usec exit owns logged listed
    rw [inv.queue.list.of_free free] at listed
    exact (returning.waiters c listed).not_over (inv.history.leftOver c usec exit owns logged)
  · intro t c target
    obtain ⟨seq, registered, id, found⟩ := returning.waiters c (releaseTarget_waiter inv target)
    have hasSemaphore := Pc.hasSemaphore_of_registered registered
    refine ⟨eq_current_iff.mpr ⟨rfl, seq⟩, ?_, _, found⟩
    simp [Pc.inCall, hasSemaphore]

def negativeWait : List Action :=
  [.start 0 (.lock 0), .start 0 (.waitFor 0 (.microseconds (-1))), .next 0 (.handle 1),
    .next 0 .done, .next 0 (.allocated true), .next 0 .done, .next 0 .done,
    .next 0 (.status .osOK), .next 0 .done]

theorem negativeWait_leavesNode :
    ¬ ∀ (acts : List Action) (s : State), Run (system 1000) Unrestricted acts s →
      LeavesNothing s := by
  intro claimed
  have run : Run (system 1000) Unrestricted _ _ := Run.replayed negativeWait rfl
  have unlisted := (claimed _ _ run).unlisted rfl ⟨0, 1⟩ (-1)
    (.threw (.system (osFailure .osErrorParameter "semaphore: negative timer"))) false (by decide)
  revert unlisted
  decide

theorem notifiedInTime_leavesNothing :
    ∃ s, Run (system 1000) (AcquireReturns 1000) notifiedInTime s ∧ LeavesNothing s := by
  have run : Run (system 1000) (AcquireReturns 1000) _ _ := Run.replayed notifiedInTime rfl
  exact ⟨_, run, acquireReturns_leavesNothing run⟩

end CmsisCpp.ConditionVariable
