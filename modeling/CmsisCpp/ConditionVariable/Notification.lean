import CmsisCpp.ConditionVariable.Exits

/-! # What becomes of a notification

A released call returns `no_timeout` when it was still waiting at the release.
A call released after its acquisition has timed out keeps the token to the end
and reports `timeout`: the notification is lost. -/
set_option autoImplicit false

namespace CmsisCpp.ConditionVariable

open ActionSystem CmsisCpp.Semaphore

def State.Waiting (s : State) (c : Call) : Prop :=
  c = s.current c.thread ∧ (s.pc c.thread).waiting = true

instance (s : State) (c : Call) : Decidable (s.Waiting c) := inferInstanceAs (Decidable (_ ∧ _))

def NotifiesWaiting (s : State) (a : Action) : Prop :=
  ∀ c ∈ s.releaseTarget a.thread, s.Waiting c

/-- The OS does not answer a call that has its token with an error, and such a
call was not made for a negative time. -/
def KeepsToken (freq : Int) (s : State) : Action → Prop
  | .next t (.status sta) => s.pc t = .acquire →
      ∀ sema ∈ s.sema (s.current t), 0 < sema.count → ¬ AcquireThrows freq (s.args t).usec sta
  | _ => True

def Delivers (freq : Int) (s : State) (a : Action) : Prop :=
  NotifiesWaiting s a ∧ KeepsToken freq s a

instance (freq : Int) (s : State) : (a : Action) → Decidable (KeepsToken freq s a)
  | .next t (.status sta) => inferInstanceAs (Decidable (s.pc t = .acquire →
      ∀ sema ∈ s.sema (s.current t), 0 < sema.count → ¬ AcquireThrows freq (s.args t).usec sta))
  | .next _ .done => .isTrue trivial
  | .next _ (.handle _) => .isTrue trivial
  | .next _ (.allocated _) => .isTrue trivial
  | .start _ _ => .isTrue trivial

instance (freq : Int) (s : State) (a : Action) : Decidable (Delivers freq s a) := by
  unfold Delivers NotifiesWaiting
  infer_instance

/-- The call has its token and has not tried to take it yet. -/
def Signalled (s : State) (c : Call) : Prop :=
  s.Waiting c ∧ ∃ sema, s.sema c = some sema ∧ 0 < sema.count

def Resuming (s : State) (c : Call) : Prop :=
  c = s.current c.thread ∧ (s.pc c.thread).afterToken = true

def Returned (s : State) (c : Call) : Prop :=
  Over s c ∧ ∃ usec owns, .left c usec (.returned .noTimeout) owns ∈ s.log

def Delivered (s : State) (c : Call) : Prop := Signalled s c ∨ Resuming s c ∨ Returned s c

section Step
variable {freq : Int} {s s' : State} {t : ThreadId} {answer : Answer} {c : Call}

theorem ReleaseTarget.not_waiting {next : Pc} (target : ReleaseTarget s t c next) :
    (s.pc t).waiting = false ∧ (s.pc t).afterToken = false := by
  cases target with
  | front pc list => simp [pc, Pc.waiting, Pc.afterToken]
  | each pc => simp [pc, Pc.waiting, Pc.afterToken]

theorem Signalled.step {a : Action} (taken : Taken freq s a.thread a.answer s')
    (keeps : KeepsToken freq s a) (signalled : Signalled s c) :
    Signalled s' c ∨ Resuming s' c := by
  obtain ⟨⟨isCurrent, waits⟩, sema, found, token⟩ := signalled
  by_cases own : c.thread = a.thread
  · rw [Signalled, State.Waiting, Resuming]
    rw [own] at isCurrent waits ⊢
    cases taken with
    | unlockRegister pc =>
        exact .inl ⟨⟨isCurrent, by simp [State.unlockMutex, State.goto, Pc.waiting]⟩,
          sema, found, token⟩
    | unlockUser pc =>
        exact .inl ⟨⟨isCurrent, by simp [State.goto, Pc.waiting]⟩, sema, found, token⟩
    | acquired pc _ _ => exact .inr ⟨isCurrent, by simp [State.goto, Pc.afterToken]⟩
    | acquireThrew pc answered throws =>
        cases a with
        | start t op => contradiction
        | next t answer =>
            change answer = _ at answered
            subst answered
            exact absurd throws (keeps pc sema (isCurrent ▸ found) token)
    | timedOut pc found' noToken finite =>
        rw [← isCurrent, found, Option.some.injEq] at found'
        rw [found', noToken] at token
        contradiction
    | released target | dangling target | overflowed target =>
        simp [target.not_waiting.1] at waits
    | left pc => simp [pc, Pc.waiting] at waits
    | _ =>
        clear isCurrent
        simp_all [Pc.waiting]
  · left
    refine ⟨⟨?_, ?_⟩, ?_⟩
    · rw [taken.current_other own]
      exact isCurrent
    · rw [taken.pc_other own]
      exact waits
    · rcases taken.sema_other (ne_current s own) with kept | ⟨old, _, _, raised, _⟩
      · exact ⟨sema, by rw [kept, found], token⟩
      · exact ⟨_, raised, Nat.succ_pos _⟩

theorem Resuming.step (taken : Taken freq s t answer s') (resuming : Resuming s c) :
    Resuming s' c ∨ Returned s' c := by
  obtain ⟨isCurrent, goesOn⟩ := resuming
  by_cases own : c.thread = t
  · rw [Resuming]
    rw [own] at isCurrent goesOn ⊢
    cases taken with
    | relockNotified pc free => exact .inl ⟨isCurrent, by simp [State.goto, Pc.afterToken]⟩
    | @left exit pc =>
        have noTimeout : exit = .returned .noTimeout := by
          rw [pc] at goesOn
          cases exit with
          | returned status => cases status <;> simp_all [Pc.afterToken]
          | threw exn => simp [Pc.afterToken] at goesOn
        right
        refine ⟨.inr ⟨(eq_current_iff.mp isCurrent).2.trans ?_, ?_⟩, ?_⟩
        · rw [own]
          rfl
        · simp [State.finish, State.goto, own, Pc.inCall, Pc.hasSemaphore]
        · refine ⟨(s.args t).usec, (s.setSema (s.current t) none).ownsLock t, ?_⟩
          rw [noTimeout, isCurrent]
          exact List.mem_append_right _ (List.mem_singleton.mpr rfl)
    | released target | dangling target | overflowed target =>
        simp [target.not_waiting.2] at goesOn
    | _ =>
        clear isCurrent
        simp_all [Pc.afterToken]
  · left
    rw [Resuming, taken.current_other own, taken.pc_other own]
    exact ⟨isCurrent, goesOn⟩

theorem Returned.step (taken : Taken freq s t answer s') (returned : Returned s c) :
    Returned s' c := by
  obtain ⟨isOver, usec, owns, logged⟩ := returned
  exact ⟨taken.staysOver isOver, usec, owns, taken.log_mono logged⟩

theorem Taken.newly_released {next : Pc} {sema : LocalSemaphore}
    (taken : Taken freq s t answer s') (target : ReleaseTarget s t c next)
    (waiting : s.Waiting c) (found : s'.sema c = some sema) (token : 0 < sema.count) :
    Signalled s' c := by
  obtain ⟨isCurrent, waits⟩ := waiting
  have other : c.thread ≠ t := by
    intro own
    rw [own, target.not_waiting.1] at waits
    contradiction
  refine ⟨⟨?_, ?_⟩, sema, found, token⟩
  · rw [taken.current_other other]
    exact isCurrent
  · rw [taken.pc_other other]
    exact waits

theorem Delivered.step {a : Action} (taken : Taken freq s a.thread a.answer s')
    (keeps : KeepsToken freq s a) (delivered : Delivered s c) : Delivered s' c := by
  rcases delivered with signalled | resuming | returned
  · rcases signalled.step taken keeps with still | resuming
    · exact .inl still
    · exact .inr (.inl resuming)
  · rcases resuming.step taken with still | returned
    · exact .inr (.inl still)
    · exact .inr (.inr returned)
  · exact .inr (.inr (returned.step taken))

end Step

/-! ## Runs -/

def AllDelivered (s : State) : Prop := ∀ c, .released c ∈ s.log → Delivered s c

theorem run_allDelivered {freq : Int} {acts : List Action} {s : State}
    (run : Run (system freq) (Delivers freq) acts s) : AllDelivered s := by
  refine run.invariant AllDelivered ?_ ?_
  · intro c logged
    simp [system, State.initial] at logged
  · intro s a s' delivered meets stepped c logged
    have taken := (step_taken stepped).2
    by_cases old : .released c ∈ s.log
    · exact (delivered c old).step taken meets.2
    · rcases taken.released_logged logged with before | ⟨⟨next, target⟩, sema, found, token⟩
      · exact absurd before old
      · have waiting := meets.1 c target.releaseTarget_eq
        exact .inl (taken.newly_released target waiting found token)

theorem Pc.inCall_of_waiting {pc : Pc} (waits : pc.waiting = true) : pc.inCall = true := by
  cases pc <;> simp_all [Pc.waiting, Pc.inCall, Pc.hasSemaphore]

theorem not_over_of_waiting {s : State} {c : Call} (waiting : s.Waiting c) : ¬ Over s c := by
  obtain ⟨isCurrent, waits⟩ := waiting
  have seq := (eq_current_iff.mp isCurrent).2
  intro isOver
  rcases isOver with earlier | ⟨_, outside⟩
  · omega
  · rw [Pc.inCall_of_waiting waits] at outside
    contradiction

/-- No notification is lost: a released call has its token or has returned
`no_timeout`, it is not left in another way, and a waiting call that is about to
be released has room for the token. -/
structure KeepsNotifications (s : State) : Prop where
  delivered : AllDelivered s
  noTimeout : ∀ c usec exit owns, .released c ∈ s.log → .left c usec exit owns ∈ s.log →
    exit = .returned .noTimeout
  room : ∀ t c, s.releaseTarget t = some c → s.Waiting c → ∃ id, s.sema c = some ⟨id, 0⟩

theorem Delivered.exit {s : State} {t : ThreadId} {exit : Exit}
    (delivered : Delivered s (s.current t))
    (leaves : s.pc t = .leave exit ∨ (s.pc t = .semaphoreNew ∧ ∃ exn, exit = .threw exn)) :
    exit = .returned .noTimeout := by
  rcases delivered with ⟨⟨_, waits⟩, _⟩ | ⟨_, goesOn⟩ | ⟨earlier | ⟨_, outside⟩, _⟩
  · rcases leaves with pc | ⟨pc, _⟩ <;> simp [State.current, pc, Pc.waiting] at waits
  · rcases leaves with pc | ⟨pc, _⟩
    · cases exit with
      | returned status => cases status <;> simp_all [State.current, Pc.afterToken]
      | threw exn => simp [State.current, pc, Pc.afterToken] at goesOn
    · simp [State.current, pc, Pc.afterToken] at goesOn
  · simp [State.current] at earlier
  · rcases leaves with pc | ⟨pc, _⟩ <;>
      simp [State.current, pc, Pc.inCall, Pc.hasSemaphore] at outside

theorem run_noTimeout {freq : Int} {acts : List Action} {s : State}
    (run : Run (system freq) (Delivers freq) acts s) :
    ∀ c usec exit owns, .released c ∈ s.log → .left c usec exit owns ∈ s.log →
      exit = .returned .noTimeout := by
  refine run.invariant_under (fun s => AllDelivered s ∧ Invariants freq s)
    (fun s => ∀ c usec exit owns, .released c ∈ s.log → .left c usec exit owns ∈ s.log →
      exit = .returned .noTimeout)
    (fun before => ⟨run_allDelivered before, run_invariants before⟩) ?_ ?_
  · intro c usec exit owns logged
    simp [system, State.initial] at logged
  · intro s a s' known noTimeout meets stepped c usec exit owns released left
    have taken := (step_taken stepped).2
    by_cases old : .released c ∈ s.log
    · rcases taken.left_logged left with before | ⟨rfl, _, _, leaves, _⟩
      · exact noTimeout c usec exit owns old before
      · exact (known.1 _ old).exit leaves
    · -- a call that is released now has not been left
      rcases taken.released_logged released with before | ⟨⟨next, target⟩, _⟩
      · exact absurd before old
      · have waiting := meets.1 c target.releaseTarget_eq
        rcases taken.left_logged left with before | ⟨rfl, _, _, leaves, _⟩
        · have isOver := known.2.history.leftOver c usec exit owns before
          exact absurd isOver (not_over_of_waiting waiting)
        · cases target <;> simp_all

/-- In a run in which the notifiers release waiting calls only, and no call
throws its token away, no notification is lost. -/
theorem delivers_keepsNotifications {freq : Int} {acts : List Action} {s : State}
    (run : Run (system freq) (Delivers freq) acts s) : KeepsNotifications s where
  delivered := run_allDelivered run
  noTimeout := run_noTimeout run
  room := by
    intro t c target waiting
    have inv := run_invariants run
    rcases inv.queue.members c (releaseTarget_waiter inv target) with ⟨_, _, empty⟩ | isOver
    · exact empty
    · exact absurd isOver (not_over_of_waiting waiting)

theorem notifiedAfterTimeout_losesNotification :
    ¬ ∀ (acts : List Action) (s : State), Run (system 1000) Unrestricted acts s →
      KeepsNotifications s := by
  intro claimed
  have run : Run (system 1000) Unrestricted _ _ := Run.replayed notifiedAfterTimeout rfl
  have delivered := (claimed _ _ run).delivered ⟨0, 1⟩ (by decide)
  rcases delivered with ⟨⟨_, waits⟩, _⟩ | ⟨_, goesOn⟩ | ⟨isOver, _⟩
  · revert waits
    decide
  · revert goesOn
    decide
  · revert isOver
    unfold Over
    decide

theorem notifiedInTime_keepsNotifications :
    ∃ s, Run (system 1000) (Delivers 1000) notifiedInTime s ∧ KeepsNotifications s := by
  have run : Run (system 1000) (Delivers 1000) _ _ := Run.replayed notifiedInTime rfl
  exact ⟨_, run, delivers_keepsNotifications run⟩

end CmsisCpp.ConditionVariable
