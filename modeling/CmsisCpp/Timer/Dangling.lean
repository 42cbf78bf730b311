import CmsisCpp.Timer.Steps

/-! # Expiries that outlive their timer

What the OS has queued for the timer thread is the bare address of a
`cmsis_timer`.  The destructor of `timer` and its move assignment delete the object
without regard to the queue and to the handler. -/
set_option autoImplicit false

namespace CmsisCpp.Timer

open ActionSystem

def HandlerPc.calling : HandlerPc → Option Expiry
  | .callback e => some e
  | .idle | .check _ | .invoke _ | .stop _ => none

def State.awaited (s : State) : List Expiry := s.handler.argument.toList ++ s.queue

structure NeverDangles (s : State) : Prop where
  defined : s.status ≠ .undefined
  alive : ∀ e ∈ s.awaited, ∃ timer, s.impls e.argument = some timer

/-- No timer is destroyed while one of its expiries is awaited, and a callback
during which its timer was destroyed returns true. -/
def OutlivesExpiries (s : State) (a : Action) : Prop :=
  (∀ e ∈ s.awaited, s.deletes a ≠ some e.argument) ∧
    ∀ e ∈ s.handler.calling.toList, a = .callback false → s.impls e.argument ≠ none

instance (s : State) (a : Action) : Decidable (OutlivesExpiries s a) :=
  inferInstanceAs (Decidable (_ ∧ _))

section Step
variable {s s' : State} {a : Action} {e : Expiry}

theorem mem_awaited : e ∈ s.awaited ↔ e ∈ s.queue ∨ s.handler = .check e ∨
    s.handler = .invoke e ∨ s.handler = .stop e := by
  cases handler : s.handler <;>
    simp [State.awaited, HandlerPc.argument, handler, or_comm, eq_comm]

/-- What the handler is to work with it had to work with before, or it is new:
its running timer has just expired, or the callback asks for `stop()`. -/
theorem Taken.awaited_before (taken : Taken s a s') (inv : TimerInv s) (member : e ∈ s'.awaited) :
    e ∈ s.awaited ∨ (s.isRunning e.argument = true ∧ s'.impls = s.impls) ∨
      (a = .callback false ∧ s.handler = .callback e ∧ s'.impls = s.impls) := by
  rw [mem_awaited] at member ⊢
  rcases member with queued | checking | invoking | stopping
  · rcases taken.queued_before inv queued with old | ⟨_, running, same, _⟩
    · exact .inl (.inl old)
    · exact .inr (.inl ⟨running, same⟩)
  · rcases taken.checking_before checking with old | queued
    · exact .inl (.inr (.inl old))
    · exact .inl (.inl queued)
  · rcases taken.invoking_before invoking with old | ⟨checking, _⟩
    · exact .inl (.inr (.inr (.inl old)))
    · exact .inl (.inr (.inl checking))
  · rcases taken.stopping_before stopping with old | asked
    · exact .inl (.inr (.inr (.inr old)))
    · exact .inr (.inr asked)

/-- Only a `timer` that gives up its `cmsis_timer` destroys it. -/
theorem Taken.alive {i : ImplId} {timer : CmsisTimer} (taken : Taken s a s')
    (found : s.impls i = some timer) (kept : s.deletes a ≠ some i) :
    ∃ timer', s'.impls i = some timer' := by
  cases taken with
  | constructed fresh =>
      by_cases new : i = s.allocated
      · subst new
        exact ⟨_, Function.update_self ..⟩
      · exact ⟨timer, by simp [new, found]⟩
  | @deleted objs j timer' deletes found' =>
      have other : i ≠ j := by
        rintro rfl
        exact kept deletes
      exact ⟨timer, by simp [other, found]⟩
  | _ => exact ⟨timer, found⟩

theorem NeverDangles.step (never : NeverDangles s) (inv : TimerInv s) (taken : Taken s a s')
    (outlives : OutlivesExpiries s a) : NeverDangles s' where
  defined := by
    have defined := never.defined
    cases taken with
    | destroyed argument missing =>
        have member : _ ∈ s.awaited := List.mem_append_left _ (Option.mem_toList.mpr argument)
        obtain ⟨timer, found⟩ := never.alive _ member
        rw [missing] at found
        contradiction
    | handlerThrew => simp
    | _ => exact defined
  alive := by
    intro e member
    rcases taken.awaited_before inv member with old | ⟨running, same⟩ | ⟨act, calling, same⟩
    · obtain ⟨timer, found⟩ := never.alive e old
      exact taken.alive found (outlives.1 e old)
    · rw [same]
      exact alive_of_isRunning running
    · have kept := outlives.2 e (by simp [calling, HandlerPc.calling]) act
      rw [same]
      exact Option.ne_none_iff_exists'.mp kept

end Step

/-- In a run in which every timer outlives its expiries, the handler touches only
timers that exist. -/
theorem outlivesExpiries_neverDangles {freq : Int} {acts : List Action} {s : State}
    (run : Run (system freq) OutlivesExpiries acts s) : NeverDangles s := by
  refine run.invariant_under TimerInv NeverDangles run_timerInv ?_ ?_
  · constructor
    · simp [system, State.initial]
    · intro e member
      cases member
  · intro s a s' inv never outlives stepped
    exact never.step inv (step_taken stepped) outlives

def destroyedQueued : List Action :=
  [.user (.construct 0 1000 true false) ⟨1, .osOK⟩, .user (.start 0) ⟨0, .osOK⟩, .expire 1,
    .user (.destroy 0) ⟨0, .osOK⟩, .dispatch, .check]

theorem destroyedQueued_dangles :
    ¬ ∀ (acts : List Action) (s : State), Run (system 1000) Unrestricted acts s →
      NeverDangles s := by
  intro claimed
  have run : Run (system 1000) Unrestricted _ _ := Run.replayed destroyedQueued rfl
  have defined := (claimed _ _ run).defined
  revert defined
  decide

/-- The callback has asked for `stop()` before the timer is destroyed. -/
def destroyedHandled : List Action :=
  [.user (.construct 0 1000 true false) ⟨1, .osOK⟩, .user (.start 0) ⟨0, .osOK⟩, .expire 1,
    .dispatch, .check, .invoke, .callback false, .handlerStop, .user (.destroy 0) ⟨0, .osOK⟩]

theorem destroyedHandled_neverDangles :
    ∃ s, Run (system 1000) OutlivesExpiries destroyedHandled s ∧ NeverDangles s := by
  have run : Run (system 1000) OutlivesExpiries _ _ := Run.replayed destroyedHandled rfl
  exact ⟨_, run, outlivesExpiries_neverDangles run⟩

end CmsisCpp.Timer
