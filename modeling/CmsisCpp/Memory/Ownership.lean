import CmsisCpp.EventFlag.Objects
import CmsisCpp.Memory.Steps

/-! # Ownership of events and memory pools

`event` moves by swapping, `memory_pool` by deleting and then swapping; both delete
only what they own.  The two kinds of objects are used side by side. -/
set_option autoImplicit false

namespace CmsisCpp.Memory

open ActionSystem CallScript Ownership

/-- No constructor throws, and the deletion of a live pool succeeds in a destructor;
the assignment may fail. -/
def Succeeds (s : State) : Action → Prop
  | .construct _ count size answers =>
      (s.call answers (baseMemoryPool count size)).1.isOk = true
  | .destroy _ answers => answers.deleteStatus = .osOK
  | _ => True

instance (s : State) : (a : Action) → Decidable (Succeeds s a)
  | .construct _ count size answers =>
      inferInstanceAs (Decidable ((s.call answers (baseMemoryPool count size)).1.isOk = true))
  | .destroy _ answers => inferInstanceAs (Decidable (answers.deleteStatus = .osOK))
  | .moveConstruct _ _ => .isTrue trivial
  | .moveAssign _ _ _ => .isTrue trivial
  | .makeUnique _ _ => .isTrue trivial
  | .makeShared _ _ => .isTrue trivial
  | .destroyPointer _ => .isTrue trivial

theorem Taken.sound {s s' : State} {a : Action} (taken : Taken s a s')
    (inv : Handles.SoundInv s.handles) (succeeds : Succeeds s a) :
    Handles.SoundInv s'.handles := by
  cases taken with
  | constructed absent valid empty =>
      exact inv.transfers (Handles.osNew_transfers absent valid) Handles.osNew_deleteCalls
  | moved transfers os calls => exact inv.transfers transfers calls
  | destroyed act found valid =>
      subst act
      exact inv.osDelete found valid succeeds rfl
  | @assigned o other id answers handles act different found valid deleted swapped =>
      have ok := Handles.deleteStatus_of_ok deleted
      have disposed := inv.osDelete (x := some 0) found valid ok rfl
      exact disposed.reassigned (Handles.swapIds_reassigned swapped)
  | assignFailed act valid failed => exact inv.osDelete_failed valid failed
  | allocated found live inside fresh =>
      exact ⟨Handles.setOs_estate live ▸ inv.owned, inv.nonnull⟩
  | returned act member found live inside =>
      exact ⟨Handles.setOs_estate live ▸ inv.owned, inv.nonnull⟩
  | threw act member found outside => exact inv
  | dangling act member missing => exact inv

theorem run_sound {acts : List Action} {s : State} (run : Run system Succeeds acts s) :
    Handles.SoundInv s.handles := by
  refine run.invariant (fun s => Handles.SoundInv s.handles) Handles.soundInv_initial ?_
  intro s a s' inv succeeds stepped
  exact (step_taken stepped).sound inv succeeds

def FailedAssignKeeps (s : State) : Prop :=
  ∀ o other answers exn s', s.moveAssign o other answers = some (.error exn, s') →
    s'.handles.objs = s.handles.objs ∧ s'.handles.os = s.handles.os

theorem failedAssignKeeps (s : State) : FailedAssignKeeps s := by
  intro o other answers exn s' taken
  rcases moveAssign_cases taken with ⟨ok, _⟩ | ⟨id, _, failed, after⟩
  · contradiction
  · obtain rfl : s' = _ := after
    rw [Handles.osDelete_failed failed]
    exact ⟨rfl, rfl⟩

def movedAndFailed : List (EventFlag.Action ⊕ Action) :=
  [.inl (.construct 0 1 ⟨⟨1, .osOK⟩, none⟩), .inr (.construct 0 4 8 ⟨⟨2, .osOK⟩, 0⟩),
    .inl (.moveConstruct 1 0), .inl (.moveAssign 1 1), .inr (.construct 1 4 8 ⟨⟨3, .osOK⟩, 0⟩),
    .inr (.moveAssign 0 1 ⟨⟨0, .osErrorResource⟩, 0⟩), .inr (.moveAssign 0 1 ⟨⟨0, .osOK⟩, 0⟩),
    .inl (.destroy 0 ⟨⟨0, .osOK⟩, none⟩), .inl (.destroy 1 ⟨⟨0, .osOK⟩, none⟩),
    .inr (.destroy 0 ⟨⟨0, .osOK⟩, 0⟩), .inr (.destroy 1 ⟨⟨0, .osOK⟩, 0⟩)]

end CmsisCpp.Memory
