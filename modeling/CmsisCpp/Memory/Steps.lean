import CmsisCpp.Memory.Model

/-! # What a step of the memory pools can do

`Taken s a s'` lists, one constructor each, the outcomes of a step with the guard
under which it happens; `step_taken` is the inversion of the executable step
function. -/
set_option autoImplicit false

namespace CmsisCpp.Memory

open ActionSystem CallScript Ownership

inductive Taken (s : State) (a : Action) : State → Prop
  | constructed {o : ObjId} {os : OsPool} {answers : OsAnswers} (absent : s.handles.objs o = none)
      (valid : (s.handles.osNew answers os).1 ≠ 0) (empty : os.allocated = []) :
      Taken s a { s with
        handles := (s.handles.osNew answers os).2.setId o (some (s.handles.osNew answers os).1) }
  | moved {handles : Handles OsPool} (transfers : Transfers s.handles.estate handles.estate)
      (os : handles.os = s.handles.os) (calls : handles.deleteCalls = s.handles.deleteCalls) :
      Taken s a { s with handles := handles }
  | destroyed {o : ObjId} {id : Handle} {answers : PoolAnswers} (act : a = .destroy o answers)
      (found : s.handles.objs o = some id) (valid : id ≠ 0) :
      Taken s a { s with
        handles := (s.handles.osDelete answers.toOsAnswers id).2.setId o none }
  | assigned {o other : ObjId} {id : Handle} {answers : PoolAnswers} {handles : Handles OsPool}
      (act : a = .moveAssign o other answers) (different : o ≠ other)
      (found : s.handles.objs o = some id) (valid : id ≠ 0)
      (deleted : (s.handles.osDelete answers.toOsAnswers id).1 = .osOK)
      (swapped : ((s.handles.osDelete answers.toOsAnswers id).2.setId o (some 0)).swapIds o other =
        some handles) : Taken s a { s with handles := handles }
  | assignFailed {o other : ObjId} {id : Handle} {answers : PoolAnswers}
      (act : a = .moveAssign o other answers) (valid : id ≠ 0)
      (failed : (s.handles.osDelete answers.toOsAnswers id).1 ≠ .osOK) :
      Taken s a { s with handles := (s.handles.osDelete answers.toOsAnswers id).2 }
  | allocated {o : ObjId} {id : Handle} {os : OsPool} {block : Block}
      (found : s.handles.objs o = some id) (live : s.handles.os id = some os)
      (inside : block.pool = id) (fresh : block ∉ os.allocated) :
      Taken s a { s with
        handles := s.handles.setOs id (os.allocate block)
        made := s.made + 1
        pointers := s.pointers ++ [⟨s.made, block, o⟩] }
  | returned {p : SmartPointer} {id : Handle} {os : OsPool} (act : a = .destroyPointer p)
      (member : p ∈ s.pointers) (found : s.handles.objs p.pool = some id)
      (live : s.handles.os id = some os) (inside : p.block ∈ os.allocated) :
      Taken s a { s with
        handles := s.handles.setOs id (os.free p.block)
        pointers := s.pointers.erase p
        returned := s.returned ++ [⟨p, id⟩] }
  | threw {p : SmartPointer} {id : Handle} (act : a = .destroyPointer p)
      (member : p ∈ s.pointers) (found : s.handles.objs p.pool = some id)
      (outside : ∀ os, s.handles.os id = some os → p.block ∉ os.allocated) :
      Taken s a { s with pointers := s.pointers.erase p, status := .terminated }
  | dangling {p : SmartPointer} (act : a = .destroyPointer p) (member : p ∈ s.pointers)
      (missing : s.handles.objs p.pool = none) :
      Taken s a { s with pointers := s.pointers.erase p, status := .undefined }

section Inversion
variable {s s' : State} {a : Action} {o other : ObjId} {id : Handle} {answers : PoolAnswers}

theorem construct_taken {count size : Nat} (taken : s.construct o count size answers = some s') :
    Taken s a s' := by
  simp only [State.construct, Option.ite_none_right_eq_some] at taken
  obtain ⟨absent, taken⟩ := taken
  by_cases failed : (s.handles.osNew answers.toOsAnswers ⟨count, size, []⟩).1 = 0
  · have unchanged := Handles.osNew_failed failed
    simp [State.call, baseMemoryPool, kernel, failed, unchanged] at taken
    exact taken ▸ .moved .refl rfl rfl
  · simp [State.call, baseMemoryPool, kernel, failed] at taken
    exact taken ▸ .constructed absent failed rfl

theorem delete_run (id : Handle) (handles : Handles OsPool) :
    (delete id).run (kernel answers) handles =
      (if (handles.osDelete answers.toOsAnswers id).1 = .osOK then .ok ()
      else .error (.system (osFailure (handles.osDelete answers.toOsAnswers id).1
        (strError "osMemoryPoolDelete" id))), (handles.osDelete answers.toOsAnswers id).2) := by
  by_cases ok : (handles.osDelete answers.toOsAnswers id).1 = .osOK <;> simp [delete, kernel, ok]

theorem destroyObject_taken (taken : s.destroyObject o answers = some s') :
    Taken s (.destroy o answers) s' := by
  unfold State.destroyObject at taken
  split at taken
  · contradiction
  · rename_i id found
    by_cases null : id = 0
    · simp [State.call, destroy, null] at taken
      subst taken
      refine .moved ?_ rfl rfl
      rw [Handles.setId_empty (by simp [found, null, Handles.ownedBy]) rfl]
    · simp [State.call, destroy, null, delete_run] at taken
      exact taken ▸ .destroyed rfl found null

/-- What `operator=` does, with the exception it throws if any. -/
theorem moveAssign_cases {outcome : Except Exn Unit × State}
    (taken : s.moveAssign o other answers = some outcome) :
    (outcome.1 = .ok () ∧ Taken s (.moveAssign o other answers) outcome.2) ∨
      (∃ id, id ≠ 0 ∧ (s.handles.osDelete answers.toOsAnswers id).1 ≠ .osOK ∧
        outcome.2 = { s with handles := (s.handles.osDelete answers.toOsAnswers id).2 }) := by
  unfold State.moveAssign at taken
  split at taken
  · rename_i id id' found found'
    by_cases same : o = other
    · rw [if_pos same] at taken
      cases taken
      exact .inl ⟨rfl, .moved .refl rfl rfl⟩
    · rw [if_neg same] at taken
      by_cases null : id = 0
      · subst null
        simp only [State.call, dispose, ne_eq, not_true_eq_false, if_false, Script.run_done]
          at taken
        obtain ⟨handles, swapped, rfl⟩ := Option.map_eq_some_iff.mp taken
        have kept : s.handles.setId o (some 0) = s.handles := by
          simp [Handles.setId, ← found]
        rw [kept] at swapped
        have reassigned := Handles.swapIds_reassigned swapped
        exact .inl ⟨rfl, .moved reassigned.transfers reassigned.os reassigned.deleteCalls⟩
      · by_cases ok : (s.handles.osDelete answers.toOsAnswers id).1 = .osOK
        · simp [State.call, dispose, null, Script.run_bind, delete_run, ok] at taken
          obtain ⟨handles, swapped, rfl⟩ := taken
          exact .inl ⟨rfl, .assigned rfl same found null ok swapped⟩
        · simp [State.call, dispose, null, Script.run_bind, delete_run, ok] at taken
          subst taken
          exact .inr ⟨id, null, ok, rfl⟩
  · contradiction

theorem make_taken (taken : s.make o answers = some s') : Taken s a s' := by
  unfold State.make at taken
  split at taken
  · contradiction
  · rename_i id found
    cases live : s.handles.os id with
    | none =>
        simp [State.call, allocate, kernel, live] at taken
        exact taken ▸ .moved .refl rfl rfl
    | some os =>
        by_cases available : answers.index < os.count ∧ (⟨id, answers.index⟩ : Block) ∉ os.allocated
        · simp [State.call, allocate, kernel, live, available] at taken
          exact taken ▸ .allocated found live rfl available.2
        · simp [State.call, allocate, kernel, live, available] at taken
          exact taken ▸ .moved .refl rfl rfl

theorem deallocate_run (answers : PoolAnswers) (id : Handle) (block : Block)
    (handles : Handles OsPool) :
    (∃ os, handles.os id = some os ∧ block ∈ os.allocated ∧
        (deallocate id block).run (kernel answers) handles =
          (.ok (), handles.setOs id (os.free block))) ∨
      ((∀ os, handles.os id = some os → block ∉ os.allocated) ∧
        ∃ exn, (deallocate id block).run (kernel answers) handles = (.error exn, handles)) := by
  cases live : handles.os id with
  | none =>
      right
      simp [deallocate, kernel, live]
  | some os =>
      by_cases inside : block ∈ os.allocated
      · left
        exact ⟨os, rfl, inside, by simp [deallocate, kernel, live, inside]⟩
      · right
        simp [deallocate, kernel, live, inside]

theorem destroyPointer_taken {p : SmartPointer} (taken : s.destroyPointer p = some s') :
    Taken s (.destroyPointer p) s' := by
  simp only [State.destroyPointer, Option.ite_none_right_eq_some] at taken
  obtain ⟨member, taken⟩ := taken
  split at taken
  · rename_i missing
    cases taken
    exact .dangling rfl member missing
  · rename_i id found
    rcases deallocate_run ⟨⟨0, .osOK⟩, 0⟩ id p.block s.handles with
      ⟨os, live, inside, ran⟩ | ⟨outside, exn, ran⟩
    · simp only [State.call, ran, Option.some.injEq] at taken
      exact taken ▸ .returned rfl member found live inside
    · simp only [State.call, ran, Option.some.injEq] at taken
      exact taken ▸ .threw rfl member found outside

theorem step_taken (taken : s.step a = some s') : Taken s a s' := by
  simp only [State.step, Option.ite_none_right_eq_some] at taken
  obtain ⟨_, taken⟩ := taken
  cases a with
  | construct o count size answers => exact construct_taken taken
  | moveConstruct o other =>
      obtain ⟨handles, moved, rfl⟩ := Option.map_eq_some_iff.mp taken
      have reassigned := Handles.moveNull_reassigned moved
      exact .moved reassigned.transfers reassigned.os reassigned.deleteCalls
  | moveAssign o other answers =>
      obtain ⟨outcome, assigned, rfl⟩ := Option.map_eq_some_iff.mp taken
      rcases moveAssign_cases assigned with ⟨_, taken⟩ | ⟨id, valid, failed, after⟩
      · exact taken
      · rw [after]
        exact .assignFailed rfl valid failed
  | destroy o answers => exact destroyObject_taken taken
  | makeUnique o answers => exact make_taken taken
  | makeShared o answers => exact make_taken taken
  | destroyPointer p => exact destroyPointer_taken taken

end Inversion

end CmsisCpp.Memory
