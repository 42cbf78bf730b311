import CmsisCpp.Library.Custody
import CmsisCpp.Memory.Steps

/-! # Where a deleter returns its block

The deleter refers to a pool object, the block belongs to an OS pool, and the move
operations carry the handle of the OS pool from one object to another. -/
set_option autoImplicit false

namespace CmsisCpp.Memory

open ActionSystem CallScript

def blocksIn (pointers : List SmartPointer) (id : Handle) : List Block :=
  (pointers.filter fun p => p.block.pool = id).map SmartPointer.block

namespace State

def alive (s : State) : List Nat := s.pointers.map SmartPointer.serial

def returnedSerials (s : State) : List Nat := s.returned.map fun r => r.pointer.serial

def ledger (s : State) : Custody.Ledger Unit where
  kept _ := s.alive
  issued := s.made
  handed := s.returnedSerials

end State

/-- Every smart pointer that was destroyed has returned its block, once, to the OS
pool the block came from; the OS pools miss the blocks of the others, and no others. -/
structure ReturnsBlocks (s : State) : Prop where
  noError : s.status = .running
  toOrigin : ∀ r ∈ s.returned, r.id = r.pointer.block.pool
  once : s.returnedSerials.Nodup
  settled : ∀ n < s.made, n ∈ s.returnedSerials ↔ n ∉ s.alive
  allocated : ∀ id os, s.handles.os id = some os → os.allocated.Perm (blocksIn s.pointers id)

def KeepsPools (s : State) (a : Action) : Prop :=
  ∀ s' ∈ s.step a, ∀ p ∈ s'.pointers, (s'.handles.os p.block.pool).isSome = true

instance (s : State) (a : Action) : Decidable (KeepsPools s a) :=
  inferInstanceAs (Decidable (∀ s' ∈ s.step a, ∀ p ∈ s'.pointers, _))

/-- The pool object that the deleter refers to has the OS pool of the block. -/
def ReturnsToOrigin (s : State) : Action → Prop
  | .destroyPointer p => s.handles.objs p.pool = some p.block.pool
  | _ => True

instance (s : State) : (a : Action) → Decidable (ReturnsToOrigin s a)
  | .destroyPointer p => inferInstanceAs (Decidable (s.handles.objs p.pool = some p.block.pool))
  | .construct _ _ _ _ => .isTrue trivial
  | .moveConstruct _ _ => .isTrue trivial
  | .moveAssign _ _ _ => .isTrue trivial
  | .destroy _ _ => .isTrue trivial
  | .makeUnique _ _ => .isTrue trivial
  | .makeShared _ _ => .isTrue trivial

structure PointerInv (s : State) : Prop where
  running : s.status = .running
  pools : ∀ p ∈ s.pointers, (s.handles.os p.block.pool).isSome = true
  allocated : ∀ id os, s.handles.os id = some os → os.allocated.Perm (blocksIn s.pointers id)
  origin : ∀ r ∈ s.returned, r.id = r.pointer.block.pool
  custody : Custody.Sound s.ledger

/-! ## Blocks -/

section Blocks
variable {pointers : List SmartPointer} {p : SmartPointer} {id : Handle}

theorem mem_blocksIn {block : Block} :
    block ∈ blocksIn pointers id ↔ (∃ p ∈ pointers, p.block = block) ∧ block.pool = id := by
  simp only [blocksIn, List.mem_map, List.mem_filter, decide_eq_true_eq]
  constructor
  · rintro ⟨p, ⟨member, pool⟩, rfl⟩
    exact ⟨⟨p, member, rfl⟩, pool⟩
  · rintro ⟨⟨p, member, rfl⟩, pool⟩
    exact ⟨p, ⟨member, pool⟩, rfl⟩

theorem blocksIn_append_self (inside : p.block.pool = id) :
    blocksIn (pointers ++ [p]) id = blocksIn pointers id ++ [p.block] := by
  simp [blocksIn, inside]

theorem blocksIn_append_other (outside : p.block.pool ≠ id) :
    blocksIn (pointers ++ [p]) id = blocksIn pointers id := by
  simp [blocksIn, outside]

theorem blocksIn_erase_self (member : p ∈ pointers) (inside : p.block.pool = id) :
    (blocksIn pointers id).Perm (p.block :: blocksIn (pointers.erase p) id) := by
  have split := ((List.perm_cons_erase member).filter fun p => p.block.pool = id).map
    SmartPointer.block
  rwa [List.filter_cons_of_pos (by simp [inside]), List.map_cons] at split

theorem blocksIn_erase_other (member : p ∈ pointers) (outside : p.block.pool ≠ id) :
    (blocksIn pointers id).Perm (blocksIn (pointers.erase p) id) := by
  have split := ((List.perm_cons_erase member).filter fun p => p.block.pool = id).map
    SmartPointer.block
  rwa [List.filter_cons_of_neg (by simp [outside])] at split

end Blocks

/-! ## Steps -/

section Step
variable {s s' : State} {a : Action} {p : SmartPointer} {id : Handle} {os : OsPool}

/-- An OS pool counts the block of a smart pointer as allocated exactly when it is
the pool of that block. -/
theorem PointerInv.inside_iff (inv : PointerInv s) (member : p ∈ s.pointers)
    (live : s.handles.os id = some os) : p.block ∈ os.allocated ↔ p.block.pool = id := by
  rw [(inv.allocated id os live).mem_iff, mem_blocksIn]
  constructor
  · exact And.right
  · intro pool
    exact ⟨⟨p, member, rfl⟩, pool⟩

theorem PointerInv.setHandles (inv : PointerInv s) {handles : Handles OsPool}
    (change : ∀ id os, handles.os id = some os →
      s.handles.os id = some os ∨ (s.handles.os id = none ∧ os.allocated = []))
    (pools : ∀ p ∈ s.pointers, (handles.os p.block.pool).isSome = true) :
    PointerInv { s with handles := handles } where
  running := inv.running
  pools := pools
  allocated := by
    intro id os live
    rcases change id os live with before | ⟨absent, empty⟩
    · exact inv.allocated id os before
    · have none : blocksIn s.pointers id = [] := by
        apply List.eq_nil_iff_forall_not_mem.mpr
        intro block member
        obtain ⟨⟨p, alive, rfl⟩, pool⟩ := mem_blocksIn.mp member
        have isLive := inv.pools p alive
        rw [pool, absent] at isLive
        contradiction
      rw [empty]
      exact none ▸ .nil
  origin := inv.origin
  custody := inv.custody

theorem PointerInv.allocate (inv : PointerInv s) {o : ObjId} {block : Block}
    (live : s.handles.os id = some os) (inside : block.pool = id) :
    PointerInv { s with
      handles := s.handles.setOs id (os.allocate block)
      made := s.made + 1
      pointers := s.pointers ++ [⟨s.made, block, o⟩] } where
  running := inv.running
  pools := by
    intro p member
    by_cases same : p.block.pool = id
    · simp [Handles.setOs, same]
    · rcases List.mem_append.mp member with old | new
      · simpa [Handles.setOs, same] using inv.pools p old
      · rw [List.mem_singleton.mp new] at same
        contradiction
  allocated := by
    intro x os' found
    by_cases same : x = id
    · subst same
      obtain rfl : os.allocate block = os' := by simpa [Handles.setOs] using found
      rw [blocksIn_append_self inside]
      exact (inv.allocated x os live).append_right [block]
    · rw [blocksIn_append_other (by rw [inside]; exact Ne.symm same)]
      exact inv.allocated x os' (by simpa [Handles.setOs, same] using found)
  origin := inv.origin
  custody := by
    refine inv.custody.intake () ?_ ?_ rfl rfl
    · change ((s.pointers ++ [_]).map SmartPointer.serial).Perm _
      rw [List.map_append]
      exact List.perm_append_singleton _ _
    · intro x other
      exact absurd rfl other

theorem PointerInv.free (inv : PointerInv s) (member : p ∈ s.pointers)
    (live : s.handles.os id = some os) (pool : p.block.pool = id) :
    PointerInv { s with
      handles := s.handles.setOs id (os.free p.block)
      pointers := s.pointers.erase p
      returned := s.returned ++ [⟨p, id⟩] } where
  running := inv.running
  pools := by
    intro q rest
    by_cases same : q.block.pool = id
    · simp [Handles.setOs, same]
    · simpa [Handles.setOs, same] using inv.pools q (List.mem_of_mem_erase rest)
  allocated := by
    intro x os' found
    by_cases same : x = id
    · subst same
      obtain rfl : os.free p.block = os' := by simpa [Handles.setOs] using found
      have before := (inv.allocated x os live).trans (blocksIn_erase_self member pool)
      simpa [OsPool.free] using before.erase p.block
    · have other : p.block.pool ≠ x := by
        rw [pool]
        exact Ne.symm same
      have before := inv.allocated x os' (by simpa [Handles.setOs, same] using found)
      exact before.trans (blocksIn_erase_other member other)
  origin := by
    intro r returned
    rcases List.mem_append.mp returned with old | new
    · exact inv.origin r old
    · rw [List.mem_singleton.mp new]
      exact pool.symm
  custody := by
    refine inv.custody.handover () p.serial ?_ ?_ rfl ?_
    · exact (List.perm_cons_erase member).map SmartPointer.serial
    · intro x other
      exact absurd rfl other
    · simp [State.ledger, State.returnedSerials]

theorem Taken.pointerInv (taken : Taken s a s') (inv : PointerInv s)
    (pools : ∀ p ∈ s'.pointers, (s'.handles.os p.block.pool).isSome = true)
    (returns : ReturnsToOrigin s a) : PointerInv s' := by
  cases taken with
  | constructed absent valid empty =>
      refine inv.setHandles ?_ pools
      intro id os live
      rcases Handles.osNew_os live with before | ⟨absent, rfl⟩
      · exact .inl before
      · exact .inr ⟨absent, empty⟩
  | moved transfers same calls =>
      refine inv.setHandles ?_ pools
      intro id os live
      exact .inl (same ▸ live)
  | destroyed act found valid =>
      refine inv.setHandles ?_ pools
      intro id os live
      exact .inl (Handles.osDelete_os live)
  | assigned act different found valid deleted swapped =>
      refine inv.setHandles ?_ pools
      intro id os live
      rw [(Handles.swapIds_reassigned swapped).os] at live
      exact .inl (Handles.osDelete_os live)
  | assignFailed act valid failed =>
      refine inv.setHandles ?_ pools
      intro id os live
      exact .inl (Handles.osDelete_os live)
  | allocated found live inside fresh => exact inv.allocate live inside
  | returned act member found live inside =>
      exact inv.free member live ((inv.inside_iff member live).mp inside)
  | @threw p id act member found outside =>
      subst act
      obtain rfl : id = p.block.pool := Option.some.inj (found.symm.trans returns)
      obtain ⟨os, live⟩ := Option.isSome_iff_exists.mp (inv.pools p member)
      exact absurd ((inv.inside_iff member live).mpr rfl) (outside os live)
  | dangling act member missing =>
      subst act
      exact absurd (missing.symm.trans returns) (by simp)

/-- The destructor of a smart pointer succeeds exactly when the pool object that
the deleter refers to has the OS pool of the block. -/
theorem destroyPointer_running_iff (inv : PointerInv s)
    (taken : s.destroyPointer p = some s') :
    s'.status = .running ↔ ReturnsToOrigin s (.destroyPointer p) := by
  simp only [State.destroyPointer, Option.ite_none_right_eq_some] at taken
  obtain ⟨member, taken⟩ := taken
  split at taken
  · rename_i missing
    cases taken
    simp [ReturnsToOrigin, missing]
  · rename_i id found
    simp only [ReturnsToOrigin, found, Option.some.injEq]
    rcases deallocate_run ⟨⟨0, .osOK⟩, 0⟩ id p.block s.handles with
      ⟨os, live, inside, ran⟩ | ⟨outside, exn, ran⟩
    · simp only [State.call, ran, Option.some.injEq] at taken
      subst taken
      have pool := (inv.inside_iff member live).mp inside
      exact ⟨fun _ => pool.symm, fun _ => inv.running⟩
    · simp only [State.call, ran, Option.some.injEq] at taken
      subst taken
      constructor
      · intro running
        contradiction
      · rintro rfl
        obtain ⟨os, live⟩ := Option.isSome_iff_exists.mp (inv.pools p member)
        exact absurd ((inv.inside_iff member live).mpr rfl) (outside os live)

end Step

theorem run_pointerInv {acts : List Action} {s : State}
    (run : Run system (fun s a => KeepsPools s a ∧ ReturnsToOrigin s a) acts s) :
    PointerInv s := by
  refine run.invariant PointerInv ?_ ?_
  · constructor
    · rfl
    · simp [system, State.initial]
    · simp [system, State.initial, Handles.initial]
    · simp [system, State.initial]
    · exact Custody.Sound.empty
  · intro s a s' inv allowed stepped
    exact (step_taken stepped).pointerInv inv (allowed.1 s' stepped) allowed.2

/-- In a run in which no OS pool is deleted under its smart pointers, and each of
them is destroyed when the pool object of its deleter has the OS pool of its block,
every block goes back once to where it came from. -/
theorem returnsToOrigin_returnsBlocks {acts : List Action} {s : State}
    (run : Run system (fun s a => KeepsPools s a ∧ ReturnsToOrigin s a) acts s) :
    ReturnsBlocks s := by
  have inv := run_pointerInv run
  refine ⟨inv.running, inv.origin, inv.custody.handedOnce, ?_, inv.allocated⟩
  intro n known
  rcases inv.custody.whereabouts known with ⟨returned, gone⟩ | ⟨not, _, alive, _⟩
  · exact iff_of_true returned (gone ())
  · exact iff_of_false not (not_not_intro alive)

def movedBack : List Action :=
  [.construct 0 4 8 ⟨⟨1, .osOK⟩, 0⟩, .makeUnique 0 ⟨⟨0, .osOK⟩, 2⟩, .moveConstruct 1 0,
    .moveAssign 0 1 ⟨⟨0, .osOK⟩, 0⟩, .destroyPointer ⟨0, ⟨1, 2⟩, 0⟩]

theorem movedBack_returnsBlocks :
    ∃ s, Run system (fun s a => KeepsPools s a ∧ ReturnsToOrigin s a) movedBack s ∧
      ReturnsBlocks s := by
  have run : Run system (fun s a => KeepsPools s a ∧ ReturnsToOrigin s a) _ _ :=
    Run.replayed movedBack rfl
  exact ⟨_, run, returnsToOrigin_returnsBlocks run⟩

/-- The deleter uses the pool object that was moved from, with its null handle. -/
def movedAway : List Action :=
  [.construct 0 4 8 ⟨⟨1, .osOK⟩, 0⟩, .makeUnique 0 ⟨⟨0, .osOK⟩, 2⟩, .moveConstruct 1 0,
    .destroyPointer ⟨0, ⟨1, 2⟩, 0⟩]

theorem movedAway_terminates :
    ¬ ∀ (acts : List Action) (s : State), Run system KeepsPools acts s → ReturnsBlocks s := by
  intro claimed
  have run : Run system KeepsPools _ _ := Run.replayed movedAway rfl
  have running := (claimed _ _ run).noError
  revert running
  decide

end CmsisCpp.Memory
