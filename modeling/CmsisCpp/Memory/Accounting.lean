import CmsisCpp.Memory.SmartPointers

/-! # How full a pool is

Source: `base_memory_pool::size`, `max_size` and `allocate` in `src/Memory.cpp`.  The OS
counts the blocks of a pool that are allocated; whose they are is known from the smart
pointers. -/
set_option autoImplicit false

namespace CmsisCpp.Memory

open ActionSystem CallScript

inductive InfoCall
  | osMemoryPoolGetCapacity (id : Handle)
  | osMemoryPoolGetCount (id : Handle)
  deriving DecidableEq, Repr

abbrev infoSig : Signature where
  Call := InfoCall
  Reply _ := Nat

def maxSize (id : Handle) : Script infoSig Empty Nat :=
  .ask (.osMemoryPoolGetCapacity id) fun (capacity : Nat) => .done capacity

def size (id : Handle) : Script infoSig Empty Nat :=
  .ask (.osMemoryPoolGetCount id) fun (count : Nat) => .done count

/-- The OS answers `0` for a handle that is none. -/
def info (handles : Handles OsPool) : InfoCall → Nat
  | .osMemoryPoolGetCapacity id => ((handles.os id).map OsPool.count).getD 0
  | .osMemoryPoolGetCount id => ((handles.os id).map fun os => os.allocated.length).getD 0

namespace State

def sizeOf (s : State) (id : Handle) : Except Empty Nat := (size id).eval (info s.handles)

def maxSizeOf (s : State) (id : Handle) : Except Empty Nat := (maxSize id).eval (info s.handles)

def pointersInto (s : State) (id : Handle) : List SmartPointer :=
  s.pointers.filter fun p => p.block.pool = id

def Obtains (s : State) (o : ObjId) : Prop :=
  ∃ answers s', s.make o answers = some s' ∧ s'.made = s.made + 1

end State

/-- No two smart pointers have one block, `size()` is the number of them that have a
block of the pool, and one more is to be had exactly while this is below `max_size()`. -/
structure AccountsBlocks (s : State) : Prop where
  distinct : (s.pointers.map SmartPointer.block).Nodup
  size : ∀ id, s.sizeOf id = .ok (s.pointersInto id).length
  bounded : ∀ id capacity, s.maxSizeOf id = .ok capacity →
    (s.pointersInto id).length ≤ capacity ∧ ∀ p ∈ s.pointersInto id, p.block.index < capacity
  obtains : ∀ o id capacity, s.handles.objs o = some id → s.maxSizeOf id = .ok capacity →
    (s.Obtains o ↔ (s.pointersInto id).length < capacity)

/-! ## The blocks of the OS -/

structure OsPool.Sound (os : OsPool) (id : Handle) : Prop where
  nodup : os.allocated.Nodup
  pool : ∀ block ∈ os.allocated, block.pool = id
  index : ∀ block ∈ os.allocated, block.index < os.count

def PoolsSound (handles : Handles OsPool) : Prop :=
  ∀ id os, handles.os id = some os → os.Sound id

section Pools
variable {id : Handle} {os : OsPool} {handles : Handles OsPool} {s s' : State} {a : Action}

theorem OsPool.Sound.injOn (sound : os.Sound id) :
    ∀ block ∈ os.allocated, ∀ other ∈ os.allocated, block.index = other.index → block = other := by
  intro block member other member' same
  have pool := (sound.pool block member).trans (sound.pool other member').symm
  cases block
  cases other
  simp only at pool same
  rw [pool, same]

theorem OsPool.Sound.indices (sound : os.Sound id) :
    (os.allocated.map Block.index).Nodup ∧
      (os.allocated.map Block.index).Subset (List.range os.count) := by
  refine ⟨sound.nodup.map_on sound.injOn, ?_⟩
  intro index member
  obtain ⟨block, allocated, rfl⟩ := List.mem_map.mp member
  exact List.mem_range.mpr (sound.index block allocated)

theorem OsPool.Sound.length_le (sound : os.Sound id) : os.allocated.length ≤ os.count := by
  obtain ⟨nodup, subset⟩ := sound.indices
  have bound := (nodup.subperm subset).length_le
  rwa [List.length_map, List.length_range] at bound

theorem OsPool.Sound.mem_index (sound : os.Sound id) {index : Nat} :
    index ∈ os.allocated.map Block.index ↔ (⟨id, index⟩ : Block) ∈ os.allocated := by
  constructor
  · intro member
    obtain ⟨block, allocated, rfl⟩ := List.mem_map.mp member
    rwa [← sound.pool block allocated]
  · exact List.mem_map_of_mem

/-- A block is free exactly while fewer than all are allocated. -/
theorem OsPool.Sound.free_iff (sound : os.Sound id) :
    (∃ index < os.count, (⟨id, index⟩ : Block) ∉ os.allocated) ↔
      os.allocated.length < os.count := by
  obtain ⟨nodup, subset⟩ := sound.indices
  constructor
  · rintro ⟨index, inRange, free⟩
    rw [← sound.mem_index] at free
    have more : (index :: os.allocated.map Block.index).Subset (List.range os.count) :=
      List.cons_subset.mpr ⟨List.mem_range.mpr inRange, subset⟩
    have bound := ((List.nodup_cons.mpr ⟨free, nodup⟩).subperm more).length_le
    rwa [List.length_cons, List.length_map, List.length_range] at bound
  · intro room
    by_contra noneFree
    push Not at noneFree
    have all : (List.range os.count).Subset (os.allocated.map Block.index) := by
      intro index inRange
      exact sound.mem_index.mpr (noneFree index (List.mem_range.mp inRange))
    have bound := (List.nodup_range.subperm all).length_le
    rw [List.length_map, List.length_range] at bound
    omega

theorem PoolsSound.setOs (sound : PoolsSound handles) (holds : os.Sound id) :
    PoolsSound (handles.setOs id os) := by
  intro other os' live
  by_cases same : other = id
  · subst same
    obtain rfl : os = os' := by simpa [Handles.setOs] using live
    exact holds
  · exact sound other os' (by simpa [Handles.setOs, same] using live)

theorem OsPool.Sound.allocate (sound : os.Sound id) {index : Nat} (inRange : index < os.count)
    (free : (⟨id, index⟩ : Block) ∉ os.allocated) : (os.allocate ⟨id, index⟩).Sound id where
  nodup := by
    refine List.nodup_append.mpr ⟨sound.nodup, List.nodup_singleton _, ?_⟩
    intro block member other new same
    rw [List.mem_singleton.mp new] at same
    exact free (same ▸ member)
  pool := by
    intro block member
    rcases List.mem_append.mp member with old | new
    · exact sound.pool block old
    · rw [List.mem_singleton.mp new]
  index := by
    intro block member
    rcases List.mem_append.mp member with old | new
    · exact sound.index block old
    · rw [List.mem_singleton.mp new]
      exact inRange

theorem OsPool.Sound.free (sound : os.Sound id) (block : Block) : (os.free block).Sound id where
  nodup := sound.nodup.erase block
  pool := fun other member => sound.pool other (List.mem_of_mem_erase member)
  index := fun other member => sound.index other (List.mem_of_mem_erase member)

theorem kernel_poolsSound (answers : PoolAnswers) (call : PoolCall) (handles : Handles OsPool)
    (sound : PoolsSound handles) : PoolsSound (kernel answers call handles).2 := by
  cases call with
  | osMemoryPoolNew count size =>
      intro id os live
      rcases @Handles.osNew_os _ handles 0 id answers.toOsAnswers _ os none live with
        before | ⟨absent, rfl⟩
      · exact sound id os before
      · exact ⟨List.nodup_nil, by simp, by simp⟩
  | osMemoryPoolDelete id =>
      intro other os live
      exact sound other os (Handles.osDelete_os live)
  | osMemoryPoolAlloc id timeout =>
      simp only [kernel]
      split
      · exact sound
      · rename_i os live
        split
        · rename_i available
          exact sound.setOs ((sound id os live).allocate available.1 available.2)
        · exact sound
  | osMemoryPoolFree id block =>
      simp only [kernel]
      split
      · exact sound
      · rename_i os live
        split
        · exact sound.setOs ((sound id os live).free block)
        · exact sound

theorem call_poolsSound {Val : Type} (sound : PoolsSound s.handles) (answers : PoolAnswers)
    (script : Script poolSig Exn Val) : PoolsSound (s.call answers script).2.handles :=
  Script.run_keeps (kernel_poolsSound answers) script sound

theorem make_poolsSound {o : ObjId} {answers : PoolAnswers} (sound : PoolsSound s.handles)
    (taken : s.make o answers = some s') : PoolsSound s'.handles := by
  simp only [State.make] at taken
  split at taken
  · contradiction
  · split at taken <;> cases taken <;> exact call_poolsSound sound _ _

theorem step_poolsSound (sound : PoolsSound s.handles) (taken : s.step a = some s') :
    PoolsSound s'.handles := by
  simp only [State.step, Option.ite_none_right_eq_some] at taken
  obtain ⟨_, taken⟩ := taken
  cases a with
  | construct o count size answers =>
      simp only [State.construct, Option.ite_none_right_eq_some] at taken
      obtain ⟨_, taken⟩ := taken
      split at taken <;> cases taken <;> exact call_poolsSound sound _ _
  | moveConstruct o other =>
      obtain ⟨handles, moved, rfl⟩ := Option.map_eq_some_iff.mp taken
      have same : handles.os = s.handles.os := (Handles.moveNull_reassigned moved).os
      intro id os live
      exact sound id os (same ▸ live)
  | moveAssign o other answers =>
      obtain ⟨outcome, assigned, rfl⟩ := Option.map_eq_some_iff.mp taken
      simp only [State.moveAssign] at assigned
      split at assigned
      · split at assigned
        · cases assigned
          exact sound
        · split at assigned
          · cases assigned
            exact call_poolsSound sound _ _
          · rename_i id' _
            obtain ⟨handles, swapped, rfl⟩ := Option.map_eq_some_iff.mp assigned
            have same := (Handles.swapIds_reassigned swapped).os
            intro id os live
            exact call_poolsSound sound _ _ id os (same ▸ live)
      · contradiction
  | destroy o answers =>
      simp only [State.destroyObject] at taken
      split at taken
      · contradiction
      · cases taken
        exact call_poolsSound sound _ _
  | makeUnique o answers => exact make_poolsSound sound taken
  | makeShared o answers => exact make_poolsSound sound taken
  | destroyPointer p =>
      simp only [State.destroyPointer, Option.ite_none_right_eq_some] at taken
      obtain ⟨_, taken⟩ := taken
      split at taken
      · cases taken
        exact sound
      · split at taken <;> cases taken <;>
          exact Script.run_keeps (kernel_poolsSound _) _ sound

end Pools

/-! ## Smart pointers -/

section Pointers
variable {s : State} {id : Handle} {os : OsPool} {o : ObjId}

theorem length_pointersInto (s : State) (id : Handle) :
    (s.pointersInto id).length = (blocksIn s.pointers id).length := by
  rw [State.pointersInto, blocksIn, List.length_map]

theorem pointersInto_of_dead (inv : PointerInv s) (dead : s.handles.os id = none) :
    s.pointersInto id = [] := by
  rw [State.pointersInto, List.filter_eq_nil_iff]
  intro p member
  have live := inv.pools p member
  rw [decide_eq_true_eq]
  rintro rfl
  rw [dead] at live
  contradiction

theorem sizeOf_eq (inv : PointerInv s) (id : Handle) :
    s.sizeOf id = .ok (s.pointersInto id).length := by
  cases live : s.handles.os id with
  | none => simp [State.sizeOf, size, info, live, pointersInto_of_dead inv live]
  | some os =>
      have same := (inv.allocated id os live).length_eq
      rw [← length_pointersInto] at same
      simp [State.sizeOf, size, info, live, same]

theorem blocksIn_eq (pointers : List SmartPointer) (id : Handle) :
    blocksIn pointers id =
      (pointers.map SmartPointer.block).filter fun block => block.pool = id := by
  rw [blocksIn, List.filter_map]
  rfl

/-- The blocks of one pool are distinct in the OS, those of different pools anyway. -/
theorem blocks_nodup (inv : PointerInv s) (sound : PoolsSound s.handles) :
    (s.pointers.map SmartPointer.block).Nodup := by
  rw [List.nodup_iff_count_le_one]
  intro block
  by_cases member : block ∈ s.pointers.map SmartPointer.block
  · obtain ⟨p, alive, rfl⟩ := List.mem_map.mp member
    obtain ⟨os, live⟩ := Option.isSome_iff_exists.mp (inv.pools p alive)
    have nodup := (inv.allocated _ os live).nodup (sound _ os live).nodup
    rw [blocksIn_eq] at nodup
    have once := List.nodup_iff_count_le_one.mp nodup p.block
    rwa [List.count_filter (by simp)] at once
  · rw [List.count_eq_zero.mpr member]
    exact Nat.zero_le 1

theorem make_obtains (found : s.handles.objs o = some id) (live : s.handles.os id = some os) :
    s.Obtains o ↔ ∃ index < os.count, (⟨id, index⟩ : Block) ∉ os.allocated := by
  constructor
  · rintro ⟨answers, s', made, more⟩
    by_cases available : answers.index < os.count ∧ (⟨id, answers.index⟩ : Block) ∉ os.allocated
    · exact ⟨answers.index, available.1, available.2⟩
    · simp [State.make, State.call, allocate, kernel, found, live, available] at made
      rw [← made] at more
      exact absurd more (Nat.succ_ne_self _).symm
  · rintro ⟨index, inRange, free⟩
    refine ⟨⟨⟨0, .osOK⟩, index⟩, ?_⟩
    simp [State.make, State.call, allocate, kernel, found, live, inRange, free]

theorem make_dead (found : s.handles.objs o = some id) (dead : s.handles.os id = none) :
    ¬ s.Obtains o := by
  rintro ⟨answers, s', made, more⟩
  simp [State.make, State.call, allocate, kernel, found, dead] at made
  rw [← made] at more
  exact absurd more (Nat.succ_ne_self _).symm

theorem maxSizeOf_live (live : s.handles.os id = some os) : s.maxSizeOf id = .ok os.count := by
  simp [State.maxSizeOf, maxSize, info, live]

theorem maxSizeOf_dead (dead : s.handles.os id = none) : s.maxSizeOf id = .ok 0 := by
  simp [State.maxSizeOf, maxSize, info, dead]

theorem length_allocated (inv : PointerInv s) (live : s.handles.os id = some os) :
    (s.pointersInto id).length = os.allocated.length := by
  rw [length_pointersInto]
  exact (inv.allocated id os live).length_eq.symm

theorem accountsBlocks_of_inv (inv : PointerInv s) (sound : PoolsSound s.handles) :
    AccountsBlocks s where
  distinct := blocks_nodup inv sound
  size := sizeOf_eq inv
  bounded := by
    intro id capacity isCapacity
    cases live : s.handles.os id with
    | none => simp [pointersInto_of_dead inv live]
    | some os =>
        rw [maxSizeOf_live live, Except.ok.injEq] at isCapacity
        subst isCapacity
        have holds := sound id os live
        refine ⟨length_allocated inv live ▸ holds.length_le, ?_⟩
        intro p member
        obtain ⟨alive, inside⟩ := List.mem_filter.mp member
        have pool : p.block.pool = id := by simpa using inside
        exact holds.index p.block ((inv.inside_iff alive live).mpr pool)
  obtains := by
    intro o id capacity found isCapacity
    cases live : s.handles.os id with
    | none =>
        rw [maxSizeOf_dead live, Except.ok.injEq] at isCapacity
        subst isCapacity
        exact iff_of_false (make_dead found live) (Nat.not_lt_zero _)
    | some os =>
        rw [maxSizeOf_live live, Except.ok.injEq] at isCapacity
        subst isCapacity
        rw [make_obtains found live, length_allocated inv live]
        exact (sound id os live).free_iff

end Pointers

/-- In a run in which no OS pool is deleted under its smart pointers, and each of them is
destroyed when the pool object of its deleter has the OS pool of its block. -/
theorem run_accountsBlocks {acts : List Action} {s : State}
    (run : Run system (fun s a => KeepsPools s a ∧ ReturnsToOrigin s a) acts s) :
    AccountsBlocks s := by
  have sound : PoolsSound s.handles := by
    refine run.invariant (fun s => PoolsSound s.handles) ?_ ?_
    · intro id os live
      simp [system, State.initial, Handles.initial] at live
    · intro s a s' sound _ taken
      exact step_poolsSound sound taken
  exact accountsBlocks_of_inv (run_pointerInv run) sound

/-- A pool of two blocks is full, then one comes back and is given to another pointer. -/
def fillsPool : List Action :=
  [.construct 0 2 8 ⟨⟨1, .osOK⟩, 0⟩, .construct 1 4 8 ⟨⟨2, .osOK⟩, 0⟩,
    .makeUnique 0 ⟨⟨0, .osOK⟩, 0⟩, .makeShared 0 ⟨⟨0, .osOK⟩, 1⟩, .makeUnique 0 ⟨⟨0, .osOK⟩, 0⟩,
    .makeUnique 1 ⟨⟨0, .osOK⟩, 1⟩, .destroyPointer ⟨0, ⟨1, 0⟩, 0⟩, .makeUnique 0 ⟨⟨0, .osOK⟩, 0⟩]

theorem fillsPool_accounts :
    ∃ s, Run system (fun s a => KeepsPools s a ∧ ReturnsToOrigin s a) fillsPool s ∧
      s.sizeOf 1 = .ok 2 ∧ s.maxSizeOf 1 = .ok 2 ∧ AccountsBlocks s := by
  have run : Run system (fun s a => KeepsPools s a ∧ ReturnsToOrigin s a) _ _ :=
    Run.replayed fillsPool rfl
  exact ⟨_, run, rfl, rfl, run_accountsBlocks run⟩

end CmsisCpp.Memory
