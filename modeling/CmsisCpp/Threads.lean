import CmsisCpp.Dispatch
import CmsisCpp.Library.FixedWidth
import CmsisCpp.Library.Interference
import CmsisCpp.Thread.Control

/-! # Enumerating the threads

Source: `include/Threads.h`, `src/Threads.cpp`.  `threads::enumerate` asks the kernel how
many threads there are, which they are and then about each of them, with the
scheduler locked by a `dispatch` object all the while.  Other threads may create and
end threads whenever the scheduler is not locked against them; interrupt handlers may
make threads ready at any time. -/
set_option autoImplicit false

namespace CmsisCpp.Threads

open ActionSystem CallScript FixedWidth Interference
open Dispatch (DispatchCall KernelLock dispatchSig)
open Thread (OsThreadState)

/-! ## The library -/

inductive ThreadsCall
  | osThreadGetCount
  | osThreadEnumerate (arrayItems : Nat)
  | osThreadGetName (id : Handle)
  | osThreadGetState (id : Handle)
  | osThreadGetPriority (id : Handle)
  | osThreadGetStackSize (id : Handle)
  | osThreadGetStackSpace (id : Handle)
  -- the memory of a `std::vector`
  | allocate (items : Nat)
  deriving DecidableEq, Repr

abbrev threadsSig : Signature where
  Call := ThreadsCall
  Reply
    | .osThreadGetCount => Nat
    | .osThreadEnumerate _ => List Handle
    | .osThreadGetName _ => Option String
    | .osThreadGetState _ => OsThreadState
    | .osThreadGetPriority _ => Int
    | .osThreadGetStackSize _ => Nat
    | .osThreadGetStackSpace _ => Nat
    | .allocate _ => Bool

/-- The calls of the enumeration; the lock is that of `dispatch`. -/
abbrev callSig : Signature := dispatchSig.sum threadsSig

structure Info where
  handle : Handle
  name : Option String
  state : Int
  priority : Int
  stackSize : Nat
  stackSpace : Nat
  deriving DecidableEq, Repr

/-- An exception would leave a function that is `noexcept`. -/
inductive Abort
  | terminate
  deriving DecidableEq, Repr

def code : OsThreadState → Int
  | .inactive => 0
  | .ready => 1
  | .running => 2
  | .blocked => 3
  | .terminated => 4
  | .error => -1

def count : Script threadsSig Abort Nat :=
  .ask .osThreadGetCount fun (count : Nat) => .done count

def vector (items : Nat) : Script threadsSig Abort Unit :=
  .ask (.allocate items) fun (obtained : Bool) => if obtained then .done () else .throw .terminate

/-- One round of the loop. -/
def info (tid : Handle) : Script threadsSig Abort Info :=
  .ask (.osThreadGetName tid) fun (name : Option String) =>
    .ask (.osThreadGetState tid) fun (state : OsThreadState) =>
      .ask (.osThreadGetPriority tid) fun (priority : Int) =>
        .ask (.osThreadGetStackSize tid) fun (stackSize : Nat) =>
          .ask (.osThreadGetStackSpace tid) fun (stackSpace : Nat) =>
            .done ⟨tid, name, unsigned 32 (code state), unsigned 32 priority, stackSize,
              stackSpace⟩

/-- The loop, with the infos filled in so far. -/
def fill (infos : List Info) : List Handle → Script threadsSig Abort (List Info)
  | [] => .done infos
  | tid :: rest => (info tid).bind fun info => fill (infos ++ [info]) rest

/-- What is done with the scheduler locked. -/
def collect : Script threadsSig Abort (List Info) :=
  count.bind fun items => (vector items).bind fun _ =>
    .ask (.osThreadEnumerate items) fun (threadArray : List Handle) =>
      (vector threadArray.length).bind fun _ => fill [] threadArray

/-- `threads::enumerate`; the destructor of the `std::lock_guard` comes last. -/
def enumerate : Script callSig Abort (List Info) :=
  (Dispatch.lock.inl (fun _ => .terminate) id : Script callSig Abort Int).bind fun previous =>
    (collect.inr id id : Script callSig Abort (List Info)).bind fun infos =>
      (Dispatch.unlock previous).inl (fun _ => .terminate) fun _ => infos

/-! ## The kernel -/

structure Row where
  id : Handle
  name : String
  state : OsThreadState
  priority : Int
  stackSize : Nat
  deriving DecidableEq, Repr

/-- What an interrupt handler does not change. -/
def Row.static (row : Row) : Row := { row with state := .ready }

/-- The lock, whether it is the enumerating thread that runs, and the threads.  Three
marks record the past: the lock and the threads when the enumeration locked the
scheduler, the threads at each of its calls, and the lock that it has restored. -/
structure Kernel where
  lock : KernelLock
  own : Bool
  table : List Row
  entered : Option (KernelLock × List Row)
  during : List (List Row)
  restored : Option KernelLock
  deriving DecidableEq, Repr

inductive Change
  | others (lock : KernelLock) (table : List Row)
  | interrupt (table : List Row)
  deriving DecidableEq, Repr

namespace Kernel

def ids (k : Kernel) : List Handle := k.table.map Row.id

def find (k : Kernel) (id : Handle) : Option Row := k.table.find? fun row => row.id = id

def called (k : Kernel) : Kernel := { k with own := true, during := k.during ++ [k.table] }

def lockAnswer (k : Kernel) : (call : DispatchCall) → dispatchSig.Reply call → Option Kernel
  | .osKernelLock, (previous : Int) =>
      if previous < 0 then some k.called
      else if previous = k.lock.code then
        some { k.called with lock := .locked, entered := some (k.lock, k.table) }
      else none
  | .osKernelRestoreLock lock, (restored : Int) =>
      if restored < 0 then some k.called
      else if restored = lock ∧ lock = KernelLock.unlocked.code then
        some { k.called with lock := .unlocked, restored := some .unlocked }
      else if restored = lock ∧ lock = KernelLock.locked.code then
        some { k.called with lock := .locked, restored := some .locked }
      else none

/-- The replies that are true; the stack space may be any. -/
def confirms (k : Kernel) : (call : ThreadsCall) → threadsSig.Reply call → Bool
  | .osThreadGetCount, (count : Nat) => count = k.table.length
  | .osThreadEnumerate items, (ids : List Handle) =>
      ids.Nodup ∧ (∀ id ∈ ids, id ∈ k.ids) ∧ ids.length = min items k.table.length
  | .osThreadGetName id, (name : Option String) => name = (k.find id).map Row.name
  | .osThreadGetState id, (state : OsThreadState) => state = ((k.find id).map Row.state).getD .error
  | .osThreadGetPriority id, (prio : Int) => prio = ((k.find id).map Row.priority).getD (-1)
  | .osThreadGetStackSize id, (size : Nat) => size = ((k.find id).map Row.stackSize).getD 0
  | .osThreadGetStackSpace _, (_ : Nat) => true
  | .allocate _, (_ : Bool) => true

def Schedules (k : Kernel) : Prop := k.lock = .unlocked ∨ k.own = true

instance (k : Kernel) : Decidable k.Schedules :=
  inferInstanceAs (Decidable (k.lock = .unlocked ∨ k.own = true))

def answer (k : Kernel) : (call : callSig.Call) → callSig.Reply call → Option Kernel
  | .inl call, reply => if k.Schedules then k.lockAnswer call reply else none
  | .inr call, reply => if k.Schedules ∧ k.confirms call reply = true then some k.called else none

/-- Other threads do anything while they run; an interrupt handler changes states. -/
def perturb (k : Kernel) : Change → Option Kernel
  | .others lock table =>
      if ¬ (k.lock = .locked ∧ k.own = true) ∧ (table.map Row.id).Nodup then
        some { k with lock := lock, own := false, table := table }
      else none
  | .interrupt table =>
      if table.map Row.static = k.table.map Row.static then some { k with table := table } else none

end Kernel

def setting : Setting callSig Kernel Change where
  answer := Kernel.answer
  perturb := Kernel.perturb

def enumerating (k : Kernel) :
    ActionSystem (Config callSig Kernel Abort (List Info)) (Interference.Action callSig Change) :=
  Interference.system setting k enumerate

/-! ## While the scheduler is locked -/

structure Held (previous : KernelLock) (snapshot : List Row) (k : Kernel) : Prop where
  lock : k.lock = .locked
  own : k.own = true
  static : k.table.map Row.static = snapshot.map Row.static
  entered : k.entered = some (previous, snapshot)

structure Info.Shows (info : Info) (row : Row) : Prop where
  handle : info.handle = row.id
  name : info.name = some row.name
  priority : info.priority = unsigned 32 row.priority
  stackSize : info.stackSize = row.stackSize

def Seen (tid : Handle) (state : OsThreadState) (k : Kernel) : Prop :=
  ∃ table ∈ k.during, ∃ row ∈ table, row.id = tid ∧ row.state = state

def Shown (snapshot : List Row) (infos : List Info) (k : Kernel) : Prop :=
  ∀ info ∈ infos, (∃ row ∈ snapshot, info.Shows row) ∧
    ∃ state, Seen info.handle state k ∧ info.state = unsigned 32 (code state)

section Held
variable {previous : KernelLock} {snapshot : List Row} {infos : List Info} {k k' : Kernel}
  {tid : Handle} {state : OsThreadState}

theorem Held.stable : Stable setting.onRight (Held previous snapshot) := by
  intro k change k' held changed
  cases change with
  | others lock table =>
      have notAllowed : ¬ (k.lock = .locked ∧ k.own = true) :=
        (Option.ite_none_right_eq_some.mp changed).1.1
      exact absurd ⟨held.lock, held.own⟩ notAllowed
  | interrupt table =>
      obtain ⟨same, result⟩ := Option.ite_none_right_eq_some.mp changed
      cases result
      exact ⟨held.lock, held.own, same.trans held.static, held.entered⟩

theorem during_stable {seen : List (List Row) → Prop} :
    Stable setting.onRight fun k => seen k.during := by
  intro k change k' holds changed
  cases change with
  | others lock table =>
      obtain ⟨_, result⟩ := Option.ite_none_right_eq_some.mp changed
      cases result
      exact holds
  | interrupt table =>
      obtain ⟨_, result⟩ := Option.ite_none_right_eq_some.mp changed
      cases result
      exact holds

theorem Held.called (held : Held previous snapshot k) : Held previous snapshot k.called :=
  ⟨held.lock, rfl, held.static, held.entered⟩

theorem Seen.called (seen : Seen tid state k) : Seen tid state k.called := by
  obtain ⟨table, member, row, inside, same⟩ := seen
  exact ⟨table, List.mem_append_left _ member, row, inside, same⟩

theorem Shown.called (shown : Shown snapshot infos k) : Shown snapshot infos k.called := by
  intro info member
  obtain ⟨row, state, seen, same⟩ := shown info member
  exact ⟨row, state, seen.called, same⟩

/-- A true reply leaves a mark and nothing else. -/
theorem answered {call : ThreadsCall} {reply : threadsSig.Reply call}
    (taken : setting.onRight.answer k call reply = some k') :
    k.confirms call reply = true ∧ k' = k.called := by
  obtain ⟨⟨_, confirmed⟩, result⟩ := Option.ite_none_right_eq_some.mp taken
  exact ⟨confirmed, (Option.some.inj result).symm⟩

theorem map_id_static (table : List Row) :
    (table.map Row.static).map Row.id = table.map Row.id := by
  rw [List.map_map]
  rfl

theorem Held.ids (held : Held previous snapshot k) : k.ids = snapshot.map Row.id := by
  rw [Kernel.ids, ← map_id_static, held.static, map_id_static]

theorem Held.length (held : Held previous snapshot k) : k.table.length = snapshot.length := by
  simpa using congrArg List.length held.static

theorem find_static (table : List Row) :
    (table.find? fun row => row.id = tid).map Row.static =
      (table.map Row.static).find? fun row => row.id = tid := by
  rw [List.find?_map]
  rfl

/-- The thread that the kernel finds under an identifier is the one of the snapshot. -/
theorem Held.find {row : Row} (held : Held previous snapshot k)
    (nodup : (snapshot.map Row.id).Nodup) (member : row ∈ snapshot) :
    ∃ now ∈ k.table, k.find row.id = some now ∧ now.static = row.static := by
  have found : snapshot.find? (fun other => other.id = row.id) = some row := by
    obtain ⟨front, back, split⟩ := List.append_of_mem member
    refine List.find?_eq_some_iff_append.mpr ⟨by simp, front, back, split, ?_⟩
    intro other before
    rw [split, List.map_append, List.map_cons, List.nodup_append] at nodup
    have different := nodup.2.2 other.id (List.mem_map_of_mem before) row.id List.mem_cons_self
    simpa using different
  have same : (k.find row.id).map Row.static = some row.static := by
    rw [Kernel.find, find_static, held.static, ← find_static, found]
    rfl
  obtain ⟨now, isFound, static⟩ := Option.map_eq_some_iff.mp same
  exact ⟨now, List.mem_of_find?_eq_some isFound, isFound, static⟩

def Filled (previous : KernelLock) (snapshot : List Row) (infos : List Info) (k : Kernel) : Prop :=
  Held previous snapshot k ∧ Shown snapshot infos k

theorem filled_stable : Stable setting.onRight (Filled previous snapshot infos) :=
  Held.stable.and (@during_stable fun during => ∀ info ∈ infos,
    (∃ row ∈ snapshot, info.Shows row) ∧ ∃ state, (∃ table ∈ during, ∃ row ∈ table,
      row.id = info.handle ∧ row.state = state) ∧ info.state = unsigned 32 (code state))

theorem seen_stable : Stable setting.onRight (Seen tid state) :=
  @during_stable fun during => ∃ table ∈ during, ∃ row ∈ table, row.id = tid ∧ row.state = state

theorem Filled.called (filled : Filled previous snapshot infos k) :
    Filled previous snapshot infos k.called :=
  ⟨filled.1.called, filled.2.called⟩

/-- A round of the loop shows one more thread of the snapshot. -/
theorem info_ensures {row : Row} (nodup : (snapshot.map Row.id).Nodup) (member : row ∈ snapshot)
    (filled : Filled previous snapshot infos k) :
    Ensures setting.onRight (fun info k => Filled previous snapshot (infos ++ [info]) k ∧
      info.handle = row.id) (info row.id) k := by
  refine ensures_ask filled_stable filled ?_
  rintro k name _ filled taken
  obtain ⟨isName, rfl⟩ := answered taken
  have nameIs : name = some row.name := by
    obtain ⟨now, _, found, static⟩ := filled.1.find nodup member
    have same : now.name = row.name := (congrArg Row.name static :)
    simpa [Kernel.confirms, found, same] using isName
  refine ensures_ask filled_stable filled.called ?_
  rintro k state _ filled taken
  obtain ⟨isState, rfl⟩ := answered taken
  have seen : Seen row.id state k.called := by
    obtain ⟨now, present, found, static⟩ := filled.1.find nodup member
    refine ⟨k.table, List.mem_append_right _ (List.mem_singleton_self _), now, present,
      (congrArg Row.id static :), ?_⟩
    simpa [Kernel.confirms, found, eq_comm] using isState
  refine ensures_ask (filled_stable.and seen_stable) ⟨filled.called, seen⟩ ?_
  rintro k priority _ ⟨filled, seen⟩ taken
  obtain ⟨isPriority, rfl⟩ := answered taken
  have priorityIs : priority = row.priority := by
    obtain ⟨now, _, found, static⟩ := filled.1.find nodup member
    have same : now.priority = row.priority := (congrArg Row.priority static :)
    simpa [Kernel.confirms, found, same] using isPriority
  refine ensures_ask (filled_stable.and seen_stable) ⟨filled.called, seen.called⟩ ?_
  rintro k stackSize _ ⟨filled, seen⟩ taken
  obtain ⟨isSize, rfl⟩ := answered taken
  have sizeIs : stackSize = row.stackSize := by
    obtain ⟨now, _, found, static⟩ := filled.1.find nodup member
    have same : now.stackSize = row.stackSize := (congrArg Row.stackSize static :)
    simpa [Kernel.confirms, found, same] using isSize
  refine ensures_ask (filled_stable.and seen_stable) ⟨filled.called, seen.called⟩ ?_
  rintro k stackSpace _ ⟨filled, seen⟩ taken
  obtain ⟨_, rfl⟩ := answered taken
  refine ensures_done (filled_stable.and seen_stable) ⟨filled.called, seen.called⟩ ?_
  rintro k ⟨⟨held, shown⟩, seen⟩
  refine ⟨⟨held, ?_⟩, rfl⟩
  intro info among
  rcases List.mem_append.mp among with old | new
  · exact shown info old
  · rw [List.mem_singleton.mp new]
    exact ⟨⟨row, member, ⟨rfl, nameIs, by rw [priorityIs], sizeIs⟩⟩, state, seen, rfl⟩

theorem fill_ensures (nodup : (snapshot.map Row.id).Nodup) (rest : List Handle)
    (known : ∀ tid ∈ rest, tid ∈ snapshot.map Row.id) :
    ∀ {infos : List Info} {k : Kernel}, Filled previous snapshot infos k →
      Ensures setting.onRight (fun all k => Filled previous snapshot all k ∧
        all.map Info.handle = infos.map Info.handle ++ rest) (fill infos rest) k := by
  induction rest with
  | nil =>
      intro infos k filled
      refine ensures_done filled_stable filled ?_
      intro k filled
      exact ⟨filled, by simp⟩
  | cons tid rest ih =>
      intro infos k filled
      obtain ⟨row, member, rfl⟩ := List.mem_map.mp (known tid List.mem_cons_self)
      refine Ensures.bind ((info_ensures nodup member filled).mono ?_)
      rintro info k ⟨filled, handle⟩
      refine (ih (fun tid among => known tid (List.mem_cons_of_mem _ among)) filled).mono ?_
      rintro all k ⟨filled, handles⟩
      refine ⟨filled, ?_⟩
      rw [handles, List.map_append, List.map_singleton, handle, List.append_assoc]
      rfl

theorem vector_ensures (items : Nat) (held : Held previous snapshot k) :
    Ensures setting.onRight (fun _ k => Held previous snapshot k) (vector items) k := by
  refine ensures_ask Held.stable held ?_
  intro k obtained k' held taken
  obtain ⟨_, rfl⟩ := answered taken
  cases obtained with
  | false => trivial
  | true => exact ensures_done Held.stable held.called fun _ held => held

structure Collected (previous : KernelLock) (snapshot : List Row) (infos : List Info) (k : Kernel) :
    Prop where
  held : Held previous snapshot k
  shown : Shown snapshot infos k
  all : (infos.map Info.handle).Perm (snapshot.map Row.id)

theorem collect_ensures (nodup : (snapshot.map Row.id).Nodup) (held : Held previous snapshot k) :
    Ensures setting.onRight (Collected previous snapshot) collect k := by
  refine Ensures.bind (ensures_ask Held.stable held ?_)
  intro k items k' held taken
  obtain ⟨isCount, rfl⟩ := answered taken
  have counted : items = snapshot.length := by
    simpa [Kernel.confirms, held.length] using isCount
  refine ensures_done Held.stable held.called ?_
  intro k held
  refine Ensures.bind ((vector_ensures items held).mono ?_)
  intro _ k held
  refine ensures_ask Held.stable held ?_
  intro k ids k' held taken
  obtain ⟨areIds, rfl⟩ := answered taken
  have listed : ids.Nodup ∧ (∀ id ∈ ids, id ∈ snapshot.map Row.id) ∧
      ids.length = snapshot.length := by
    simpa [Kernel.confirms, held.ids, held.length, counted] using areIds
  obtain ⟨once, known, length⟩ := listed
  have all : ids.Perm (snapshot.map Row.id) :=
    (once.subperm known).perm_of_length_le (by rw [length, List.length_map])
  refine Ensures.bind ((vector_ensures ids.length held.called).mono ?_)
  intro _ k held
  have empty : Filled previous snapshot [] k := ⟨held, by simp [Shown]⟩
  refine (fill_ensures nodup ids known empty).mono ?_
  rintro infos k ⟨⟨held, shown⟩, handles⟩
  rw [List.map_nil, List.nil_append] at handles
  exact ⟨held, shown, handles ▸ all⟩

/-! ## The whole call -/

/-- The infos are those of all threads there were when the call locked the scheduler,
once each, with the state that the thread was in at some moment of the call; and the
scheduler is left as it was found. -/
structure Enumerates (infos : List Info) (k : Kernel) (previous : KernelLock)
    (snapshot : List Row) : Prop where
  entered : k.entered = some (previous, snapshot)
  restored : k.restored = some previous
  all : (infos.map Info.handle).Perm (snapshot.map Row.id)
  shown : Shown snapshot infos k

theorem enumerates_stable :
    Stable setting.onLeft fun k => Enumerates infos k previous snapshot := by
  intro k change k' enumerates changed
  cases change with
  | others lock table =>
      obtain ⟨_, result⟩ := Option.ite_none_right_eq_some.mp changed
      cases result
      exact ⟨enumerates.entered, enumerates.restored, enumerates.all, enumerates.shown⟩
  | interrupt table =>
      obtain ⟨_, result⟩ := Option.ite_none_right_eq_some.mp changed
      cases result
      exact ⟨enumerates.entered, enumerates.restored, enumerates.all, enumerates.shown⟩

theorem collected_stable : Stable setting.onLeft (Collected previous snapshot infos) := by
  intro k change k' collected changed
  obtain ⟨held, shown⟩ :=
    filled_stable k change k' ⟨collected.held, collected.shown⟩ changed
  exact ⟨held, shown, collected.all⟩

theorem unlock_ensures (collected : Collected previous snapshot infos k) :
    Ensures setting.onLeft (fun _ k => Enumerates infos k previous snapshot)
      (Dispatch.unlock previous.code) k := by
  have nonneg : ¬ previous.code < 0 := by cases previous <;> decide
  rw [Dispatch.unlock, if_neg nonneg]
  refine ensures_ask collected_stable collected ?_
  intro k restored k' collected taken
  obtain ⟨_, taken⟩ := Option.ite_none_right_eq_some.mp taken
  split
  · trivial
  · rename_i notNegative
    have done : Enumerates infos k' previous snapshot := by
      simp only [Kernel.lockAnswer, if_neg notNegative] at taken
      have marks := collected.shown.called
      cases previous with
      | unlocked =>
          split at taken
          · cases taken
            exact ⟨collected.held.entered, rfl, collected.all, marks⟩
          · obtain ⟨⟨_, isLocked⟩, _⟩ := Option.ite_none_right_eq_some.mp taken
            exact absurd isLocked (by decide)
      | locked =>
          split at taken
          · rename_i isUnlocked
            exact absurd isUnlocked.2 (by decide)
          · obtain ⟨_, result⟩ := Option.ite_none_right_eq_some.mp taken
            cases result
            exact ⟨collected.held.entered, rfl, collected.all, marks⟩
    exact ensures_done enumerates_stable done fun _ done => done

theorem ready_stable : Stable setting.onLeft fun k => k.ids.Nodup := by
  intro k change k' nodup changed
  cases change with
  | others lock table =>
      obtain ⟨allowed, result⟩ := Option.ite_none_right_eq_some.mp changed
      cases result
      exact allowed.2
  | interrupt table =>
      obtain ⟨same, result⟩ := Option.ite_none_right_eq_some.mp changed
      cases result
      have ids := congrArg (List.map Row.id) same
      rw [map_id_static, map_id_static] at ids
      change (table.map Row.id).Nodup
      rwa [ids]

theorem enumerate_ensures (nodup : k.ids.Nodup) :
    Ensures setting (fun infos k => ∃ previous snapshot, Enumerates infos k previous snapshot)
      enumerate k := by
  refine Ensures.bind (ensures_inl (ensures_ask ready_stable nodup ?_))
  intro k found k' nodup taken
  obtain ⟨_, taken⟩ := Option.ite_none_right_eq_some.mp taken
  split
  · trivial
  · rename_i notNegative
    simp only [Kernel.lockAnswer, if_neg notNegative] at taken
    obtain ⟨rfl, result⟩ := Option.ite_none_right_eq_some.mp taken
    cases result
    have held : Held k.lock k.table { k.called with
        lock := .locked, entered := some (k.lock, k.table) } := ⟨rfl, rfl, rfl, rfl⟩
    have stable : Stable setting.onLeft (Held k.lock k.table) :=
      fun _ _ _ held changed => Held.stable _ _ _ held changed
    refine ensures_done stable held ?_
    intro k' held
    refine Ensures.bind (ensures_inr ((collect_ensures nodup held).mono ?_))
    intro infos k'' collected
    refine ensures_inl ((unlock_ensures collected).mono ?_)
    intro _ last done
    exact ⟨k.lock, k.table, done⟩

end Held

/-- However other threads and interrupt handlers come between its calls, `enumerate`
returns a snapshot. -/
theorem run_enumerates {k : Kernel} {allowed : Config callSig Kernel Abort (List Info) →
    Interference.Action callSig Change → Prop} {acts : List (Interference.Action callSig Change)}
    {c : Config callSig Kernel Abort (List Info)} {infos : List Info} (nodup : k.ids.Nodup)
    (run : Run (enumerating k) allowed acts c) (returned : c.script = .done infos) :
    ∃ previous snapshot, Enumerates infos c.shared previous snapshot :=
  run_ensures (enumerate_ensures nodup) run returned

def twoThreads (state : OsThreadState) : List Row :=
  [⟨7, "main", .running, 24, 512⟩, ⟨9, "worker", state, 16, 256⟩]

def twoReplies (state : OsThreadState) : (call : callSig.Call) → callSig.Reply call
  | .inl .osKernelLock => (0 : Int)
  | .inl (.osKernelRestoreLock _) => (0 : Int)
  | .inr .osThreadGetCount => (2 : Nat)
  | .inr (.osThreadEnumerate _) => ([9, 7] : List Handle)
  | .inr (.osThreadGetName id) => (if id = 7 then some "main" else some "worker" : Option String)
  | .inr (.osThreadGetState id) => (if id = 7 then .running else state : OsThreadState)
  | .inr (.osThreadGetPriority id) => (if id = 7 then 24 else 16 : Int)
  | .inr (.osThreadGetStackSize id) => (if id = 7 then 512 else 256 : Nat)
  | .inr (.osThreadGetStackSpace _) => (100 : Nat)
  | .inr (.allocate _) => true

/-- Another thread runs before the lock, an interrupt handler wakes the worker up within it. -/
def interruptedActs : List (Interference.Action callSig Change) :=
  [.perturb (.others .unlocked (twoThreads .blocked))] ++
    List.replicate 6 (.reply (twoReplies .blocked)) ++
    [.perturb (.interrupt (twoThreads .ready))] ++ List.replicate 10 (.reply (twoReplies .ready))

theorem interrupted_enumerates :
    ∃ c infos, Run (enumerating ⟨.unlocked, true, [], none, [], none⟩) Unrestricted
      interruptedActs c ∧ c.script = .done infos ∧ infos.map Info.state = [1, 2] ∧
      ∃ previous snapshot, Enumerates infos c.shared previous snapshot := by
  have once : Kernel.ids ⟨.unlocked, true, [], none, [], none⟩ |>.Nodup := List.nodup_nil
  have run : Run (enumerating ⟨.unlocked, true, [], none, [], none⟩) Unrestricted _ _ :=
    Run.replayed interruptedActs rfl
  exact ⟨_, _, run, rfl, rfl, run_enumerates once run rfl⟩

end CmsisCpp.Threads
