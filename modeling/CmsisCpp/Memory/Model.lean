import CmsisCpp.Handles
import CmsisCpp.Library.ActionSystem

/-! # Memory pools and the smart pointers into them

Source: `include/Memory.h`, `src/Memory.cpp`.

Any number of `memory_pool` objects are constructed, moved and destroyed;
`make_unique` and `make_shared` allocate blocks, and the deleter of such a pointer
returns the block through the pool object it refers to.  `std::swap` of two pools is
a move construction, two move assignments and a destruction.  The last owner of a
block is meant by the destruction of a smart pointer; its destructor is `noexcept`. -/
set_option autoImplicit false

namespace CmsisCpp.Memory

open ActionSystem CallScript

/-- An address in the memory of the OS pool `pool`. -/
structure Block where
  pool : Handle
  index : Nat
  deriving DecidableEq, Repr

structure OsPool where
  count : Nat
  size : Nat
  allocated : List Block
  deriving DecidableEq, Repr

inductive PoolCall
  | osMemoryPoolNew (count size : Nat)
  | osMemoryPoolDelete (id : Handle)
  | osMemoryPoolAlloc (id : Handle) (timeout : Int)
  | osMemoryPoolFree (id : Handle) (block : Block)
  deriving DecidableEq, Repr

abbrev poolSig : Signature where
  Call := PoolCall
  Reply
    | .osMemoryPoolNew _ _ => Handle
    | .osMemoryPoolDelete _ => OsStatus
    | .osMemoryPoolAlloc _ _ => Option Block
    | .osMemoryPoolFree _ _ => OsStatus

inductive Exn
  | system (error : SystemError)
  | badAlloc
  deriving DecidableEq, Repr

/-! ## `base_memory_pool` -/

/-- The constructor; its value is `m_id`. -/
def baseMemoryPool (count n : Nat) : Script poolSig Exn Handle :=
  .ask (.osMemoryPoolNew count n) fun (id : Handle) =>
    if id = 0 then .throw (.system (osFailure .osError "osMemoryPoolNew")) else .done id

def delete (id : Handle) : Script poolSig Exn Unit :=
  .ask (.osMemoryPoolDelete id) fun (sta : OsStatus) =>
    if sta ≠ .osOK then .throw (.system (osFailure sta (strError "osMemoryPoolDelete" id)))
    else .done ()

def destroy (id : Handle) : Script poolSig Exn Unit :=
  if id ≠ 0 then delete id else .done ()

/-- The part of `operator=` before its `std::swap`; its value is the `m_id` that is
swapped then. -/
def dispose (id : Handle) : Script poolSig Exn Handle :=
  if id ≠ 0 then (delete id).bind fun _ => .done 0 else .done id

def allocate (id : Handle) (n : Nat) : Script poolSig Exn Block :=
  if n ≠ 1 then .throw .badAlloc
  else .ask (.osMemoryPoolAlloc id osWaitForever) fun (block : Option Block) =>
    match block with
    | none => .throw .badAlloc
    | some p => .done p

def deallocate (id : Handle) (p : Block) : Script poolSig Exn Unit :=
  .ask (.osMemoryPoolFree id p) fun (sta : OsStatus) =>
    if sta ≠ .osOK then .throw (.system (osFailure sta (strError "osMemoryPoolFree" id)))
    else .done ()

/-! ## The OS -/

structure PoolAnswers extends OsAnswers where
  index : Nat
  deriving DecidableEq, Repr

def OsPool.allocate (os : OsPool) (block : Block) : OsPool :=
  { os with allocated := os.allocated ++ [block] }

def OsPool.free (os : OsPool) (block : Block) : OsPool :=
  { os with allocated := os.allocated.erase block }

def kernel (answers : PoolAnswers) :
    (call : PoolCall) → Handles OsPool → poolSig.Reply call × Handles OsPool
  | .osMemoryPoolNew count size, s => s.osNew answers.toOsAnswers ⟨count, size, []⟩
  | .osMemoryPoolDelete id, s => s.osDelete answers.toOsAnswers id
  | .osMemoryPoolAlloc id _, s =>
      match s.os id with
      | none => ((none : Option Block), s)
      | some os =>
          let block : Block := ⟨id, answers.index⟩
          if answers.index < os.count ∧ block ∉ os.allocated then
            (some block, s.setOs id (os.allocate block))
          else (none, s)
  | .osMemoryPoolFree id block, s =>
      match s.os id with
      | none => (OsStatus.osErrorParameter, s)
      | some os =>
          if block ∈ os.allocated then (OsStatus.osOK, s.setOs id (os.free block))
          else (OsStatus.osErrorParameter, s)

/-! ## The objects -/

/-- A smart pointer: its block and the pool object its deleter refers to.  The
number says which it is. -/
structure SmartPointer where
  serial : Nat
  block : Block
  pool : ObjId
  deriving DecidableEq, Repr

structure Return where
  pointer : SmartPointer
  id : Handle
  deriving DecidableEq, Repr

structure State where
  status : ProgramStatus
  handles : Handles OsPool
  made : Nat
  pointers : List SmartPointer
  returned : List Return

def State.initial : State where
  status := .running
  handles := .initial
  made := 0
  pointers := []
  returned := []

inductive Action
  | construct (o : ObjId) (count size : Nat) (answers : PoolAnswers)
  | moveConstruct (o other : ObjId)
  | moveAssign (o other : ObjId) (answers : PoolAnswers)
  | destroy (o : ObjId) (answers : PoolAnswers)
  | makeUnique (o : ObjId) (answers : PoolAnswers)
  | makeShared (o : ObjId) (answers : PoolAnswers)
  | destroyPointer (p : SmartPointer)
  deriving DecidableEq, Repr

namespace State

def call {Val : Type} (s : State) (answers : PoolAnswers) (script : Script poolSig Exn Val) :
    Except Exn Val × State :=
  let called := script.run (kernel answers) s.handles
  (called.1, { s with handles := called.2 })

def construct (s : State) (o : ObjId) (count size : Nat) (answers : PoolAnswers) :
    Option State :=
  if s.handles.objs o = none then
    let called := s.call answers (baseMemoryPool count size)
    match called.1 with
    | .ok id => some { called.2 with handles := called.2.handles.setId o (some id) }
    | .error _ => some called.2
  else none

def moveAssign (s : State) (o other : ObjId) (answers : PoolAnswers) :
    Option (Except Exn Unit × State) :=
  match s.handles.objs o, s.handles.objs other with
  | some id, some _ =>
      if o = other then some (.ok (), s)
      else
        let called := s.call answers (dispose id)
        match called.1 with
        | .error exn => some (.error exn, called.2)
        | .ok id' =>
            ((called.2.handles.setId o (some id')).swapIds o other).map fun handles =>
              (.ok (), { called.2 with handles := handles })
  | _, _ => none

def destroyObject (s : State) (o : ObjId) (answers : PoolAnswers) : Option State :=
  match s.handles.objs o with
  | none => none
  | some id =>
      let called := s.call answers (destroy id)
      some { called.2 with handles := called.2.handles.setId o none }

/-- `make_unique` and `make_shared`: one block, with a deleter that refers to `*this`. -/
def make (s : State) (o : ObjId) (answers : PoolAnswers) : Option State :=
  match s.handles.objs o with
  | none => none
  | some id =>
      let called := s.call answers (allocate id 1)
      match called.1 with
      | .ok block =>
          some { called.2 with
            made := s.made + 1
            pointers := s.pointers ++ [⟨s.made, block, o⟩] }
      | .error _ => some called.2

/-- `memory_pool_delete::operator()` in a destructor.  The pool object is used
without knowing whether it is still there. -/
def destroyPointer (s : State) (p : SmartPointer) : Option State :=
  if p ∈ s.pointers then
    let rest := { s with pointers := s.pointers.erase p }
    match s.handles.objs p.pool with
    | none => some { rest with status := .undefined }
    | some id =>
        let called := rest.call ⟨⟨0, .osOK⟩, 0⟩ (deallocate id p.block)
        match called.1 with
        | .ok () => some { called.2 with returned := s.returned ++ [⟨p, id⟩] }
        | .error _ => some { called.2 with status := .terminated }
  else none

def step (s : State) (a : Action) : Option State :=
  if s.status = .running then
    match a with
    | .construct o count size answers => s.construct o count size answers
    | .moveConstruct o other =>
        (s.handles.moveNull o other).map fun handles => { s with handles := handles }
    | .moveAssign o other answers => (s.moveAssign o other answers).map Prod.snd
    | .destroy o answers => s.destroyObject o answers
    | .makeUnique o answers => s.make o answers
    | .makeShared o answers => s.make o answers
    | .destroyPointer p => s.destroyPointer p
  else none

end State

def system : ActionSystem State Action where
  initial := .initial
  step := State.step

end CmsisCpp.Memory
