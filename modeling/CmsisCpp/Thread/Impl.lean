import CmsisCpp.TimedCall

/-! # `thread_impl` and `thread`

Source: `include/Thread.h`, `src/Thread.cpp`.  A `thread` owns at most one
`thread_impl` through `m_pThread`; the `thread_impl` owns the callable that its OS
thread runs. -/
set_option autoImplicit false

namespace CmsisCpp.Thread

open CallScript FixedWidth

/-- The address of a `thread_impl`, which is the argument of its OS thread. -/
abbrev ImplId := Nat

structure Attributes where
  stackMem : Handle
  stackSize : Nat
  priority : Int
  name : Option String
  deriving DecidableEq, Repr

/-- The members of `osThreadAttr_t` that the library sets. -/
structure OsThreadAttr where
  attrBits : Nat
  name : Option String
  stackMem : Handle
  stackSize : Nat
  priority : Int
  deriving DecidableEq, Repr

def osThreadJoinable : Nat := 0x00000001
def osPriorityNone : Int := 0
def osPriorityNormal : Int := 24

inductive ThreadCall
  | osThreadNew (argument : ImplId) (attr : OsThreadAttr)
  | osThreadTerminate (id : Handle)
  | osThreadJoin (id : Handle)
  | osThreadDetach (id : Handle)
  | osThreadGetId
  deriving DecidableEq, Repr

abbrev threadSig : Signature where
  Call := ThreadCall
  Reply
    | .osThreadNew _ _ => Handle
    | .osThreadTerminate _ => OsStatus
    | .osThreadJoin _ => OsStatus
    | .osThreadDetach _ => OsStatus
    | .osThreadGetId => Handle

structure ThreadImpl where
  id : Handle
  detached : Bool
  deriving DecidableEq, Repr

def ThreadImpl.joinable (impl : ThreadImpl) : Bool := !impl.detached

/-! ## `thread_impl` -/

/-- The attributes of a new OS thread; the cast to `osPriority_t` is one to a 32-bit `int`. -/
def osThreadAttr (attr : Attributes) : OsThreadAttr :=
  let priority := signed 32 attr.priority
  ⟨osThreadJoinable, attr.name, attr.stackMem, attr.stackSize,
    if priority = osPriorityNone then osPriorityNormal else priority⟩

/-- The constructor, for an object at the address `argument`. -/
def threadImpl (argument : ImplId) (attr : Attributes) : Script threadSig SystemError ThreadImpl :=
  .ask (.osThreadNew argument (osThreadAttr attr)) fun (id : Handle) =>
    if id = 0 then .throw (osFailure .osError "osThreadNew") else .done ⟨id, false⟩

/-- The destructor; the status is not looked at. -/
def ThreadImpl.destroy (impl : ThreadImpl) : Script threadSig SystemError Unit :=
  .ask (.osThreadTerminate impl.id) fun (_ : OsStatus) => .done ()

/-- `join` and `detach`; the value is the object afterwards. -/
def ThreadImpl.join (impl : ThreadImpl) : Script threadSig SystemError ThreadImpl :=
  .ask (.osThreadJoin impl.id) fun (sta : OsStatus) =>
    if sta ≠ .osOK then .throw (osFailure sta (strError "osThreadJoin" impl.id))
    else .done { impl with detached := true }

def ThreadImpl.detach (impl : ThreadImpl) : Script threadSig SystemError ThreadImpl :=
  .ask (.osThreadDetach impl.id) fun (sta : OsStatus) =>
    if sta ≠ .osOK then .throw (osFailure sta (strError "osThreadDetach" impl.id))
    else .done { impl with detached := true }

/-! ## `thread` -/

/-- `std::errc::invalid_argument` and `std::errc::resource_deadlock_would_occur`,
with the numbers of newlib. -/
def invalidArgument (what : String) : SystemError := ⟨22, .generic, what⟩
def resourceDeadlockWouldOccur (what : String) : SystemError := ⟨45, .generic, what⟩

def thisThreadGetId : Script threadSig SystemError Handle :=
  .ask .osThreadGetId fun (tid : Handle) =>
    if tid = 0 then .throw (osFailure .osErrorResource "osThreadGetId") else .done tid

/-- `thread::joinable`, for the object that `m_pThread` points to. -/
def joinable : Option ThreadImpl → Bool
  | none => false
  | some impl => impl.joinable

def join (pThread : Option ThreadImpl) : Script threadSig SystemError ThreadImpl :=
  match pThread with
  | none => .throw (invalidArgument "thread::join")
  | some impl =>
      if impl.joinable = false then .throw (invalidArgument "thread::join")
      else
        thisThreadGetId.bind fun tid =>
          if impl.id = tid then .throw (resourceDeadlockWouldOccur "thread::join") else impl.join

def detach (pThread : Option ThreadImpl) : Script threadSig SystemError ThreadImpl :=
  match pThread with
  | none => .throw (invalidArgument "thread::detach")
  | some impl =>
      if impl.joinable = false then .throw (invalidArgument "thread::detach") else impl.detach

/-- `thread::get_id`; `0` is `thread::id()`. -/
def getId : Option ThreadImpl → Handle
  | none => 0
  | some impl => impl.id

end CmsisCpp.Thread
