/-! # CMSIS-RTOS2 status codes and the exceptions of the library

Source: `include/OSException.h`, `src/OSException.cpp`.  The model is the build
with C++ exceptions: a failing operation throws `std::system_error`, described by
its code, its category and its `what` text. -/
set_option autoImplicit false

namespace CmsisCpp

inductive OsStatus
  | osOK
  | osError
  | osErrorTimeout
  | osErrorResource
  | osErrorParameter
  | osErrorNoMemory
  | osErrorISR
  | osStatusReserved
  deriving DecidableEq, Repr

def OsStatus.code : OsStatus → Int
  | .osOK => 0
  | .osError => -1
  | .osErrorTimeout => -2
  | .osErrorResource => -3
  | .osErrorParameter => -4
  | .osErrorNoMemory => -5
  | .osErrorISR => -6
  | .osStatusReserved => 0x7FFFFFFF

/-- `os_category()`, `flags_category()` and `std::generic_category()`. -/
inductive ErrorCategory
  | os
  | flags
  | generic
  deriving DecidableEq, Repr

structure SystemError where
  code : Int
  category : ErrorCategory
  what : String
  deriving DecidableEq, Repr

/-- An OS object identifier (`void*`); `0` is the null pointer. -/
abbrev Handle := Nat

def strError (func : String) (id : Handle) : String := func ++ "(" ++ toString id ++ ")"

def osFailure (sta : OsStatus) (what : String) : SystemError := ⟨sta.code, .os, what⟩

def flagsFailure (flags : Int) (what : String) : SystemError := ⟨flags, .flags, what⟩

/-- What has become of the program: it goes on, has called `std::terminate`, or has
done something undefined. -/
inductive ProgramStatus
  | running
  | terminated
  | undefined
  deriving DecidableEq, Repr

def osWaitForever : Int := 0xFFFFFFFF

end CmsisCpp
