import KDbg.Fallible
import Mathlib.Data.Fintype.Pi
set_option autoImplicit false
namespace KDbg

inductive ErrorCode where
 | none
 | invalidArgument
 | invalidPfn
 | addressOverflow
 | outsidePhysicalRam
 | backendDisconnected
 | backendAlreadyOpen
 | abiMismatch
 | shortRead
 | writeLocked
 | concurrentModification
 | shortWrite
 | verificationMismatch
 | rollbackFailed
 | bridgeUnavailable
 | unsupported
 | ioFailure
 | accessDenied
 | parseError
 | cancelled
 | limitReached
 | notFound
 | internalInvariant
deriving DecidableEq,Repr

structure Error where
 code : ErrorCode := .none
 message : String := ""
 operation : String := ""
 nativeCode : UInt64 := 0
 requested : UInt64 := 0
 completed : UInt64 := 0
deriving DecidableEq,Repr

def makeError (code : ErrorCode) (message : String) (operation : String := "")
 (nativeCode : UInt64 := 0) (requested : UInt64 := 0) (completed : UInt64 := 0) : Error :=
 { code,message,operation,nativeCode,requested,completed }

/-- `kdbg::Result<T>`: a value or an error. -/
abbrev Result (α : Type) := Except Error α

def Result.isOk {α : Type} : Result α→Bool
 | .ok _ => true
 | .error _ => false

/-- How a container insertion ends: it grows, or throws one of the two caught exceptions. -/
inductive Allocation where
 | grown
 | badAlloc
 | lengthError
deriving DecidableEq,Repr

end KDbg
