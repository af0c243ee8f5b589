import KDbg.Interaction
import KDbg.PhysicalPage
set_option autoImplicit false
/-! The interface `IMemoryBackend` as calls and answers. A backend is whatever
answers the calls: no answer is assumed to be related to another. -/
namespace KDbg
open Interaction

inductive PhysicalPageCompareWriteOutcome where
 | applied
 | conflict
 | failure
deriving DecidableEq,Repr

structure PhysicalPageCompareWriteResult where
 outcome : PhysicalPageCompareWriteOutcome := .conflict
 transferred : UInt32 := 0
 firstMismatchOffset : UInt32 := 0xFFFFFFFF
 nativeStatus : UInt32 := 0
 readback : Page := zeroPage

inductive BackendCall where
 | getPhysicalRanges
 | readPhysical (physicalAddress : UInt64) (length : UInt32)
 | setWriteEnabled (enabled : Bool)
 | writePhysical (physicalAddress : UInt64) (data : List UInt8)
 | compareWritePhysicalPage (physicalAddress : UInt64) (expectedBefore desired : Page)
 | readProcessVirtual (pid : UInt32) (virtualAddress : UInt64) (length : UInt32)
 | writeProcessVirtual (pid : UInt32) (virtualAddress : UInt64) (data : List UInt8)
 | readKernelVirtual (virtualAddress : UInt64) (length : UInt32)

def BackendCall.isCompareWrite : BackendCall→Bool
 | .compareWritePhysicalPage .. => true
 | _ => false

def BackendCall.isWrite : BackendCall→Bool
 | .writePhysical .. | .compareWritePhysicalPage .. | .writeProcessVirtual .. => true
 | _ => false

def BackendCall.isGate : BackendCall→Bool
 | .setWriteEnabled _ => true
 | _ => false

@[simp] lemma isWrite_setWriteEnabled (enabled:Bool) :
 (BackendCall.setWriteEnabled enabled).isWrite=false := rfl

def BackendAnswer : BackendCall→Type
 | .getPhysicalRanges => Result (List PhysicalRange)
 | .readPhysical _ _ => Result (List UInt8)
 | .setWriteEnabled _ => Result Unit
 | .writePhysical _ _ => Result UInt32
 | .compareWritePhysicalPage _ _ _ => Result PhysicalPageCompareWriteResult
 | .readProcessVirtual _ _ _ => Result (List UInt8)
 | .writeProcessVirtual _ _ _ => Result UInt32
 | .readKernelVirtual _ _ => Result (List UInt8)

abbrev BackendEvent := Event BackendCall BackendAnswer
abbrev BackendM := Prog BackendCall BackendAnswer

def getPhysicalRanges : BackendM (Result (List PhysicalRange)) :=
 Prog.ask BackendCall.getPhysicalRanges

def readPhysical (physicalAddress : UInt64) (length : UInt32) : BackendM (Result (List UInt8)) :=
 Prog.ask (BackendCall.readPhysical physicalAddress length)

def setWriteEnabled (enabled : Bool) : BackendM (Result Unit) :=
 Prog.ask (BackendCall.setWriteEnabled enabled)

def writePhysical (physicalAddress : UInt64) (data : List UInt8) : BackendM (Result UInt32) :=
 Prog.ask (BackendCall.writePhysical physicalAddress data)

def readProcessVirtual (pid : UInt32) (virtualAddress : UInt64) (length : UInt32) :
 BackendM (Result (List UInt8)) :=
 Prog.ask (BackendCall.readProcessVirtual pid virtualAddress length)

def writeProcessVirtual (pid : UInt32) (virtualAddress : UInt64) (data : List UInt8) :
 BackendM (Result UInt32) :=
 Prog.ask (BackendCall.writeProcessVirtual pid virtualAddress data)

def readKernelVirtual (virtualAddress : UInt64) (length : UInt32) :
 BackendM (Result (List UInt8)) :=
 Prog.ask (BackendCall.readKernelVirtual virtualAddress length)

inductive MemorySpaceKind where
 | physical
 | processVirtual
 | kernelVirtual
deriving DecidableEq,Repr

structure MemorySpace where
 kind : MemorySpaceKind := .physical
 pid : UInt32 := 0
 directoryTableBase : UInt64 := 0
 label : String := "Physical memory"
deriving DecidableEq,Repr

def readMemory (space : MemorySpace) (address : UInt64) (length : UInt32) :
 BackendM (Result (List UInt8)) :=
 match space.kind with
 | .physical => readPhysical address length
 | .processVirtual =>
  if space.pid=0 then
   return .error (makeError .invalidArgument "Process virtual reads require a PID" "ReadMemory")
  else readProcessVirtual space.pid address length
 | .kernelVirtual => readKernelVirtual address length

def writeMemory (space : MemorySpace) (address : UInt64) (data : List UInt8) :
 BackendM (Result UInt32) :=
 match space.kind with
 | .physical => writePhysical address data
 | .processVirtual =>
  if space.pid=0 then
   return .error (makeError .invalidArgument "Process virtual writes require a PID"
    "WriteMemory")
  else writeProcessVirtual space.pid address data
 | .kernelVirtual =>
  return .error (makeError .unsupported
   "KDBG intentionally exposes no arbitrary kernel-virtual write IOCTL" "WriteMemory")

end KDbg
