import KDbg.KDbgBackendSession
set_option autoImplicit false
/-!
# The attached process

`Win32ProcessMemory`: process memory over the Win32 calls, with the driver's
backend as a fallback. The environment is Windows and that backend. What only
`PointerSize` reads is left out.
-/
namespace KDbg
open Interaction
open KDbgBackend (ProcessContext)

inductive ProcessAccess where
 | queryAndRead
 | queryLimited
 | queryReadAndWrite
deriving DecidableEq,Repr

/-- The calls to Windows and, from `connected` on, those to the backend. -/
inductive Win32Call where
 | openProcess (access : ProcessAccess) (pid : UInt32)
 | closeHandle (handle : UInt64)
 | getProcessId (handle : UInt64)
 | queryCreationTime (handle : UInt64)
 | readProcessMemory (handle address : UInt64) (length : UInt32)
 | writeProcessMemory (handle address : UInt64) (data : List UInt8)
 | flushInstructionCache (handle address : UInt64) (length : ℕ)
 | getLastError
 | connected
 | getProcessContext (pid : UInt32)
 | setWriteEnabled (enabled : Bool)
 | readProcessVirtual (pid : UInt32) (address : UInt64) (length : UInt32)
 | writeProcessVirtual (pid : UInt32) (address : UInt64) (data : List UInt8)

/-- A null handle is `none`; a memory call answers whether it succeeded and what it completed. -/
def Win32Answer : Win32Call→Type
 | .openProcess _ _ => Option UInt64
 | .closeHandle _ | .flushInstructionCache _ _ _ => Unit
 | .getProcessId _ => UInt32
 | .queryCreationTime _ => Option UInt64
 | .readProcessMemory _ _ _ => Bool×List UInt8
 | .writeProcessMemory _ _ _ => Bool×ℕ
 | .getLastError => UInt64
 | .connected => Bool
 | .getProcessContext _ => Result ProcessContext
 | .setWriteEnabled _ => Result Unit
 | .readProcessVirtual _ _ _ => Result (List UInt8)
 | .writeProcessVirtual _ _ _ => Result UInt32

abbrev Win32Event := Event Win32Call Win32Answer
abbrev Win32M := Prog Win32Call Win32Answer

structure Win32ProcessMemory where
 process : Option UInt64 := none
 pid : UInt32 := 0
 writesArmed : Bool := false
 directWriteAccess : Bool := false
 backend : Bool := false
 creationTime : UInt64 := 0
 driverEprocess : UInt64 := 0
 driverDtb : UInt64 := 0
deriving DecidableEq,Repr

namespace Win32ProcessMemory

def kErrorAccessDenied : UInt64 := 5

def getLastError : Win32M UInt64 := Prog.ask Win32Call.getLastError

def setWriteEnabled (enabled : Bool) : Win32M (Result Unit) :=
 Prog.ask (Win32Call.setWriteEnabled enabled)

/-- An error of Windows: denied access has a code of its own. -/
def lastError (otherwise : ErrorCode) (message operation : String) (requested : UInt64 := 0) :
 Win32M Error := do
 let denied := (← getLastError)=kErrorAccessDenied
 let native ← getLastError
 return makeError (if denied then .accessDenied else otherwise) message operation native requested

def connected (s : Win32ProcessMemory) : Win32M Bool :=
 if s.backend then Prog.ask Win32Call.connected else return false

def validateDriverIdentity (s : Win32ProcessMemory) (operation : String) :
 Win32M (Result Unit) := do
 if !(← s.connected) || s.driverEprocess == 0 || s.driverDtb == 0 then
  return .error (makeError .backendDisconnected "KDBG process identity is unavailable" operation)
 else
  match ← (Prog.ask (Win32Call.getProcessContext s.pid) : Win32M (Result ProcessContext)) with
  | .error error => return .error error
  | .ok context =>
   if context.eprocess≠s.driverEprocess ∨ context.directoryTableBase≠s.driverDtb then
    return .error (makeError .concurrentModification
     "PID now refers to a different process instance" operation)
   else return .ok ()

/-- The end of `Open`: what the driver knows of the process. -/
def bindDriver (s : Win32ProcessMemory) : Win32M (Result Win32ProcessMemory) := do
 if ← s.connected then
  match ← (Prog.ask (Win32Call.getProcessContext s.pid) : Win32M (Result ProcessContext)) with
  | .error error => if s.process=none then return .error error else return .ok s
  | .ok context =>
   return .ok { s with
    driverEprocess := context.eprocess
    driverDtb := context.directoryTableBase }
 else return .ok s

def openProcess (access : ProcessAccess) (pid : UInt32) : Win32M (Option UInt64) :=
 Prog.ask (Win32Call.openProcess access pid)

def getProcessId (handle : UInt64) : Win32M UInt32 := Prog.ask (Win32Call.getProcessId handle)

def queryCreationTime (handle : UInt64) : Win32M (Option UInt64) :=
 Prog.ask (Win32Call.queryCreationTime handle)

def closeHandle (handle : UInt64) : Win32M Unit := Prog.ask (Win32Call.closeHandle handle)

/-- A process that cannot be opened for reading may still be opened for its identity. -/
def openForQuery (pid : UInt32) : Win32M (Option UInt64) := do
 match ← openProcess .queryAndRead pid with
 | some handle => return some handle
 | none => openProcess .queryLimited pid

/-- The creation time of a handle that is really one to the process `pid`. -/
def identify (handle : UInt64) (pid : UInt32) : Win32M (Option UInt64) := do
 match ← queryCreationTime handle with
 | none => return none
 | some created => if (← getProcessId handle)=pid then return some created else return none

def attach (pid : UInt32) (backend : Bool) : Win32M (Result Win32ProcessMemory) := do
 if pid=0 then
  return .error (makeError .invalidArgument "PID 0 cannot be attached" "Win32ProcessMemory::Open")
 else
  match ← openForQuery pid with
  | none =>
   if !backend then
    return .error (← lastError .ioFailure
     "OpenProcess failed and no KDBG driver fallback is available" "Win32ProcessMemory::Open")
   else bindDriver { pid,backend }
  | some handle =>
   match ← identify handle pid with
   | none =>
    closeHandle handle
    return .error (makeError .ioFailure "Unable to establish stable process identity"
     "Win32ProcessMemory::Open" (← getLastError))
   | some creationTime => bindDriver { process := some handle,pid,backend,creationTime }

/-- The creation time of a new handle that is one to the same process instance. -/
def identifyAgain (handle : UInt64) (s : Win32ProcessMemory) : Win32M (Option UInt64) := do
 if (← getProcessId handle)≠s.pid then return none
 else match ← queryCreationTime handle with
  | none => return none
  | some created =>
   if s.creationTime≠0 ∧ created≠s.creationTime then return none else return some created

def reopenForWriteLocked (s : Win32ProcessMemory) :
 Win32M (Result Unit×Win32ProcessMemory) := do
 match ← openProcess .queryReadAndWrite s.pid with
 | none =>
  return (.error (← lastError .ioFailure "Unable to open the process for direct writes"
   "Win32ProcessMemory::ReopenForWrite"),s)
 | some handle =>
  match ← s.identifyAgain handle with
  | none =>
   closeHandle handle
   return (.error (makeError .concurrentModification
    "PID now refers to a different process instance" "Win32ProcessMemory::ReopenForWrite"),s)
  | some creationTime =>
   if let some old := s.process then closeHandle old
   return (.ok (),
    { s with process := some handle,creationTime,directWriteAccess := true })

/-- The last part of arming: the gate of the backend, which a direct path can do without. -/
def armBackend (s : Win32ProcessMemory) : Win32M (Result Unit×Win32ProcessMemory) := do
 if ← s.connected then
  match ← setWriteEnabled true with
  | .error error =>
   if !s.directWriteAccess then return (.error error,s)
   else return (.ok (),{ s with writesArmed := true })
  | .ok _ => return (.ok (),{ s with writesArmed := true })
 else return (.ok (),{ s with writesArmed := true })

def setWritesArmed (armed : Bool) (s : Win32ProcessMemory) :
 Win32M (Result Unit×Win32ProcessMemory) := do
 if !armed then
  if ← s.connected then
   match ← setWriteEnabled false with
   | .error error => return (.error error,s)
   | .ok _ => return (.ok (),{ s with writesArmed := false })
  else return (.ok (),{ s with writesArmed := false })
 else if s.process.isSome && !s.directWriteAccess then
  match ← s.reopenForWriteLocked with
  | (.error error,s) =>
   if !(← s.connected) then return (.error error,s) else s.armBackend
  | (.ok _,s) => s.armBackend
 else s.armBackend

def readDriver (address : UInt64) (length : UInt32) (s : Win32ProcessMemory) :
 Win32M (Result (List UInt8)) := do
 if ← s.connected then
  match ← s.validateDriverIdentity "Win32ProcessMemory::Read" with
  | .error error => return .error error
  | .ok _ => Prog.ask (Win32Call.readProcessVirtual s.pid address length)
 else
  return .error (← lastError .shortRead "Process memory read failed" "Win32ProcessMemory::Read"
   length.toUInt64)

def read (address : UInt64) (length : UInt32) (s : Win32ProcessMemory) :
 Win32M (Result (List UInt8)) := do
 if address=0 ∨ length=0 then
  return .error (makeError .invalidArgument "Invalid process read request"
   "Win32ProcessMemory::Read")
 else match s.process with
  | none => s.readDriver address length
  | some handle =>
   let (done,output) ← (Prog.ask (Win32Call.readProcessMemory handle address length) :
    Win32M (Bool×List UInt8))
   if done && output.length == length.toNat then return .ok output
   else s.readDriver address length

/-- `close_backend_gate`: a retry that locks the gate does not save the transaction. -/
def closeBackendGate (s : Win32ProcessMemory) : Win32M (Result Unit) := do
 if !(← s.connected) then return .ok ()
 else
  match ← setWriteEnabled false with
  | .ok _ => return .ok ()
  | .error error =>
   match ← setWriteEnabled false with
   | .ok _ =>
    return .error { error with message := error.message ++
     "; a cleanup retry locked the backend gate, but the write transaction is failed" }
   | .error retry =>
    return .error { error with message := error.message ++
     "; cleanup retry also failed: " ++ retry.message }

def finish (s : Win32ProcessMemory) (outcome : Result UInt32) : Win32M (Result UInt32) := do
 match ← s.closeBackendGate with
 | .ok _ => return outcome
 | .error error =>
  match outcome with
  | .ok _ => return .error error
  | .error failed =>
   return .error { error with message := error.message ++
    "; write path also failed: " ++ failed.message }

def writeDriver (address : UInt64) (data : List UInt8) (s : Win32ProcessMemory) :
 Win32M (Result UInt32) := do
 if ← s.connected then
  match ← s.validateDriverIdentity "Win32ProcessMemory::Write" with
  | .error error => return .error error
  | .ok _ => Prog.ask (Win32Call.writeProcessVirtual s.pid address data)
 else
  return .error (← lastError .shortWrite "Process memory write failed"
   "Win32ProcessMemory::Write" (UInt64.ofNat data.length))

/-- From the consumed arm to the outcome that `finish` is called with. -/
def attempt (address : UInt64) (data : List UInt8) (s : Win32ProcessMemory) :
 Win32M (Result UInt32) := do
 if address=0 ∨ data=[] ∨ 2^32-1 < data.length then
  return .error (makeError .invalidArgument "Invalid process write request"
   "Win32ProcessMemory::Write")
 else match s.process.filter fun _=>s.directWriteAccess with
  | none => s.writeDriver address data
  | some handle =>
   let (done,completed) ← (Prog.ask (Win32Call.writeProcessMemory handle address data) :
    Win32M (Bool×ℕ))
   if done && completed == data.length then
    (Prog.ask (Win32Call.flushInstructionCache handle address data.length) : Win32M Unit)
    return .ok (UInt32.ofNat completed)
   else s.writeDriver address data

def write (address : UInt64) (data : List UInt8) (s : Win32ProcessMemory) :
 Win32M (Result UInt32×Win32ProcessMemory) := do
 if !s.writesArmed then
  return (.error (makeError .writeLocked "Process writes are locked"
   "Win32ProcessMemory::Write"),s)
 else
  let s := { s with writesArmed := false }
  let outcome ← s.attempt address data
  let result ← s.finish outcome
  return (result,s)

inductive Op where
 | setWritesArmed (armed : Bool)
 | read (address : UInt64) (length : UInt32)
 | write (address : UInt64) (data : List UInt8)

inductive Returned where
 | armed (result : Result Unit)
 | bytes (result : Result (List UInt8))
 | written (result : Result UInt32)

def exec : Op→Win32ProcessMemory→Win32M (Returned×Win32ProcessMemory)
 | .setWritesArmed armed,s => do
  let (result,s) ← s.setWritesArmed armed
  return (.armed result,s)
 | .read address length,s => do
  let result ← s.read address length
  return (.bytes result,s)
 | .write address data,s => do
  let (result,s) ← s.write address data
  return (.written result,s)

def machine (attached : Win32ProcessMemory) :
 Machine Win32Call Win32Answer Op Win32ProcessMemory Returned where
 init := attached
 exec := exec

end Win32ProcessMemory

abbrev Win32Step := Step Win32Call Win32Answer Win32ProcessMemory.Op Win32ProcessMemory
 Win32ProcessMemory.Returned

end KDbg
