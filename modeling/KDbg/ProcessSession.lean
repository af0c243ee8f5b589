import KDbg.EditLog
import KDbg.PhysicalPage
import KDbg.ProcessMemory
import KDbg.WriteDiff
set_option autoImplicit false
/-!
# The process memory session

`ProcessMemorySession` with every early return. A view is bound to the process
it was loaded from; every operation may be handed another `IProcessMemory`.
-/
namespace KDbg
open Interaction

inductive ProcessMemorySessionState where
 | empty
 | clean
 | dirty
 | conflict
 | verificationFailed
 | error
deriving DecidableEq,Repr

/-- The private fields of `ProcessMemorySession`. The back of a history deque is the head of
 its list. -/
structure ProcessSession where
 pid : UInt32 := 0
 address : UInt64 := 0
 baseline : List UInt8 := []
 working : List UInt8 := []
 dirty : List Bool := []
 dirtyCount : ℕ := 0
 rollbackBytes : Option (List UInt8) := none
 rollbackExpected : Option (List UInt8) := none
 rollbackAllowsPartial : Bool := false
 conflicts : List ℕ := []
 mismatches : List ℕ := []
 undoStack : List (EditLog.Edit UInt8) := []
 redoStack : List (EditLog.Edit UInt8) := []
 state : ProcessMemorySessionState := .empty

namespace ProcessSession

def kMaximumViewSize : UInt32 := 1024*1024

def kMaxEditHistory : ℕ := 4096

def hasBuffer (s : ProcessSession) : Bool := s.address != 0 && !s.working.isEmpty

def isDirty (s : ProcessSession) : Bool := s.dirtyCount != 0

def reset (_ : ProcessSession) : ProcessSession := {}

def loadedView (pid : UInt32) (address : UInt64) (bytes : List UInt8) : ProcessSession :=
 { pid
   address
   baseline := bytes
   working := bytes
   dirty := List.replicate bytes.length false
   state := .clean }

def load (s : ProcessSession) (address : UInt64) (length : UInt32) :
 ProcessM (Result Unit×ProcessSession) := do
 let operation := "ProcessMemorySession::Load"
 let s := { s.reset with state := .error }
 if !(← ProcessMemory.isOpen) then
  return (.error (makeError .backendDisconnected "Target process is not attached" operation),s)
 if (← ProcessMemory.processId)=0 then
  return (.error (makeError .invalidArgument "Target process has no valid PID" operation),s)
 if address=0 ∨ length=0 ∨ length > kMaximumViewSize ∨
  address > maxUInt64-(length-1).toUInt64 then
  return (.error (makeError .invalidArgument "Process memory view address or length is invalid"
   operation),s)
 match ← ProcessMemory.read address length with
 | .error e => return (.error e,s)
 | .ok bytes =>
  if bytes.length≠length.toNat then
   return (.error (makeError .shortRead
    "Process memory view returned fewer bytes than requested" operation 0 length.toUInt64
    (UInt64.ofNat bytes.length)),s)
  let pid ← ProcessMemory.processId
  return (.ok (),loadedView pid address bytes)

/-- The new byte, its dirty bit, the count of dirty bits and the state that follows from it. -/
def stageByte (s : ProcessSession) (offset : ℕ) (value : UInt8) : ProcessSession :=
 let wasDirty := s.dirty.getD offset false
 let isDirty := value != s.baseline.getD offset 0
 let dirtyCount :=
  if wasDirty=isDirty then s.dirtyCount
  else if isDirty then s.dirtyCount+1
  else s.dirtyCount-1
 { s with
   working := s.working.set offset value
   dirty := s.dirty.set offset isDirty
   dirtyCount
   state := if dirtyCount != 0 then .dirty else .clean }

def recordEdit (s : ProcessSession) (edit : EditLog.Edit UInt8) : ProcessSession :=
 { s with undoStack := EditLog.push kMaxEditHistory edit s.undoStack,redoStack := [] }

def applyLocalEdit (s : ProcessSession) (allocation : Allocation) (offset : ℕ) (value : UInt8)
 (recordHistory : Bool) : Result Unit×ProcessSession :=
 let operation := "ProcessMemorySession::ApplyLocalEdit"
 if !s.hasBuffer ∨ offset ≥ s.working.length then
  (.error (makeError .invalidArgument "Process memory edit offset is outside the loaded view"
   operation),s)
 else
  let previous := s.working.getD offset 0
  if previous=value then (.ok (),s)
  else if recordHistory then
   match allocation with
   | .badAlloc =>
    (.error (makeError .limitReached "Process-memory edit history allocation failed"
     operation),s)
   | .lengthError =>
    (.error (makeError .limitReached
     "Process-memory edit history reached its container limit" operation),s)
   | .grown =>
    (.ok (),(s.recordEdit { offset,before := previous,after := value }).stageByte
     offset value)
  else (.ok (),s.stageByte offset value)

def editByte (s : ProcessSession) (allocation : Allocation) (offset : ℕ) (value : UInt8) :
 Result Unit×ProcessSession :=
 s.applyLocalEdit allocation offset value true

def revertByte (s : ProcessSession) (allocation : Allocation) (offset : ℕ) :
 Result Unit×ProcessSession :=
 if !s.hasBuffer ∨ offset ≥ s.working.length then
  (.error (makeError .invalidArgument
   "Process memory revert offset is outside the loaded view"
   "ProcessMemorySession::RevertByte"),s)
 else s.applyLocalEdit allocation offset (s.baseline.getD offset 0) true

def undo (s : ProcessSession) (allocation : Allocation) : Result Unit×ProcessSession :=
 let operation := "ProcessMemorySession::Undo"
 match s.undoStack with
 | [] =>
  (.error (makeError .invalidArgument "No process-memory edit is available to undo"
   operation),s)
 | edit::_ =>
  match allocation with
  | .badAlloc =>
   (.error (makeError .limitReached "Process-memory redo history allocation failed"
    operation),s)
  | .lengthError =>
   (.error (makeError .limitReached "Process-memory redo history reached its container limit"
    operation),s)
  | .grown =>
   let s := { s with redoStack := edit::s.redoStack }
   match s.applyLocalEdit .grown edit.offset edit.before false with
   | (.error e,s) => (.error e,{ s with redoStack := s.redoStack.tail })
   | (.ok (),s) => (.ok (),{ s with undoStack := s.undoStack.tail })

def redo (s : ProcessSession) (allocation : Allocation) : Result Unit×ProcessSession :=
 let operation := "ProcessMemorySession::Redo"
 match s.redoStack with
 | [] =>
  (.error (makeError .invalidArgument "No process-memory edit is available to redo"
   operation),s)
 | edit::_ =>
  match allocation with
  | .badAlloc =>
   (.error (makeError .limitReached "Process-memory undo history allocation failed"
    operation),s)
  | .lengthError =>
   (.error (makeError .limitReached "Process-memory undo history reached its container limit"
    operation),s)
  | .grown =>
   let s := { s with undoStack := edit::s.undoStack }
   match s.applyLocalEdit .grown edit.offset edit.after false with
   | (.error e,s) => (.error e,{ s with undoStack := s.undoStack.tail })
   | (.ok (),s) => (.ok (),{ s with redoStack := s.redoStack.tail })

def settled (s : ProcessSession) (bytes : List UInt8) : ProcessSession :=
 { s with
   baseline := bytes
   working := bytes
   dirty := s.dirty.map fun _=>false
   dirtyCount := 0
   conflicts := []
   mismatches := []
   undoStack := []
   redoStack := []
   state := .clean }

def revertAll (s : ProcessSession) : ProcessSession :=
 if !s.hasBuffer then s else s.settled s.baseline

def readExact (s : ProcessSession) : ProcessM (Result (List UInt8)) := do
 let operation := "ProcessMemorySession::ReadExact"
 if !s.hasBuffer ∨ s.working.length > 0xFFFFFFFF then
  return .error (makeError .internalInvariant "Process memory session is not loaded" operation)
 match ← ProcessMemory.read s.address (UInt32.ofNat s.working.length) with
 | .error e => return .error e
 | .ok bytes =>
  if bytes.length≠s.working.length then
   return .error (makeError .shortRead
    "Process memory read returned fewer bytes than requested" operation 0
    (UInt64.ofNat s.working.length) (UInt64.ofNat bytes.length))
  return .ok bytes

def validateTarget (s : ProcessSession) : ProcessM (Result Unit) := do
 let operation := "ProcessMemorySession::ValidateTarget"
 if !s.hasBuffer ∨ s.pid=0 then
  return .error (makeError .internalInvariant
   "Process memory session is not bound to a target PID" operation)
 if !(← ProcessMemory.isOpen) then
  return .error (makeError .backendDisconnected "Target process is no longer attached" operation)
 if (← ProcessMemory.processId)≠s.pid then
  return .error (makeError .invalidArgument
   "Process memory session was applied to a different PID" operation 0 s.pid.toUInt64
   (← ProcessMemory.processId).toUInt64)
 return .ok ()

def diffRuns (s : ProcessSession) : List DiffRun := KDbg.diffRuns s.dirty s.baseline s.working

/-- The lambda `finish`: disarm, and let a failure to do so replace the outcome. -/
def finish (s : ProcessSession) (guard : ProcessWriteArmGuard) (outcome : Result Unit) :
 ProcessM ((Result Unit×ProcessSession)×ProcessWriteArmGuard) := do
 match ← guard.disarm with
 | (.error e,guard) => return ((.error e,{ s with state := .error }),guard)
 | (.ok (),guard) => return ((outcome,s),guard)

/-- The part both writing operations share: write, disarm, and verify what is read back. -/
def attempt (s : ProcessSession) (guard : ProcessWriteArmGuard) (writing : ProcessM (Result Unit))
 (verify : List UInt8→Result Unit×ProcessSession) :
 ProcessM ((Result Unit×ProcessSession)×ProcessWriteArmGuard) := do
 match ← writing with
 | .error e => finish { s with state := .error } guard (.error e)
 | .ok () =>
  match ← guard.disarm with
  | (.error e,guard) => return ((.error e,{ s with state := .error }),guard)
  | (.ok (),guard) =>
   match ← s.readExact with
   | .error e => return ((.error e,{ s with state := .verificationFailed }),guard)
   | .ok readback => return (verify readback,guard)

def writeRuns (s : ProcessSession) : List DiffRun→ProcessM (Result Unit)
 | [] => return .ok ()
 | run::runs => do
  match ← armedWrite "Process memory write returned a short byte count"
   "ProcessMemorySession::ApplyAndVerify" (s.address+UInt64.ofNat run.offset)
   run.after with
  | .error e => return .error e
  | .ok () => s.writeRuns runs

/-- What `ApplyAndVerify` saves once the live view has matched the baseline. -/
def stageApply (s : ProcessSession) : ProcessSession :=
 { s with
   conflicts := []
   mismatches := []
   rollbackBytes := some s.baseline
   rollbackExpected := some s.working
   rollbackAllowsPartial := true }

/-- How `ApplyAndVerify` ends once it has read the view back. -/
def verifyApply (s : ProcessSession) (readback : List UInt8) : Result Unit×ProcessSession :=
 let mismatches := differingBytes readback s.working
 if mismatches≠[] then
  (.error (makeError .verificationMismatch
   "Process memory read-back differs from the staged view"
   "ProcessMemorySession::ApplyAndVerify" 0 (UInt64.ofNat s.working.length)
   (UInt64.ofNat (s.working.length-mismatches.length))),
   { s with mismatches,state := .verificationFailed })
 else (.ok (),{ s.settled s.working with rollbackAllowsPartial := false })

def applyAndVerify (s : ProcessSession) : ProcessM (Result Unit×ProcessSession) := do
 let operation := "ProcessMemorySession::ApplyAndVerify"
 let writesArmed ← ProcessMemory.writesArmed
 ProcessWriteArmGuard.withGuard writesArmed fun guard=>do
  if !s.hasBuffer ∨ !s.isDirty then
   s.finish guard (.error (makeError .invalidArgument "No process memory edits are pending"
    operation))
  else if !writesArmed then
   s.finish guard (.error (makeError .writeLocked
    "Arm process writes before applying the memory view" operation))
  else
   match ← s.validateTarget with
   | .error e => s.finish guard (.error e)
   | .ok () =>
    match ← s.readExact with
    | .error e => finish { s with state := .error } guard (.error e)
    | .ok live =>
     let conflicts := differingBytes live s.baseline
     if conflicts≠[] then
      finish { s with conflicts,mismatches := [],state := .conflict } guard
       (.error (makeError .concurrentModification
        "Process memory changed after the view was loaded" operation 0
        (UInt64.ofNat s.baseline.length) (UInt64.ofNat conflicts.length)))
     else
      let s := s.stageApply
      let runs := s.diffRuns
      if runs.isEmpty then
       finish { s with state := .error } guard (.error (makeError .internalInvariant
        "Dirty process-memory view has no dirty byte" operation))
      else s.attempt guard (s.writeRuns runs) s.verifyApply

/-- Whether `Rollback` accepts the live byte at `index`. -/
def rollbackAccepts (s : ProcessSession) (saved live : List UInt8) (index : ℕ) : Bool :=
 match s.rollbackAllowsPartial,s.rollbackExpected with
 | true,some expected => live[index]? == saved[index]? || live[index]? == expected[index]?
 | _,_ => live[index]? == s.baseline[index]?

/-- What `Rollback` records once it has accepted the live view. -/
def stageRollback (s : ProcessSession) (live : List UInt8) : ProcessSession :=
 { s with
   conflicts := []
   mismatches := []
   rollbackExpected := some live
   rollbackAllowsPartial := true }

/-- How `Rollback` ends once it has read the view back. -/
def verifyRollback (s : ProcessSession) (saved readback : List UInt8) :
 Result Unit×ProcessSession :=
 let mismatches := differingBytes readback saved
 if mismatches≠[] then
  (.error (makeError .rollbackFailed "Process memory rollback read-back failed"
   "ProcessMemorySession::Rollback" 0 (UInt64.ofNat saved.length)
   (UInt64.ofNat (saved.length-mismatches.length))),
   { s with mismatches,state := .verificationFailed })
 else
  (.ok (),{ s.settled saved with
   rollbackBytes := none
   rollbackExpected := none
   rollbackAllowsPartial := false })

def rollback (s : ProcessSession) : ProcessM (Result Unit×ProcessSession) := do
 let operation := "ProcessMemorySession::Rollback"
 let writesArmed ← ProcessMemory.writesArmed
 ProcessWriteArmGuard.withGuard writesArmed fun guard=>do
  match s.rollbackBytes with
  | none =>
   s.finish guard (.error (makeError .invalidArgument
    "No process memory rollback snapshot is available" operation))
  | some saved =>
   if !writesArmed then
    s.finish guard (.error (makeError .writeLocked "Arm process writes before rollback"
     operation))
   else
    match ← s.validateTarget with
    | .error e => s.finish guard (.error e)
    | .ok () =>
     let s := { s with conflicts := [],mismatches := [] }
     match ← s.readExact with
     | .error e => finish { s with state := .error } guard (.error e)
     | .ok live =>
      if saved.length≠s.baseline.length ∨
       s.rollbackExpected.any (fun expected =>
        decide (expected.length≠s.baseline.length)) then
       finish { s with state := .error } guard (.error (makeError .internalInvariant
        "Process rollback evidence has an invalid size" operation))
      else
       let conflicts := (List.range s.baseline.length).filter fun index =>
        !s.rollbackAccepts saved live index
       if conflicts≠[] then
        finish { s with conflicts,state := .conflict } guard
         (.error (makeError .concurrentModification
          "Process memory changed before rollback" operation 0
          (UInt64.ofNat s.baseline.length) (UInt64.ofNat conflicts.length)))
       else
        let s := s.stageRollback live
        s.attempt guard
         (armedWrite "Process memory rollback returned a short byte count" operation
          s.address saved)
         (s.verifyRollback saved)

/-- The public operations that change a session. -/
inductive Op where
 | load (address : UInt64) (length : UInt32)
 | reset
 | editByte (allocation : Allocation) (offset : ℕ) (value : UInt8)
 | revertByte (allocation : Allocation) (offset : ℕ)
 | undo (allocation : Allocation)
 | redo (allocation : Allocation)
 | revertAll
 | applyAndVerify
 | rollback

def exec : Op→ProcessSession→ProcessM (Result Unit×ProcessSession)
 | .load address length,s => s.load address length
 | .reset,s => pure (.ok (),s.reset)
 | .editByte allocation offset value,s => pure (s.editByte allocation offset value)
 | .revertByte allocation offset,s => pure (s.revertByte allocation offset)
 | .undo allocation,s => pure (s.undo allocation)
 | .redo allocation,s => pure (s.redo allocation)
 | .revertAll,s => pure (.ok (),s.revertAll)
 | .applyAndVerify,s => s.applyAndVerify
 | .rollback,s => s.rollback

def machine : Machine ProcessCall ProcessAnswer Op ProcessSession (Result Unit) :=
 { init := {},exec }

end ProcessSession

abbrev ProcessStep := Step ProcessCall ProcessAnswer ProcessSession.Op ProcessSession (Result Unit)
end KDbg
