import KDbg.InteractionRuns
import KDbg.EditLog
import KDbg.WriteDiff
import KDbg.WriteGate
set_option autoImplicit false
/-!
# The physical page session

`PhysicalPageSession` with every early return. The operations that take a
backend are interactive programs; the others are functions on the session.
Containers that may fail to grow take the outcome of the insertion.
-/
namespace KDbg
open Interaction

inductive PageSessionState where
 | empty
 | loading
 | clean
 | dirty
 | preflight
 | writing
 | verifying
 | conflict
 | verificationFailed
 | error
deriving DecidableEq,Repr

structure PhysicalPageEvidence where
 baseline : Option Page := none
 preflight : Option Page := none
 expectedAfter : Option Page := none
 readback : Option Page := none
 independentReload : Option Page := none
 rollback : Option Page := none

def PhysicalPageEvidence.complete (e : PhysicalPageEvidence) : Bool :=
 match e.baseline,e.preflight,e.expectedAfter,e.readback,e.independentReload,e.rollback with
 | some baseline,some preflight,some expectedAfter,some readback,some independentReload,
  some rollback =>
  decide (preflight=baseline) && decide (readback=expectedAfter) &&
   decide (independentReload=expectedAfter) && decide (rollback=baseline)
 | _,_,_,_,_,_ => false

abbrev ByteEdit := EditLog.Edit UInt8

/-- The private fields of `PhysicalPageSession`. The back of a history deque is
 the head of its list. -/
structure PageSession where
 target : Option PhysicalWriteTarget := none
 baseline : Page := zeroPage
 working : Page := zeroPage
 rollbackSnapshot : Option Page := none
 rollbackExpected : Option Page := none
 evidence : PhysicalPageEvidence := {}
 dirty : Fin kPhysicalPageSize→Bool := fun _=>false
 lastConflicts : List ℕ := []
 lastMismatches : List ℕ := []
 undoStack : List ByteEdit := []
 redoStack : List ByteEdit := []
 state : PageSessionState := .empty
 writeUnlocked : Bool := false
 lastApplyVerified : Bool := false
 recoveryObservationRequired : Bool := false
 revision : UInt64 := 0

/-- `FirstOffsetMessage`: the first offset in hexadecimal, and the count when there are several. -/
def firstOffsetMessage (text : String) (offsets : List ℕ) : String :=
 match offsets with
 | [] => text
 | first::rest =>
  text ++ " at offset 0x" ++ String.ofList (Nat.toDigits 16 first) ++
   (if rest.isEmpty then ""
    else " (" ++ toString offsets.length ++ " total mismatches)")

namespace PageSession

def kMaxEditHistory : ℕ := 4096

def isDirty (s : PageSession) : Bool := (List.finRange kPhysicalPageSize).any s.dirty

def canRollback (s : PageSession) : Bool := s.rollbackSnapshot.isSome && s.rollbackExpected.isSome

def diffRuns (s : PageSession) : List DiffRun :=
 KDbg.diffRuns (List.ofFn s.dirty) (List.ofFn s.baseline) (List.ofFn s.working)

def lockWrite (s : PageSession) : PageSession := { s with writeUnlocked := false }

def clearEvidence (s : PageSession) : PageSession := { s with evidence := {} }

def clearPageData (s : PageSession) : PageSession :=
 { s.clearEvidence with
   target := none
   baseline := zeroPage
   working := zeroPage
   rollbackSnapshot := none
   rollbackExpected := none
   lastApplyVerified := false
   recoveryObservationRequired := false
   dirty := fun _=>false
   lastConflicts := []
   lastMismatches := []
   undoStack := []
   redoStack := [] }

def invalidate (s : PageSession) : PageSession :=
 { s.lockWrite.clearPageData with revision := s.revision+1,state := .empty }

/-- A failed step of a backend operation: a disconnect unloads the page, any other error
 leaves the given state. -/
def failWith (s : PageSession) (e : Error) (state : PageSessionState) :
 Result Unit×PageSession :=
 if e.code=.backendDisconnected then (.error e,s.invalidate)
 else (.error e,{ s with state := state })

def validatePageRange (s : PageSession) : BackendM (Result Unit) := do
 match s.target with
 | none =>
  return .error (makeError .invalidArgument "No physical page is selected"
   "PhysicalPageSession::ValidatePageRange")
 | some target =>
  match ← getPhysicalRanges with
  | .error e => return .error e
  | .ok ranges =>
   if ranges.any (fun range=>range.contains target.address.physicalAddress
    (UInt64.ofNat kPhysicalPageSize)) then
    return .ok ()
   else
    return .error (makeError .outsidePhysicalRam
     "The complete 4 KiB page is not inside a physical RAM range"
     "PhysicalPageSession::ValidatePageRange")

/-- Copy a full-length byte vector into a page. -/
def pageOfBytes (bytes : List UInt8) (h : bytes.length=kPhysicalPageSize) : Page :=
 fun i=>bytes.get (i.cast h.symm)

def readExactPage (s : PageSession) : BackendM (Result Page) := do
 match s.target with
 | none =>
  return .error (makeError .invalidArgument "No physical page is selected"
   "PhysicalPageSession::ReadExactPage")
 | some target =>
  match ← readPhysical target.address.physicalAddress (UInt32.ofNat kPhysicalPageSize) with
  | .error e => return .error e
  | .ok bytes =>
   if h : bytes.length=kPhysicalPageSize then
    return .ok (pageOfBytes bytes h)
   else
    return .error (makeError .shortRead "Backend did not return a complete 4 KiB page"
     "PhysicalPageSession::ReadExactPage" 0 (UInt64.ofNat kPhysicalPageSize)
     (UInt64.ofNat bytes.length))

def load (s : PageSession) (target : PhysicalWriteTarget) :
 BackendM (Result Unit×PageSession) := do
 let s := { s.lockWrite.clearPageData with state := .loading }
 if !target.address.isConsistent then
  return (.error (makeError .invalidPfn
   "PFN and physical address do not identify the same complete page"
   "PhysicalPageSession::Load"),{ s with state := .error })
 if !target.isConsistent then
  return (.error (makeError .invalidArgument
   "Physical write target metadata is incomplete or inconsistent"
   "PhysicalPageSession::Load"),{ s with state := .error })
 let s := { s with target := some target }
 match ← s.validatePageRange with
 | .error e => return (.error e,{ s with state := .error,target := none })
 | .ok () =>
  match ← s.readExactPage with
  | .error e => return (.error e,{ s with state := .error,target := none })
  | .ok page =>
   return (.ok (),{ s with
    baseline := page
    working := page
    evidence := { s.evidence with baseline := some page }
    revision := s.revision+1
    state := .clean })

def loadPfn (s : PageSession) (address : PfnAddress) : BackendM (Result Unit×PageSession) :=
 s.load (.ofRawPfn address)

/-- The three states in which a physical operation is active. -/
def operationActive (s : PageSession) : Bool :=
 s.state == .preflight || s.state == .writing || s.state == .verifying

/-- What `ReloadPreservingRollback` resets once its guards have passed. -/
def beginReload (s : PageSession) : PageSession :=
 { s.lockWrite with
   evidence := { s.evidence with independentReload := none }
   lastConflicts := []
   lastMismatches := [] }

/-- What `ReloadPreservingRollback` does with the complete page it has read. -/
def observeReload (s : PageSession) (reloaded : Page) : Result Unit×PageSession :=
 let s := { s with evidence := { s.evidence with independentReload := some reloaded } }
 if s.recoveryObservationRequired then
  let s := { s with
   rollbackExpected := some reloaded
   recoveryObservationRequired := false
   baseline := reloaded
   working := reloaded
   dirty := fun _=>false
   undoStack := []
   redoStack := []
   revision := s.revision+1
   state := .clean }
  if s.rollbackSnapshot=some reloaded then
   (.ok (),{ s with rollbackSnapshot := none,rollbackExpected := none })
  else (.ok (),s)
 else
  let s := { s with lastMismatches := s.lastMismatches++differingOffsets reloaded s.baseline }
  if s.lastMismatches≠[] then
   (.error (makeError .verificationMismatch
    (firstOffsetMessage "Independent reload does not match the verified write"
     s.lastMismatches) "PhysicalPageSession::ReloadPreservingRollback"),
    { s with state := .verificationFailed })
  else
   (.ok (),{ s with
    baseline := reloaded
    working := reloaded
    dirty := fun _=>false
    undoStack := []
    redoStack := []
    revision := s.revision+1
    state := .clean })

def reloadPreservingRollback (s : PageSession) : BackendM (Result Unit×PageSession) := do
 let operation := "PhysicalPageSession::ReloadPreservingRollback"
 if s.target.isNone then
  return (.error (makeError .invalidArgument "No physical page is loaded" operation),s)
 if s.isDirty && !s.recoveryObservationRequired then
  return (.error (makeError .invalidArgument
   "Revert or apply staged edits before an independent reload" operation),s)
 if s.rollbackSnapshot.isNone then
  return (.error (makeError .invalidArgument
   "Independent evidence reload requires a previous successful apply" operation),s)
 if s.operationActive then
  return (.error (makeError .invalidArgument
   "The page cannot be reloaded while a physical operation is active" operation),s)
 let s := s.beginReload
 match ← s.validatePageRange with
 | .error e => return s.failWith e .error
 | .ok () =>
  let s := { s with state := .verifying }
  match ← s.readExactPage with
  | .error e => return s.failWith e .verificationFailed
  | .ok reloaded => return s.observeReload reloaded

/-- `dirty_.set`, the lock and the new state that every byte-changing edit ends with. -/
def stageByte (s : PageSession) (i : Fin kPhysicalPageSize) (value : UInt8) : PageSession :=
 let s := { s with working := Function.update s.working i value }
 let s := { s with
  dirty := Function.update s.dirty i (s.baseline i != s.working i)
  revision := s.revision+1 }
 { s.lockWrite with state := if s.isDirty then .dirty else .clean }

def recordEdit (s : PageSession) (edit : ByteEdit) : PageSession :=
 let undoStack := edit::s.undoStack
 { s with
   undoStack := if undoStack.length > kMaxEditHistory then undoStack.dropLast else undoStack
   redoStack := [] }

def applyLocalEdit (s : PageSession) (allocation : Allocation) (offset : ℕ) (value : UInt8)
 (recordHistory : Bool) : Result Unit×PageSession :=
 let operation := "PhysicalPageSession::ApplyLocalEdit"
 if s.target.isNone then
  (.error (makeError .invalidArgument "No physical page is loaded" operation),s)
 else if h : offset < kPhysicalPageSize then
  if s.operationActive then
   (.error (makeError .invalidArgument
    "The page cannot be edited while an apply operation is active" operation),s)
  else
   let previous := s.working ⟨offset,h⟩
   if previous=value then (.ok (),s)
   else if recordHistory then
    match allocation with
    | .badAlloc =>
     (.error (makeError .limitReached "Physical-page edit history allocation failed"
      operation),s)
    | .lengthError =>
     (.error (makeError .limitReached
      "Physical-page edit history reached its container limit" operation),s)
    | .grown =>
     (.ok (),(s.recordEdit { offset,before := previous,after := value }).stageByte
      ⟨offset,h⟩ value)
   else (.ok (),s.stageByte ⟨offset,h⟩ value)
 else
  (.error (makeError .invalidArgument "Byte offset is outside the 4 KiB page" operation),s)

def editByte (s : PageSession) (allocation : Allocation) (offset : ℕ) (value : UInt8) :
 Result Unit×PageSession :=
 s.applyLocalEdit allocation offset value true

def revertByte (s : PageSession) (allocation : Allocation) (offset : ℕ) :
 Result Unit×PageSession :=
 if h : s.target.isSome ∧ offset < kPhysicalPageSize then
  s.applyLocalEdit allocation offset (s.baseline ⟨offset,h.2⟩) true
 else
  (.error (makeError .invalidArgument "Cannot revert the requested byte"
   "PhysicalPageSession::RevertByte"),s)

def undo (s : PageSession) (allocation : Allocation) : Result Unit×PageSession :=
 let operation := "PhysicalPageSession::Undo"
 match s.undoStack with
 | [] =>
  (.error (makeError .invalidArgument "No physical-page edit is available to undo" operation),s)
 | edit::_ =>
  match allocation with
  | .badAlloc =>
   (.error (makeError .limitReached "Physical-page redo history allocation failed" operation),s)
  | .lengthError =>
   (.error (makeError .limitReached "Physical-page redo history reached its container limit"
    operation),s)
  | .grown =>
   let s := { s with redoStack := edit::s.redoStack }
   match s.applyLocalEdit .grown edit.offset edit.before false with
   | (.error e,s) => (.error e,{ s with redoStack := s.redoStack.tail })
   | (.ok (),s) => (.ok (),{ s with undoStack := s.undoStack.tail })

def redo (s : PageSession) (allocation : Allocation) : Result Unit×PageSession :=
 let operation := "PhysicalPageSession::Redo"
 match s.redoStack with
 | [] =>
  (.error (makeError .invalidArgument "No physical-page edit is available to redo" operation),s)
 | edit::_ =>
  match allocation with
  | .badAlloc =>
   (.error (makeError .limitReached "Physical-page undo history allocation failed" operation),s)
  | .lengthError =>
   (.error (makeError .limitReached "Physical-page undo history reached its container limit"
    operation),s)
  | .grown =>
   let s := { s with undoStack := edit::s.undoStack }
   match s.applyLocalEdit .grown edit.offset edit.after false with
   | (.error e,s) => (.error e,{ s with undoStack := s.undoStack.tail })
   | (.ok (),s) => (.ok (),{ s with redoStack := s.redoStack.tail })

def revertAll (s : PageSession) : PageSession :=
 if s.target.isNone then s
 else
  { s.lockWrite with
    working := s.baseline
    dirty := fun _=>false
    lastConflicts := []
    lastMismatches := []
    undoStack := []
    redoStack := []
    revision := s.revision+1
    state := .clean }

def unlockForOneApply (s : PageSession) (retypedPfn : UInt64) : Result Unit×PageSession :=
 let operation := "PhysicalPageSession::UnlockForOneApply"
 match s.target with
 | none => (.error (makeError .invalidArgument "No physical page is loaded" operation),s)
 | some target =>
  if !s.isDirty then
   (.error (makeError .invalidArgument "There are no changes to apply" operation),s)
  else if retypedPfn≠target.address.pfn then
   (.error (makeError .writeLocked "Retyped PFN does not match the current page" operation),s)
  else (.ok (),{ s with writeUnlocked := true })

def unlockForRollback (s : PageSession) (retypedPfn : UInt64) : Result Unit×PageSession :=
 let operation := "PhysicalPageSession::UnlockForRollback"
 match s.target,s.rollbackSnapshot,s.rollbackExpected with
 | some target,some _,some _ =>
  if retypedPfn≠target.address.pfn then
   (.error (makeError .writeLocked "Retyped PFN does not match the current page" operation),s)
  else (.ok (),{ s with writeUnlocked := true })
 | _,_,_ =>
  (.error (makeError .invalidArgument "No previous successful apply is available for rollback"
   operation),s)

/-- What `ApplyAndVerify` resets once its guards have passed. -/
def beginApply (s : PageSession) : PageSession :=
 { s.lockWrite with
   lastApplyVerified := false
   recoveryObservationRequired := false
   lastConflicts := []
   lastMismatches := []
   evidence := { baseline := some s.baseline } }

/-- The rollback point that `ApplyAndVerify` takes before it opens the gate. -/
def stageApply (s : PageSession) : PageSession :=
 { s with
   rollbackSnapshot := some s.baseline
   rollbackExpected := none
   evidence := { s.evidence with expectedAfter := some s.working } }

/-- What `ApplyAndVerify` keeps of a transaction answer before it closes the gate. -/
def recordApply (s : PageSession) (result : PhysicalPageCompareWriteResult) : PageSession :=
 let s := { s with evidence := { s.evidence with readback := some result.readback } }
 if result.outcome=.conflict then
  { s with
    evidence := { s.evidence with preflight := some result.readback }
    rollbackSnapshot := none
    recoveryObservationRequired := false
    lastConflicts := s.lastConflicts++differingOffsets result.readback s.baseline }
 else
  { s with
    evidence := { s.evidence with preflight := some s.baseline }
    rollbackExpected := some result.readback
    recoveryObservationRequired := false }

/-- The verdict of `ApplyAndVerify` on a transaction answer, after the gate has closed. -/
def verifyApply (s : PageSession) (result : PhysicalPageCompareWriteResult) :
 Result Unit×PageSession :=
 let operation := "PhysicalPageSession::ApplyAndVerify"
 if result.outcome=.conflict then
  (.error (makeError .concurrentModification
   (firstOffsetMessage "Live page changed after it was loaded" s.lastConflicts) operation),
   { s with state := .conflict })
 else
  let s := { s with
   state := .verifying
   lastMismatches := s.lastMismatches++differingOffsets result.readback s.working }
  if result.outcome≠.applied ∨ result.transferred≠UInt32.ofNat kPhysicalPageSize ∨
   s.lastMismatches≠[] then
   let code := if result.transferred≠0 ∧ result.transferred≠UInt32.ofNat kPhysicalPageSize
    then ErrorCode.shortWrite else ErrorCode.verificationMismatch
   (.error (makeError code
    (firstOffsetMessage "Verified physical transaction did not produce the requested page"
     s.lastMismatches) operation result.nativeStatus.toUInt64
    (UInt64.ofNat kPhysicalPageSize) result.transferred.toUInt64),
    { s with state := .verificationFailed })
  else
   (.ok (),{ s with
    baseline := result.readback
    working := result.readback
    dirty := fun _=>false
    undoStack := []
    redoStack := []
    lastApplyVerified := true
    revision := s.revision+1
    state := .clean })

/-- How `ApplyAndVerify` ends once the transaction was answered and the gate was closed. A
 lost answer leaves the page unknown; a gate that did not close outranks every verdict. -/
def settleApply (s : PageSession) (answer : Result PhysicalPageCompareWriteResult)
 (closed : Result Unit) : Result Unit×PageSession :=
 let s := { s with state := .writing }
 match answer with
 | .error e =>
  let s := { s with
   rollbackExpected := none
   recoveryObservationRequired := true
   state := .verificationFailed }
  match closed with
  | .error c => (.error c,s)
  | .ok () => (.error e,s)
 | .ok result =>
  let s := s.recordApply result
  match closed with
  | .error c => (.error c,{ s with state := .error })
  | .ok () => s.verifyApply result

def applyAndVerify (s : PageSession) : BackendM (Result Unit×PageSession) := do
 let operation := "PhysicalPageSession::ApplyAndVerify"
 match s.target with
 | none => return (.error (makeError .invalidArgument "No physical page is loaded" operation),s)
 | some target =>
  if !s.isDirty then
   return (.error (makeError .invalidArgument "There are no dirty bytes" operation),s)
  if !s.writeUnlocked then
   return (.error (makeError .writeLocked "Write is locked for the current page" operation),s)
  let s := s.beginApply
  match ← s.validatePageRange with
  | .error e => return s.failWith e .error
  | .ok () =>
   let s := s.stageApply
   WriteGateGuard.transact
    (.compareWritePhysicalPage target.address.physicalAddress s.baseline s.working)
    (fun e=>{ s with rollbackSnapshot := none }.failWith e .error)
    s.settleApply

/-- What `RollbackBaseline` resets once its guards have passed. -/
def beginRollback (s : PageSession) : PageSession :=
 { s.lockWrite with
   lastConflicts := []
   lastMismatches := []
   evidence := { s.evidence with rollback := none } }

/-- What `RollbackBaseline` keeps of a transaction answer before it closes the gate. -/
def recordRollback (s : PageSession) (result : PhysicalPageCompareWriteResult) : PageSession :=
 let s := { s with evidence := { s.evidence with rollback := some result.readback } }
 if result.outcome=.conflict then s
 else { s with rollbackExpected := some result.readback }

/-- The verdict of `RollbackBaseline` on a transaction answer, after the gate has closed;
 `snapshot` and `expected` are the contents of the rollback pair at that point. -/
def verifyRollback (s : PageSession) (snapshot expected : Page)
 (result : PhysicalPageCompareWriteResult) : Result Unit×PageSession :=
 let operation := "PhysicalPageSession::RollbackBaseline"
 if result.outcome=.conflict then
  let s := { s with
   lastConflicts := s.lastConflicts++differingOffsets result.readback expected
   state := .conflict }
  (.error (makeError .concurrentModification
   (firstOffsetMessage "Live page changed before rollback" s.lastConflicts) operation),s)
 else
  let s := { s with
   state := .verifying
   lastMismatches := s.lastMismatches++differingOffsets result.readback snapshot }
  if result.outcome≠.applied ∨ result.transferred≠UInt32.ofNat kPhysicalPageSize ∨
   s.lastMismatches≠[] then
   (.error (makeError .rollbackFailed
    (firstOffsetMessage "Rollback read-back does not match the baseline" s.lastMismatches)
    operation result.nativeStatus.toUInt64 (UInt64.ofNat kPhysicalPageSize)
    result.transferred.toUInt64),
    { s with rollbackExpected := some result.readback,state := .verificationFailed })
  else
   (.ok (),{ s with
    baseline := snapshot
    working := snapshot
    rollbackSnapshot := none
    rollbackExpected := none
    recoveryObservationRequired := false
    dirty := fun _=>false
    lastConflicts := []
    lastMismatches := []
    undoStack := []
    redoStack := []
    lastApplyVerified := false
    revision := s.revision+1
    state := .clean })

/-- How `RollbackBaseline` ends once the transaction was answered and the gate was closed. -/
def settleRollback (s : PageSession) (snapshot expected : Page)
 (answer : Result PhysicalPageCompareWriteResult) (closed : Result Unit) :
 Result Unit×PageSession :=
 let s := { s with state := .writing }
 match answer with
 | .error e =>
  let s := { s with
   rollbackExpected := none
   recoveryObservationRequired := true
   state := .verificationFailed }
  match closed with
  | .error c => (.error c,s)
  | .ok () => (.error e,s)
 | .ok result =>
  let s := s.recordRollback result
  match closed with
  | .error c => (.error c,{ s with state := .error })
  | .ok () => s.verifyRollback snapshot expected result

def rollbackBaseline (s : PageSession) : BackendM (Result Unit×PageSession) := do
 let operation := "PhysicalPageSession::RollbackBaseline"
 match s.target with
 | none => return (.error (makeError .invalidArgument "No physical page is loaded" operation),s)
 | some target =>
  match s.rollbackSnapshot,s.rollbackExpected with
  | some snapshot,some expected =>
   if !s.writeUnlocked then
    return (.error (makeError .writeLocked "Rollback requires a one-apply write unlock"
     operation),s)
   let s := s.beginRollback
   match ← s.validatePageRange with
   | .error e => return s.failWith e .error
   | .ok () =>
    WriteGateGuard.transact
     (.compareWritePhysicalPage target.address.physicalAddress expected snapshot)
     (fun e=>s.failWith e .error)
     (s.settleRollback snapshot expected)
  | _,_ =>
   return (.error (makeError .invalidArgument
    "No previous baseline snapshot is available for rollback" operation),s)

/-- The public operations that change a session. -/
inductive Op where
 | load (target : PhysicalWriteTarget)
 | reloadPreservingRollback
 | invalidate
 | editByte (allocation : Allocation) (offset : ℕ) (value : UInt8)
 | revertByte (allocation : Allocation) (offset : ℕ)
 | undo (allocation : Allocation)
 | redo (allocation : Allocation)
 | revertAll
 | unlockForOneApply (retypedPfn : UInt64)
 | unlockForRollback (retypedPfn : UInt64)
 | applyAndVerify
 | rollbackBaseline

def exec : Op→PageSession→BackendM (Result Unit×PageSession)
 | .load target,s => s.load target
 | .reloadPreservingRollback,s => s.reloadPreservingRollback
 | .invalidate,s => pure (.ok (),s.invalidate)
 | .editByte allocation offset value,s => pure (s.editByte allocation offset value)
 | .revertByte allocation offset,s => pure (s.revertByte allocation offset)
 | .undo allocation,s => pure (s.undo allocation)
 | .redo allocation,s => pure (s.redo allocation)
 | .revertAll,s => pure (.ok (),s.revertAll)
 | .unlockForOneApply retypedPfn,s => pure (s.unlockForOneApply retypedPfn)
 | .unlockForRollback retypedPfn,s => pure (s.unlockForRollback retypedPfn)
 | .applyAndVerify,s => s.applyAndVerify
 | .rollbackBaseline,s => s.rollbackBaseline

def machine : Machine BackendCall BackendAnswer Op PageSession (Result Unit) :=
 { init := {},exec }

end PageSession

abbrev PageStep := Step BackendCall BackendAnswer PageSession.Op PageSession (Result Unit)
end KDbg
