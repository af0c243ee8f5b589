import KDbg.DriverKernel
set_option autoImplicit false
/-! The four write-class requests of the driver: each is one section under the
`WriteLock` of a file context, and works on that context's gate and on the
driver's counters. -/
namespace KDbg
open Interaction

namespace Driver

def kWriteAckMagic : UInt64 := 0x4B44424757524954
def kWriteModeRequestSize : UInt32 := 16
def kPhysicalWriteHeader : UInt32 := 32
def kProcessMemoryHeader : UInt32 := 40
def kCompareWriteRequestSize : UInt32 := 8232
def kCompareWriteResponseSize : UInt32 := 4136
def kNoMismatch : UInt32 := 0xFFFFFFFF

structure WriteModeRequest where
 size : UInt32
 enableWrite : UInt32
 acknowledge : UInt64

structure PhysicalWriteRequest where
 size : UInt32
 flags : UInt32
 physicalAddress : UInt64
 length : UInt32
 transferred : UInt32
 acknowledge : UInt64
 data : List UInt8

structure ProcessMemoryRequest where
 size : UInt32
 flags : UInt32
 processId : UInt32
 length : UInt32
 virtualAddress : UInt64
 acknowledge : UInt64
 transferred : UInt32
 reserved : UInt32
 data : List UInt8

structure CompareWriteRequest where
 size : UInt32
 flags : UInt32
 physicalAddress : UInt64
 length : UInt32
 reserved : UInt32
 acknowledge : UInt64
 transactionId : UInt64
 expectedBefore : Page
 desired : Page

inductive TransactionResult where
 | applied
 | conflict
 | failed
deriving DecidableEq,Repr

structure CompareWriteResponse where
 size : UInt32
 result : TransactionResult
 physicalAddress : UInt64
 length : UInt32
 transferred : UInt32
 firstMismatchOffset : UInt32
 status : NtStatus
 transactionId : UInt64
 readback : Page

/-- A request packet: the system buffer as the fields it decodes to, or no buffer at all. -/
structure Irp (ρ : Type) where
 buffer : Option ρ
 inputLength : UInt32
 outputLength : UInt32

/-- A packet whose data follow a header: they are the rest of the caller's input. -/
structure DataIrp (ρ : Type) (header : UInt32) (data : ρ→List UInt8) extends Irp ρ where
 carried : ∀ request,buffer=some request → header ≤ inputLength →
  inputLength.toNat=header.toNat+(data request).length

abbrev PhysicalWriteIrp := DataIrp PhysicalWriteRequest kPhysicalWriteHeader (·.data)
abbrev ProcessWriteIrp := DataIrp ProcessMemoryRequest kProcessMemoryHeader (·.data)

inductive Output where
 | transferred (count : ℕ)
 | transaction (response : CompareWriteResponse)

structure Completion where
 status : NtStatus
 information : ℕ := 0
 output : Option Output := none

/-- What a section under a context's `WriteLock` reads and changes. -/
structure Section where
 writeEnabled : Bool
 statistics : Statistics
deriving DecidableEq,Repr

namespace Section

def closeGate (s : Section) : Section := { s with writeEnabled := false }

def countRejected (s : Section) : Section :=
 { s with statistics :=
  { s.statistics with rejectedWrites := s.statistics.rejectedWrites+1 } }

def countSuccessful (s : Section) : Section :=
 { s with statistics :=
  { s.statistics with successfulWrites := s.statistics.successfulWrites+1 } }

def setPhysicalWriteStage (s : Section) (stage : PhysicalWriteStage) : Section :=
 { s with statistics := s.statistics.setPhysicalWriteStage stage }

def setPhysicalWriteResult (s : Section) (status : NtStatus) (transferred : ℕ) : Section :=
 { s with statistics := s.statistics.setPhysicalWriteResult status transferred }

/-- The way out that every rejecting check takes: the gate is closed. -/
def reject (s : Section) (status : NtStatus) : Completion×Section :=
 ({ status },s.closeGate.countRejected)

def rejectPhysical (s : Section) (status : NtStatus) : Completion×Section :=
 ({ status },s.closeGate.countRejected.setPhysicalWriteResult status 0)

end Section

def setWriteMode (irp : Irp WriteModeRequest) (s : Section) : Completion×Section :=
 match irp.buffer with
 | none => s.reject .bufferTooSmall
 | some request =>
  if irp.inputLength≠kWriteModeRequestSize ∨ irp.outputLength≠0 then
   s.reject .bufferTooSmall
  else if request.size≠kWriteModeRequestSize ∨ 1 < request.enableWrite ∨
   request.acknowledge≠kWriteAckMagic then
   s.reject .accessDenied
  else ({ status := .success },{ s with writeEnabled := request.enableWrite != 0 })

def PhysicalWriteRequest.isWellFormed (request : PhysicalWriteRequest) (inputLength : UInt32) :
 Bool :=
 request.length != 0 &&
  match checkedAddUlong kPhysicalWriteHeader request.length with
  | none => false
  | some total =>
   request.size == total && request.flags == 0 && request.transferred == 0 &&
    decide (request.length.toNat ≤ kMaxTransferSize) && inputLength == total &&
    isPageBounded request.physicalAddress request.length.toUInt64

/-- The accounting after `WriteValidatedPhysicalRange`. -/
def completeWritePhysical (request : PhysicalWriteRequest) (status : NtStatus) (written : ℕ)
 (s : Section) : Completion×Section :=
 let output := some (Output.transferred written)
 let information := kPhysicalWriteHeader.toNat
 if ntSuccess status && written == request.length.toNat then
  ({ status,information,output },
   ((s.setPhysicalWriteStage .complete).countSuccessful).setPhysicalWriteResult status written)
 else
  let status := if ntSuccess status then .partialCopy else status
  ({ status,information,output },
   s.closeGate.countRejected.setPhysicalWriteResult status written)

def writePhysical (irp : PhysicalWriteIrp) (s : Section) : KernelM (Completion×Section) := do
 let s := (s.setPhysicalWriteStage .validation).setPhysicalWriteResult .pending 0
 match irp.buffer with
 | none => return s.rejectPhysical .bufferTooSmall
 | some request =>
  if irp.inputLength < kPhysicalWriteHeader ∨ irp.outputLength≠kPhysicalWriteHeader then
   return s.rejectPhysical .bufferTooSmall
  else if !request.isWellFormed irp.inputLength then
   return s.rejectPhysical .invalidParameter
  else if request.acknowledge≠kWriteAckMagic then
   return s.rejectPhysical .accessDenied
  else match ← Kernel.physicalMemoryRanges with
   | none => return s.rejectPhysical .insufficientResources
   | some ranges =>
    if !isPhysicalRamRange ranges request.physicalAddress request.length.toUInt64 then
     return s.rejectPhysical .conflictingAddresses
    else if !s.writeEnabled then
     return ({ status := .accessDenied },
      s.countRejected.setPhysicalWriteResult .accessDenied 0)
    else
     let ((status,written),statistics) ← writeValidatedPhysicalRange
      request.physicalAddress request.data request.length.toUInt64 s.statistics
     return completeWritePhysical request status written
      { writeEnabled := false,statistics }

def firstMismatchOffset (left right : Page) : UInt32 :=
 match (List.finRange kPhysicalPageSize).find? (fun i=>left i != right i) with
 | none => kNoMismatch
 | some i => UInt32.ofNat i

def pageOf (bytes : List UInt8) : Page := fun i=>bytes.getD i 0

def fillPhysicalPageTransactionResponse (result : TransactionResult) (physicalAddress : UInt64)
 (transferred : ℕ) (firstMismatchOffset : UInt32) (status : NtStatus) (transactionId : UInt64)
 (readback : Page) : CompareWriteResponse :=
 { size := kCompareWriteResponseSize,result,physicalAddress,
   length := UInt32.ofNat kPhysicalPageSize,transferred := UInt32.ofNat transferred,
   firstMismatchOffset,status,transactionId,readback }

/-- One attempt of a transaction: the status, the response if one is built, and the bytes
 written. -/
structure Transaction where
 status : NtStatus
 response : Option CompareWriteResponse := none
 written : ℕ := 0

def wholePage (answer : NtStatus×List UInt8) : Except NtStatus Page :=
 if !ntSuccess answer.1 then .error answer.1
 else if answer.2.length≠kPhysicalPageSize then .error .partialCopy
 else .ok (pageOf answer.2)

def CompareWriteRequest.outcome (request : CompareWriteRequest) (writeStatus : NtStatus)
 (written : ℕ) (readback : Page) : CompareWriteResponse :=
 let desiredMismatch := firstMismatchOffset readback request.desired
 let applied := ntSuccess writeStatus && written == kPhysicalPageSize &&
  desiredMismatch == kNoMismatch
 let outcomeStatus :=
  if applied then .success else if ntSuccess writeStatus then .dataError else writeStatus
 fillPhysicalPageTransactionResponse (if applied then .applied else .failed)
  request.physicalAddress written desiredMismatch outcomeStatus request.transactionId readback

/-- From the comparison to the read-back, under `PhysicalTransactionLock`. -/
def transact (ranges : List PhysicalMemoryRange) (request : CompareWriteRequest) (s : Section) :
 KernelM (Transaction×Section) := do
 let pageSize := UInt64.ofNat kPhysicalPageSize
 let s := s.setPhysicalWriteStage .comparing
 match wholePage (← readPhysicalWithSnapshot ranges request.physicalAddress pageSize) with
 | .error status => return ({ status },s)
 | .ok current =>
  let mismatch := firstMismatchOffset current request.expectedBefore
  if mismatch≠kNoMismatch then
   let response := fillPhysicalPageTransactionResponse .conflict request.physicalAddress 0
    mismatch .revisionMismatch request.transactionId current
   return ({ status := .success,response := some response },
    s.setPhysicalWriteResult .revisionMismatch 0)
  else
   let ((writeStatus,written),statistics) ← writeValidatedPhysicalRange
    request.physicalAddress (List.ofFn request.desired) pageSize s.statistics
   let s := { s with statistics }.setPhysicalWriteStage .readback
   match wholePage (← readPhysicalWithSnapshot ranges request.physicalAddress pageSize) with
   | .error status => return ({ status,written },s)
   | .ok readback =>
    let response := request.outcome writeStatus written readback
    let s := s.setPhysicalWriteResult response.status written
    return ({ status := .success,response := some response,written },
     if response.result=.applied then
      (s.setPhysicalWriteStage .complete).countSuccessful else s)

/-- The accounting after the transaction: anything but an applied page is a rejected write. -/
def completeCompareWrite (outcome : Transaction) (s : Section) : Completion×Section :=
 match outcome.response with
 | none => ({ status := outcome.status },
  s.countRejected.setPhysicalWriteResult outcome.status outcome.written)
 | some response =>
  ({ status := outcome.status,information := kCompareWriteResponseSize.toNat,
     output := some (.transaction response) },
   if response.result≠.applied then s.countRejected else s)

def CompareWriteRequest.isWellFormed (request : CompareWriteRequest) : Bool :=
 request.size == kCompareWriteRequestSize && request.flags == 0 &&
  request.length == UInt32.ofNat kPhysicalPageSize && request.reserved == 0 &&
  request.transactionId != 0 && request.physicalAddress &&& 0xFFF == 0

def compareWritePhysicalPage (irp : Irp CompareWriteRequest) (s : Section) :
 KernelM (Completion×Section) := do
 let s := (s.setPhysicalWriteStage .validation).setPhysicalWriteResult .pending 0
 match irp.buffer with
 | none => return s.rejectPhysical .bufferTooSmall
 | some request =>
  if irp.inputLength≠kCompareWriteRequestSize ∨
   irp.outputLength≠kCompareWriteResponseSize then
   return s.rejectPhysical .bufferTooSmall
  else if !request.isWellFormed then
   return s.rejectPhysical .invalidParameter
  else if request.acknowledge≠kWriteAckMagic then
   return s.rejectPhysical .accessDenied
  else if !(← Kernel.allocatePool) then
   return s.rejectPhysical .insufficientResources
  else match ← Kernel.physicalMemoryRanges with
   | none => return s.rejectPhysical .insufficientResources
   | some ranges =>
    if !isPhysicalRamRange ranges request.physicalAddress
     (UInt64.ofNat kPhysicalPageSize) then
     return s.rejectPhysical .conflictingAddresses
    else if !s.writeEnabled then
     return ({ status := .accessDenied },
      s.countRejected.setPhysicalWriteResult .accessDenied 0)
    else
     let (outcome,s) ← transact ranges request s.closeGate
     return completeCompareWrite outcome s

def ProcessMemoryRequest.isWellFormed (request : ProcessMemoryRequest) (highestUser : UInt64)
 (inputLength : UInt32) : Bool :=
 request.length != 0 &&
  match checkedAddUlong kProcessMemoryHeader request.length with
  | none => false
  | some total =>
   request.size == total && request.flags == 0 && request.reserved == 0 &&
    request.transferred == 0 && request.processId != 0 &&
    decide (request.length.toNat ≤ kMaxTransferSize) &&
    isUserRange highestUser request.virtualAddress request.length.toUInt64 &&
    inputLength == total

def completeWriteProcess (request : ProcessMemoryRequest) (status : NtStatus) (copied : ℕ)
 (s : Section) : Completion×Section :=
 let output := some (Output.transferred copied)
 let information := kProcessMemoryHeader.toNat
 if ntSuccess status && copied == request.length.toNat then
  ({ status,information,output },s.countSuccessful)
 else
  let status := if ntSuccess status then .partialCopy else status
  ({ status,information,output },s.closeGate.countRejected)

def writeProcess (highestUser : UInt64) (irp : ProcessWriteIrp) (s : Section) :
 KernelM (Completion×Section) := do
 match irp.buffer with
 | none => return s.reject .bufferTooSmall
 | some request =>
  if irp.inputLength < kProcessMemoryHeader ∨ irp.outputLength≠kProcessMemoryHeader then
   return s.reject .bufferTooSmall
  else if !request.isWellFormed highestUser irp.inputLength then
   return s.reject .invalidParameter
  else if request.acknowledge≠kWriteAckMagic then
   return s.reject .accessDenied
  else
   let (status,process) ← Kernel.lookupProcess request.processId
   if !ntSuccess status then return s.reject status
   else if !s.writeEnabled then return ({ status := .accessDenied },s.countRejected)
   else
    let (status,copied) ← writeProcessMemory highestUser process request.virtualAddress
     request.data request.length.toUInt64
    return completeWriteProcess request status copied s.closeGate

inductive Ioctl where
 | setWriteMode (irp : Irp WriteModeRequest)
 | writePhysical (irp : PhysicalWriteIrp)
 | compareWritePhysicalPage (irp : Irp CompareWriteRequest)
 | writeProcessMemory (irp : ProcessWriteIrp)
 | other (code : UInt32)

def Ioctl.isWriteClass : Ioctl→Bool
 | .other _ => false
 | _ => true

/-- The requests that only read are not modelled: the kernel answers them, and nothing changes. -/
def Ioctl.handle (highestUser : UInt64) : Ioctl→Section→KernelM (Completion×Section)
 | .setWriteMode irp,s => return Driver.setWriteMode irp s
 | .writePhysical irp,s => Driver.writePhysical irp s
 | .compareWritePhysicalPage irp,s => Driver.compareWritePhysicalPage irp s
 | .writeProcessMemory irp,s => writeProcess highestUser irp s
 | .other code,s => do
  let (status,information) ← Kernel.inspect code
  return ({ status,information },s)

end Driver
end KDbg
