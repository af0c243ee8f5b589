import KDbg.DeviceInterface
set_option autoImplicit false
/-! The user-mode client of the driver: it keeps its own view of the write gate
and of the connection, and checks every response before it returns it. -/
namespace KDbg
open Interaction

namespace KDbgBackend
open Driver (kWriteAckMagic kWriteModeRequestSize kPhysicalWriteHeader kProcessMemoryHeader
 kCompareWriteRequestSize kCompareWriteResponseSize kNoMismatch pageOf)

def isNonOverflowingRange (address : UInt64) (length : ℕ) : Bool :=
 length != 0 && decide (length ≤ maxUInt64.toNat-address.toNat)

def isValidAddressRange (address : UInt64) (length : ℕ) : Bool :=
 address != 0 && isNonOverflowingRange address length

def isCanonicalAddress (address : UInt64) (la57 : Bool) : Bool :=
 let signBit : UInt64 := if la57 then 56 else 47
 let upperShift := signBit+1
 let sign := (address >>> signBit) &&& 1
 let upper := address >>> upperShift
 upper == if sign=0 then 0 else maxUInt64 >>> upperShift

def isKernelVirtualRange (address : UInt64) (length : ℕ) (la57 : Bool) : Bool :=
 if !isValidAddressRange address length then false
 else
  let last := address+UInt64.ofNat length-1
  let signBit : UInt64 := if la57 then 56 else 47
  isCanonicalAddress address la57 && isCanonicalAddress last la57 &&
   (address >>> signBit) &&& 1 != 0 && (last >>> signBit) &&& 1 != 0

def isPageBounded (address : UInt64) (length : ℕ) : Bool :=
 if !isNonOverflowingRange address length then false
 else
  let last := address+UInt64.ofNat length-1
  address &&& ~~~0xFFF == last &&& ~~~0xFFF

def firstPageMismatch (left right : List UInt8) : UInt32 :=
 if left.length≠right.length then UInt32.ofNat kPhysicalPageSize
 else match (left.zip right).findIdx? (fun bytes=>bytes.1 != bytes.2) with
  | some offset => UInt32.ofNat offset
  | none => kNoMismatch

/-- `device` is whether the handle of the device is open. -/
structure Impl where
 device : Bool := false
 connected : Bool := false
 writeEnabled : Bool := false
 la57 : Bool := false
 abiVersion : UInt32 := 0
 maxTransfer : UInt32 := UInt32.ofNat kMaxTransferSize
 nextTransactionId : UInt64 := 1
deriving DecidableEq,Repr

def errorAccessDenied : UInt32 := 5

def Impl.ioctl {ρ : Type} (s : Impl) (send : DeviceM (Device.Reply ρ)) (operation : String) :
 DeviceM (Result (UInt32×ρ)) :=
 if !s.device then
  return .error (makeError .backendDisconnected "KDBG driver handle is not open" operation)
 else do
  match ← send with
  | .error code =>
   return .error (makeError (if code=errorAccessDenied then .accessDenied else .ioFailure)
    "DeviceIoControl failed" operation code.toUInt64)
  | .ok reply => return .ok reply

structure BackendSessionStatus where
 flags : UInt32 := 0
 ownerPid : UInt32 := 0
 currentPid : UInt32 := 0
 openHandleCount : UInt32 := 0
 successfulReads : UInt64 := 0
 successfulWrites : UInt64 := 0
 rejectedWrites : UInt64 := 0
 lastPhysicalWriteStatus : UInt32 := 0
 lastPhysicalWriteStage : UInt32 := 0
 lastPhysicalWriteTransferred : UInt32 := 0
 writeEnabled : Bool := false
deriving DecidableEq,Repr

def kSessionStatusResponseSize : UInt32 := 64
def kSessionFlagOwnerActive : UInt32 := 0x1
def kSessionFlagWriteEnabled : UInt32 := 0x2
def kPhysicalWriteStageMax : UInt32 := 6

def acceptsStatus (pid returned : UInt32) (response : Device.SessionStatusResponse) : Bool :=
 !(returned != kSessionStatusResponseSize || response.size != kSessionStatusResponseSize ||
  response.reserved != 0 || response.reserved2 != 0 ||
  decide (kPhysicalWriteStageMax < response.lastPhysicalWriteStage) ||
  response.flags &&& ~~~(kSessionFlagOwnerActive ||| kSessionFlagWriteEnabled) != 0 ||
  response.currentPid != pid || response.openHandleCount == 0 ||
  response.flags &&& kSessionFlagOwnerActive == 0 || response.ownerPid != response.currentPid ||
  (response.flags &&& kSessionFlagOwnerActive != 0) != (response.ownerPid != 0))

def sessionStatus (response : Device.SessionStatusResponse) : BackendSessionStatus where
 flags := response.flags
 ownerPid := response.ownerPid
 currentPid := response.currentPid
 openHandleCount := response.openHandleCount
 successfulReads := response.successfulReads
 successfulWrites := response.successfulWrites
 rejectedWrites := response.rejectedWrites
 lastPhysicalWriteStatus := response.lastPhysicalWriteStatus
 lastPhysicalWriteStage := response.lastPhysicalWriteStage
 lastPhysicalWriteTransferred := response.lastPhysicalWriteTransferred
 writeEnabled := response.flags &&& kSessionFlagWriteEnabled != 0

def querySessionStatus (pid : UInt32) (s : Impl) :
 DeviceM (Result BackendSessionStatus×Impl) := do
 match ← s.ioctl Device.getSessionStatus "KDbgBackend::QuerySessionStatus" with
 | .error error => return (.error error,s)
 | .ok (returned,response) =>
  if !acceptsStatus pid returned response then
   return (.error (makeError .shortRead "KDBG returned a short session status"
    "KDbgBackend::QuerySessionStatus" 0 kSessionStatusResponseSize.toUInt64
    returned.toUInt64),s)
  else
   let status := sessionStatus response
   return (.ok status,{ s with writeEnabled := status.writeEnabled })

/-- What `ForceWriteGateClosed` reports: only a status that shows a closed gate is success. -/
def closedVerdict (operation : String) (disabled : Result (UInt32×Unit))
 (status : Result BackendSessionStatus) : Result Unit :=
 if (match status with | .ok status => !status.writeEnabled | .error _ => false) then .ok ()
 else match disabled with
  | .error error => .error { error with
   operation
   message := "Write-gate disable failed and the locked state could not be proven: " ++
    error.message }
  | .ok (returned,_) =>
   if returned≠0 then
    .error (makeError .abiMismatch
     "Write-gate disable returned an invalid length and the locked state could not be proven"
     operation 0 0 returned.toUInt64)
   else match status with
    | .error error => .error { error with
     operation
     message := "Write-gate disable completed but session status " ++
      "could not prove that the gate is locked: " ++ error.message }
    | .ok _ => .error (makeError .writeLocked
     "Driver session still reports an open write gate after disable" operation)

def forceWriteGateClosed (pid : UInt32) (operation : String) (s : Impl) :
 DeviceM (Result Unit×Impl) := do
 let s := { s with writeEnabled := false }
 let disabled ← s.ioctl (Device.setWriteMode ⟨kWriteModeRequestSize,0,kWriteAckMagic⟩) operation
 let (status,s) ← querySessionStatus pid s
 return (closedVerdict operation disabled status,{ s with writeEnabled := false })

/-- An error with what the cleanup after it could not prove. -/
def withCleanup (error : Error) : Result Unit→Error
 | .ok _ => error
 | .error closed => { error with
  message := error.message ++ "; fail-closed cleanup could not prove that the " ++
   "driver gate is locked: " ++ closed.message }

def setWriteEnabled (pid : UInt32) (enabled : Bool) (s : Impl) : DeviceM (Result Unit×Impl) :=
 if !enabled then forceWriteGateClosed pid "KDbgBackend::SetWriteEnabled" s
 else do
  let failClosed (error : Error) : DeviceM (Result Unit×Impl) := do
   let (closed,s) ← forceWriteGateClosed pid "KDbgBackend::SetWriteEnabled/fail_closed" s
   return (.error (withCleanup error closed),s)
  match ← s.ioctl (Device.setWriteMode ⟨kWriteModeRequestSize,1,kWriteAckMagic⟩)
   "KDbgBackend::SetWriteEnabled" with
  | .error error => failClosed error
  | .ok (returned,_) =>
   if returned≠0 then
    failClosed (makeError .abiMismatch "KDBG write-mode response length is invalid"
     "KDbgBackend::SetWriteEnabled" 0 0 returned.toUInt64)
   else return (.ok (),{ s with writeEnabled := true })

/-- One of the requests that read memory: what it checks, sends, accepts and reports. -/
structure ReadRequest (ρ : Type) where
 operation : String
 isInvalid : Impl→Bool
 invalid : Impl→Error
 total : ℕ
 overflow : String
 send : DeviceM (Device.Reply ρ)
 accepts : UInt32 → ρ→Bool
 short : ρ→Error
 data : ρ→List UInt8

def ReadRequest.run {ρ : Type} (request : ReadRequest ρ) (s : Impl) :
 DeviceM (Result (List UInt8)) :=
 if request.isInvalid s then return .error (request.invalid s)
 else if 0xFFFFFFFF < request.total then
  return .error (makeError .addressOverflow request.overflow request.operation)
 else do
  match ← s.ioctl request.send request.operation with
  | .error error => return .error error
  | .ok (returned,reply) =>
   if !request.accepts returned reply then return .error (request.short reply)
   else return .ok (request.data reply)

def kPhysicalReadHeader : UInt32 := 24
def kKernelVirtualReadHeader : UInt32 := 24

def zeroed : ℕ→UInt8 := fun _=>0

def physicalRead (physicalAddress : UInt64) (length : UInt32) :
 ReadRequest Device.PhysicalReadRequest where
 operation := "KDbgBackend::ReadPhysical"
 isInvalid s := length == 0 || decide (s.maxTransfer < length) ||
  !isNonOverflowingRange physicalAddress length.toNat
 invalid s := makeError .invalidArgument "Invalid physical read length"
  "KDbgBackend::ReadPhysical" 0 s.maxTransfer.toUInt64 length.toUInt64
 total := kPhysicalReadHeader.toNat+length.toNat
 overflow := "Physical read buffer size overflow"
 send := Device.readPhysical ⟨kPhysicalReadHeader,0,physicalAddress,length,0,zeroed⟩
 accepts returned reply := !(reply.size != kPhysicalReadHeader || reply.flags != 0 ||
  reply.physicalAddress != physicalAddress || reply.length != length ||
  reply.transferred != length ||
  returned.toNat != kPhysicalReadHeader.toNat+length.toNat)
 short reply := makeError .shortRead "KDBG returned a short physical read"
  "KDbgBackend::ReadPhysical" 0 length.toUInt64 reply.transferred.toUInt64
 data reply := (List.range length.toNat).map reply.data

def readPhysical (physicalAddress : UInt64) (length : UInt32) (s : Impl) :
 DeviceM (Result (List UInt8)) :=
 (physicalRead physicalAddress length).run s

def processRead (pid : UInt32) (virtualAddress : UInt64) (length : UInt32) :
 ReadRequest Device.ProcessReadRequest where
 operation := "KDbgBackend::ReadProcessVirtual"
 isInvalid s := pid == 0 || length == 0 || decide (s.maxTransfer < length) ||
  !isValidAddressRange virtualAddress length.toNat
 invalid _ := makeError .invalidArgument "Invalid process virtual read request"
  "KDbgBackend::ReadProcessVirtual"
 total := kProcessMemoryHeader.toNat+length.toNat
 overflow := "Process read buffer size overflow"
 send := Device.readProcessMemory
  ⟨kProcessMemoryHeader,0,pid,length,virtualAddress,0,0,0,zeroed⟩
 accepts returned reply := !(returned.toNat != kProcessMemoryHeader.toNat+length.toNat ||
  reply.size != kProcessMemoryHeader || reply.flags != 0 || reply.processId != pid ||
  reply.length != length || reply.virtualAddress != virtualAddress || reply.acknowledge != 0 ||
  reply.reserved != 0 || reply.transferred != length)
 short reply := makeError .shortRead "KDBG returned a short process virtual read"
  "KDbgBackend::ReadProcessVirtual" 0 length.toUInt64 reply.transferred.toUInt64
 data reply := (List.range length.toNat).map reply.data

def readProcessVirtual (pid : UInt32) (virtualAddress : UInt64) (length : UInt32) (s : Impl) :
 DeviceM (Result (List UInt8)) :=
 (processRead pid virtualAddress length).run s

def kernelRead (virtualAddress : UInt64) (length : UInt32) :
 ReadRequest Device.KernelVirtualReadRequest where
 operation := "KDbgBackend::ReadKernelVirtual"
 isInvalid s := length == 0 || decide (s.maxTransfer < length) ||
  !isKernelVirtualRange virtualAddress length.toNat s.la57
 invalid _ := makeError .invalidArgument "Invalid kernel virtual read request"
  "KDbgBackend::ReadKernelVirtual"
 total := kKernelVirtualReadHeader.toNat+length.toNat
 overflow := "Kernel read buffer size overflow"
 send := Device.readKernelVirtual ⟨kKernelVirtualReadHeader,0,virtualAddress,length,0,zeroed⟩
 accepts returned reply := !(returned.toNat != kKernelVirtualReadHeader.toNat+length.toNat ||
  reply.size != kKernelVirtualReadHeader || reply.flags != 0 ||
  reply.virtualAddress != virtualAddress || reply.length != length ||
  reply.transferred != length)
 short reply := makeError .shortRead "KDBG returned a short kernel virtual read"
  "KDbgBackend::ReadKernelVirtual" 0 length.toUInt64 reply.transferred.toUInt64
 data reply := (List.range length.toNat).map reply.data

def readKernelVirtual (virtualAddress : UInt64) (length : UInt32) (s : Impl) :
 DeviceM (Result (List UInt8)) :=
 (kernelRead virtualAddress length).run s

/-- One of the two requests that write a run of bytes. -/
structure WriteRequest (ρ : Type) where
 operation : String
 locked : String
 isInvalid : Impl→Bool
 invalid : String
 total : ℕ
 overflow : String
 send : DeviceM (Device.Reply ρ)
 accepts : UInt32 → ρ→Bool
 short : String
 transferred : ρ→UInt32
 data : List UInt8
 readback : Impl→DeviceM (Result (List UInt8))
 mismatch : String

/-- What the read-back after a write has to show. -/
def WriteRequest.verify {ρ : Type} (request : WriteRequest ρ) :
 Result (List UInt8)→Option Error
 | .error error => some error
 | .ok bytes =>
  if bytes.take request.data.length=request.data then none
  else some (makeError .verificationMismatch request.mismatch request.operation 0
   (UInt64.ofNat request.data.length) (UInt64.ofNat bytes.length))

def WriteRequest.run {ρ : Type} (request : WriteRequest ρ) (pid : UInt32) (s : Impl) :
 DeviceM (Result UInt32×Impl) :=
 if !s.writeEnabled then
  return (.error (makeError .writeLocked request.locked request.operation),s)
 else if request.isInvalid s then do
  let (_,s) ← setWriteEnabled pid false s
  return (.error (makeError .invalidArgument request.invalid request.operation),s)
 else if 0xFFFFFFFF < request.total then do
  let (_,s) ← setWriteEnabled pid false s
  return (.error (makeError .addressOverflow request.overflow request.operation),s)
 else do
  let result ← s.ioctl request.send request.operation
  let s := { s with writeEnabled := false }
  match result with
  | .error error =>
   let (closed,s) ← forceWriteGateClosed pid (request.operation ++ "/fail_closed") s
   return (.error (withCleanup error closed),s)
  | .ok (returned,reply) =>
   if !request.accepts returned reply then
    let (_,s) ← forceWriteGateClosed pid (request.operation ++ "/invalid_response") s
    return (.error (makeError .shortWrite request.short request.operation 0
     (UInt64.ofNat request.data.length) (request.transferred reply).toUInt64),s)
   else match request.verify (← request.readback s) with
    | some error =>
     let (_,s) ← forceWriteGateClosed pid (request.operation ++ "/readback_failure") s
     return (.error error,s)
    | none => return (.ok (request.transferred reply),s)

def physicalWrite (physicalAddress : UInt64) (data : List UInt8) :
 WriteRequest Driver.PhysicalWriteRequest :=
 let length := UInt32.ofNat data.length
 let total := kPhysicalWriteHeader.toNat+data.length
 { operation := "KDbgBackend::WritePhysical"
   locked := "KDBG physical write gate is locked"
   isInvalid := fun s=>data.isEmpty || decide (s.maxTransfer.toNat < data.length) ||
    !isPageBounded physicalAddress data.length
   invalid := "Invalid physical write length"
   total
   overflow := "Physical write buffer size overflow"
   send := Device.writePhysical
    ⟨UInt32.ofNat total,0,physicalAddress,length,0,kWriteAckMagic,data⟩
   accepts := fun returned reply => !(returned != kPhysicalWriteHeader ||
    reply.size.toNat != total || reply.flags != 0 || reply.physicalAddress != physicalAddress ||
    reply.length.toNat != data.length || reply.acknowledge != kWriteAckMagic ||
    reply.transferred.toNat != data.length)
   short := "KDBG returned a short physical write"
   transferred := (·.transferred)
   data
   readback := readPhysical physicalAddress length
   mismatch := "KDBG physical write read-back mismatch" }

def writePhysical (pid : UInt32) (physicalAddress : UInt64) (data : List UInt8) (s : Impl) :
 DeviceM (Result UInt32×Impl) :=
 (physicalWrite physicalAddress data).run pid s

def processWrite (target : UInt32) (virtualAddress : UInt64) (data : List UInt8) :
 WriteRequest Driver.ProcessMemoryRequest :=
 let length := UInt32.ofNat data.length
 let total := kProcessMemoryHeader.toNat+data.length
 { operation := "KDbgBackend::WriteProcessVirtual"
   locked := "KDBG process write gate is locked"
   isInvalid := fun s=>target == 0 || data.isEmpty ||
    decide (s.maxTransfer.toNat < data.length) || !isValidAddressRange virtualAddress data.length
   invalid := "Invalid process virtual write request"
   total
   overflow := "Process write buffer size overflow"
   send := Device.writeProcessMemory
    ⟨UInt32.ofNat total,0,target,length,virtualAddress,kWriteAckMagic,0,0,data⟩
   accepts := fun returned reply => !(returned != kProcessMemoryHeader ||
    reply.size.toNat != total || reply.flags != 0 || reply.processId != target ||
    reply.length.toNat != data.length || reply.virtualAddress != virtualAddress ||
    reply.acknowledge != kWriteAckMagic || reply.reserved != 0 ||
    reply.transferred.toNat != data.length)
   short := "KDBG returned a short process virtual write"
   transferred := (·.transferred)
   data
   readback := readProcessVirtual target virtualAddress length
   mismatch := "KDBG process write read-back mismatch" }

def writeProcessVirtual (pid target : UInt32) (virtualAddress : UInt64) (data : List UInt8)
 (s : Impl) : DeviceM (Result UInt32×Impl) :=
 (processWrite target virtualAddress data).run pid s

def kPhysicalPageResultApplied : UInt32 := 1
def kPhysicalPageResultConflict : UInt32 := 2
def kPhysicalPageResultFailed : UInt32 := 3
def kPhysicalPageStatusSuccess : UInt32 := 0
def kPhysicalPageStatusConflict : UInt32 := 0xC0000059

/-- Why a transaction response is not accepted: the operation under which the gate is closed
 then, and the error. -/
abbrev Rejection := String×Error

/-- What `CompareWritePhysicalPage` makes of a response. -/
def decodeTransaction (physicalAddress transactionId : UInt64) (expectedBefore desired : List UInt8)
 (returned : UInt32) (response : Device.WireCompareWriteResponse) :
 Except Rejection PhysicalPageCompareWriteResult :=
 let operation := "KDbgBackend::CompareWritePhysicalPage"
 let readback := List.ofFn response.readback
 let transaction (outcome : PhysicalPageCompareWriteOutcome) : PhysicalPageCompareWriteResult :=
  { outcome,transferred := response.transferred,
    firstMismatchOffset := response.firstMismatchOffset,nativeStatus := response.status,
    readback := response.readback }
 if !(returned == kCompareWriteResponseSize && response.size == kCompareWriteResponseSize &&
  response.physicalAddress == physicalAddress &&
  response.length == UInt32.ofNat kPhysicalPageSize &&
  response.transactionId == transactionId &&
  decide (response.transferred ≤ UInt32.ofNat kPhysicalPageSize)) then
  .error (operation ++ "/invalid_response",makeError .abiMismatch
   "KDBG returned an invalid physical page transaction response" operation 0
   kCompareWriteResponseSize.toUInt64 returned.toUInt64)
 else if response.result=kPhysicalPageResultApplied then
  if response.status≠kPhysicalPageStatusSuccess ∨
   response.transferred≠UInt32.ofNat kPhysicalPageSize ∨
   response.firstMismatchOffset≠kNoMismatch ∨ readback≠desired then
   .error (operation ++ "/invalid_applied",makeError .verificationMismatch
    "KDBG reported an inconsistent applied transaction" operation)
  else .ok (transaction .applied)
 else if response.result=kPhysicalPageResultConflict then
  let mismatch := firstPageMismatch readback expectedBefore
  if response.status≠kPhysicalPageStatusConflict ∨ response.transferred≠0 ∨
   UInt32.ofNat kPhysicalPageSize ≤ mismatch ∨ response.firstMismatchOffset≠mismatch then
   .error (operation ++ "/invalid_conflict",makeError .abiMismatch
    "KDBG returned inconsistent baseline-conflict metadata" operation)
  else .ok (transaction .conflict)
 else if response.result=kPhysicalPageResultFailed then
  let mismatch := firstPageMismatch readback desired
  if response.status=0 ∨ response.firstMismatchOffset≠mismatch then
   .error (operation ++ "/invalid_failure",makeError .abiMismatch
    "KDBG returned inconsistent failed-transaction metadata" operation)
  else .ok (transaction .failure)
 else
  .error (operation ++ "/unknown_outcome",makeError .abiMismatch
   "KDBG returned an unknown physical page transaction outcome" operation)

/-- The next identifier that is not zero, and the counter after it. -/
def takeTransactionId (next : UInt64) : UInt64×UInt64 :=
 if next=0 then (next+1,next+1+1) else (next,next+1)

def compareWriteRequest (physicalAddress transactionId : UInt64)
 (expectedBefore desired : List UInt8) : Driver.CompareWriteRequest where
 size := kCompareWriteRequestSize
 flags := 0
 physicalAddress
 length := UInt32.ofNat kPhysicalPageSize
 reserved := 0
 acknowledge := kWriteAckMagic
 transactionId
 expectedBefore := pageOf expectedBefore
 desired := pageOf desired

def compareWritePhysicalPage (pid : UInt32) (physicalAddress : UInt64)
 (expectedBefore desired : List UInt8) (s : Impl) :
 DeviceM (Result PhysicalPageCompareWriteResult×Impl) :=
 let operation := "KDbgBackend::CompareWritePhysicalPage"
 if !s.writeEnabled then
  return (.error (makeError .writeLocked "KDBG physical page write gate is locked" operation),s)
 else if physicalAddress &&& 0xFFF≠0 ∨ expectedBefore.length≠kPhysicalPageSize ∨
  desired.length≠kPhysicalPageSize then do
  let (_,s) ← forceWriteGateClosed pid (operation ++ "/invalid_request") s
  return (.error (makeError .invalidArgument
   ("Physical compare/write requires a page-aligned address and " ++ "two exact 4 KiB pages")
   operation),s)
 else do
  let (transactionId,next) := takeTransactionId s.nextTransactionId
  let s := { s with nextTransactionId := next }
  let result ← s.ioctl (Device.compareWritePhysicalPage
   (compareWriteRequest physicalAddress transactionId expectedBefore desired)) operation
  let s := { s with writeEnabled := false }
  match result with
  | .error error =>
   let (closed,s) ← forceWriteGateClosed pid (operation ++ "/fail_closed") s
   return (.error (withCleanup error closed),s)
  | .ok (returned,response) =>
   match decodeTransaction physicalAddress transactionId expectedBefore desired returned
    response with
   | .error (closing,error) =>
    let (_,s) ← forceWriteGateClosed pid closing s
    return (.error error,s)
   | .ok transaction => return (.ok transaction,s)

end KDbgBackend
end KDbg
