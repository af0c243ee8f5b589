import KDbg.KDbgBackend
set_option autoImplicit false
/-! The connection of the client to the device, the queries that return records,
and the client as a machine over all its operations. -/
namespace KDbg
open Interaction

namespace KDbgBackend
open Driver (kWriteAckMagic kWriteModeRequestSize)
open Device (kPhysicalRangesResponseSize kMaxPhysicalRanges kTranslateRequestSize
 kTranslateResponseSize kMaxTranslationSteps kTranslateFlagLa57Active kTranslateFlagLargePage
 kTranslateFlagPresent kTranslateFlagProcessCr3)

def kVersionResponseSize : UInt32 := 24
def kAbiVersion : UInt32 := 7
def kVersionFlagLa57Active : UInt32 := 0x10
/-- Every version flag but `LA57_ACTIVE`. -/
def kRequiredVersionFlags : UInt32 := 0x1EF

/-- `Close`: it forgets the connection; a connected client asks for a closed gate first. -/
def close (s : Impl) : DeviceM Impl := do
 if s.device then
  if s.connected then
   let _ ← Device.setWriteMode ⟨kWriteModeRequestSize,0,kWriteAckMagic⟩
   let _ ← Device.closeHandle
   return {}
  else
   let _ ← Device.closeHandle
   return {}
 else return {}

/-- The checks of `Open` on the version response, up to the one it fails. -/
def versionVerdict (returned : UInt32) (response : Device.VersionResponse) : Option Error :=
 if returned≠kVersionResponseSize then
  some (makeError .shortRead "KDBG returned a short version response" "KDbgBackend::Open" 0
   kVersionResponseSize.toUInt64 returned.toUInt64)
 else if response.size≠kVersionResponseSize ∨ response.abiVersion≠kAbiVersion then
  some (makeError .abiMismatch "KDBG user/driver ABI versions do not match" "KDbgBackend::Open"
   response.abiVersion.toUInt64 kAbiVersion.toUInt64 response.abiVersion.toUInt64)
 else if response.maxTransferSize < UInt32.ofNat kPhysicalPageSize ∨
  UInt32.ofNat kMaxTransferSize < response.maxTransferSize ∨
  response.flags &&& kRequiredVersionFlags≠kRequiredVersionFlags then
  some (makeError .abiMismatch "KDBG driver capabilities or transfer cap are invalid"
   "KDbgBackend::Open")
 else none

/-- The second half of `Open`: the session has to start with a closed gate. -/
def checkSession (pid : UInt32) (s : Impl) : DeviceM (Result Unit×Impl) := do
 match ← querySessionStatus pid s with
 | (.error error,s) =>
  let s ← close s
  return (.error error,s)
 | (.ok session,s) =>
  if session.writeEnabled then
   match ← setWriteEnabled pid false s with
   | (.error error,s) =>
    let s ← close s
    return (.error { error with
     message := "KDBG opened with its write gate enabled and relocking failed: " ++
      error.message },s)
   | (.ok _,s) =>
    let s ← close s
    return (.error (makeError .abiMismatch
     "KDBG opened with a non-default write-enabled session"
     "KDbgBackend::Open/GET_SESSION_STATUS"),s)
  else return (.ok (),s)

def «open» (pid : UInt32) (s : Impl) : DeviceM (Result Unit×Impl) := do
 if s.connected then
  return (.error (makeError .backendAlreadyOpen "KDBG backend is already open"
   "KDbgBackend::Open"),s)
 else match ← Device.createFile with
  | .error code =>
   return (.error (makeError (if code=errorAccessDenied then .accessDenied else .ioFailure)
    "Unable to open the KDBG driver device" "KDbgBackend::Open" code.toUInt64),
    { s with device := false })
  | .ok _ =>
   let s := { s with device := true }
   match ← s.ioctl Device.getVersion "KDbgBackend::Open/GET_VERSION" with
   | .error error =>
    let s ← close s
    return (.error error,s)
   | .ok (returned,response) =>
    match versionVerdict returned response with
    | some error =>
     let s ← close s
     return (.error error,s)
    | none =>
     checkSession pid { s with
      abiVersion := response.abiVersion
      maxTransfer := response.maxTransferSize
      la57 := response.flags &&& kVersionFlagLa57Active != 0
      connected := true
      writeEnabled := false }

/-- The loop over the entries of a range response, from entry `i` on. -/
def collectRanges (response : Device.PhysicalRangesResponse) :
 ℕ→ℕ→UInt64→List PhysicalRange→Result (UInt64×List PhysicalRange)
 | 0,_,total,ranges => .ok (total,ranges)
 | count+1,i,total,ranges =>
  let item := response.ranges i
  let range : PhysicalRange := ⟨item.baseAddress,item.byteCount⟩
  if !range.isValid || decide (maxUInt64-item.byteCount < total) then
   .error (makeError .abiMismatch "KDBG returned an invalid physical range entry"
    "KDbgBackend::GetPhysicalRanges")
  else collectRanges response count (i+1) (total+item.byteCount) (ranges++[range])

def decodeRanges (returned : UInt32) (response : Device.PhysicalRangesResponse) :
 Result (List PhysicalRange) :=
 if returned≠kPhysicalRangesResponseSize ∨ response.size≠kPhysicalRangesResponseSize ∨
  response.flags≠0 ∨ response.reserved≠0 ∨ response.rangeCount=0 ∨
  kMaxPhysicalRanges < response.rangeCount then
  .error (makeError .shortRead "KDBG returned an invalid physical range response"
   "KDbgBackend::GetPhysicalRanges" 0 kPhysicalRangesResponseSize.toUInt64 returned.toUInt64)
 else match collectRanges response response.rangeCount.toNat 0 0 [] with
  | .error error => .error error
  | .ok (total,ranges) =>
   if total≠response.totalBytes then
    .error (makeError .abiMismatch "KDBG physical range total is inconsistent"
     "KDbgBackend::GetPhysicalRanges")
   else .ok ranges

def getPhysicalRanges (s : Impl) : DeviceM (Result (List PhysicalRange)) := do
 match ← s.ioctl Device.getPhysicalRanges "KDbgBackend::GetPhysicalRanges" with
 | .error error => return .error error
 | .ok (returned,response) => return decodeRanges returned response

structure ProcessContext where
 pid : UInt32 := 0
 flags : UInt32 := 0
 eprocess : UInt64 := 0
 directoryTableBase : UInt64 := 0
 wow64 : Bool := false
deriving DecidableEq,Repr

def kProcessContextRequestSize : UInt32 := 8
def kProcessContextResponseSize : UInt32 := 32
def kProcessFlagCr3Valid : UInt32 := 0x1
def kProcessFlagWow64 : UInt32 := 0x2

def decodeProcessContext (pid returned : UInt32) (response : Device.ProcessContextResponse) :
 Result ProcessContext :=
 if returned≠kProcessContextResponseSize ∨ response.size≠kProcessContextResponseSize ∨
  response.processId≠pid ∨ response.reserved≠0 ∨
  response.flags &&& ~~~(kProcessFlagCr3Valid ||| kProcessFlagWow64)≠0 ∨
  response.flags &&& kProcessFlagCr3Valid=0 ∨ response.eprocess=0 ∨
  response.directoryTableBase=0 ∨ response.directoryTableBase &&& 0xFFF≠0 then
  .error (makeError .shortRead "KDBG returned a short process context"
   "KDbgBackend::GetProcessContext")
 else .ok
  { pid := response.processId
    flags := response.flags
    eprocess := response.eprocess
    directoryTableBase := response.directoryTableBase
    wow64 := response.flags &&& kProcessFlagWow64 != 0 }

def getProcessContext (pid : UInt32) (s : Impl) : DeviceM (Result ProcessContext) := do
 if pid=0 then
  return .error (makeError .invalidArgument "PID 0 has no process context"
   "KDbgBackend::GetProcessContext")
 else match ← s.ioctl (Device.getProcessContext ⟨kProcessContextRequestSize,pid⟩)
        "KDbgBackend::GetProcessContext" with
  | .error error => return .error error
  | .ok (returned,response) => return decodeProcessContext pid returned response

def tryToPagingLevel (level : UInt32) : Option PagingLevel :=
 if level=5 then some .pml5
 else if level=4 then some .pml4
 else if level=3 then some .pdpt
 else if level=2 then some .pd
 else if level=1 then some .pt
 else none

/-- The checks of `TranslateVirtual` on the header of a response. -/
def acceptsTranslation (la57 : Bool) (directoryTableBase virtualAddress : UInt64)
 (returned : UInt32) (response : Device.TranslateResponse) : Bool :=
 let active := response.flags &&& kTranslateFlagLa57Active != 0
 let pagingShapeValid := (response.pagingLevels == 4 && !active) ||
  (response.pagingLevels == 5 && active)
 let validFlags := kTranslateFlagLa57Active ||| kTranslateFlagLargePage |||
  kTranslateFlagPresent ||| kTranslateFlagProcessCr3
 !(returned != kTranslateResponseSize || response.size != kTranslateResponseSize ||
  response.flags &&& ~~~validFlags != 0 || !pagingShapeValid ||
  decide (kMaxTranslationSteps < response.stepCount) ||
  decide (response.pagingLevels < response.stepCount) || response.stepCount == 0 ||
  response.requestedLength != 1 || response.virtualAddress != virtualAddress ||
  response.directoryTableBase == 0 || response.directoryTableBase &&& 0xFFF != 0 ||
  response.flags &&& kTranslateFlagProcessCr3 != 0 || active != la57 ||
  (directoryTableBase != 0 && response.directoryTableBase != directoryTableBase))

/-- The checks of `TranslateVirtual` on the page of a response. -/
def pageVerdict (response : Device.TranslateResponse) : Option Error :=
 if response.translatedLength≠0 then
  let pageSizeValid := response.pageSize == 0x1000 || response.pageSize == 0x200000 ||
   response.pageSize == 0x40000000
  let largePage := response.flags &&& kTranslateFlagLargePage != 0
  if response.flags &&& kTranslateFlagPresent=0 ∨ response.translatedLength≠1 ∨
   !pageSizeValid ∨ response.pageSize ≤ response.pageOffset ∨
   response.physicalAddress &&& (response.pageSize-1)≠response.pageOffset ∨
   response.pageBytes≠response.pageSize-response.pageOffset ∨
   largePage≠(response.pageSize != 0x1000) then
   some (makeError .abiMismatch "KDBG returned inconsistent translated-page metadata"
    "KDbgBackend::TranslateVirtual")
  else none
 else if response.flags &&& (kTranslateFlagPresent ||| kTranslateFlagLargePage)≠0 ∨
  response.physicalAddress≠0 ∨ response.pageSize≠0 ∨ response.pageOffset≠0 ∨
  response.pageBytes≠0 then
  some (makeError .abiMismatch "KDBG returned inconsistent non-present translation metadata"
   "KDbgBackend::TranslateVirtual")
 else none

def decodeStep (virtualAddress : UInt64) (pagingLevels : UInt32) (index : ℕ)
 (source : Device.WireTranslationStep) : Result TranslationStep :=
 let expectedLevel := pagingLevels-UInt32.ofNat index
 let expectedIndex :=
  ((virtualAddress >>> (12+9*(expectedLevel-1)).toUInt64) &&& 0x1FF).toUInt32
 match tryToPagingLevel source.level with
 | some level =>
  if source.level≠expectedLevel ∨ source.index≠expectedIndex ∨ 0x1FF < source.index ∨
   source.entryPhysicalAddress &&& 0x7≠0 then
   .error (makeError .abiMismatch "KDBG returned an invalid translation step"
    "KDbgBackend::TranslateVirtual")
  else
   let flags := decodePageEntry source.entryValue
   .ok { level,index := source.index.toUInt16,
         entryPhysicalAddress := source.entryPhysicalAddress,entryValue := source.entryValue,
         nextPfn := flags.pfn,flags }
 | none => .error (makeError .abiMismatch "KDBG returned an invalid translation step"
  "KDbgBackend::TranslateVirtual")

/-- The loop over the steps of a response, from step `index` on. -/
def decodeSteps (response : Device.TranslateResponse) (virtualAddress : UInt64) :
 ℕ→ℕ→List TranslationStep→Result (List TranslationStep)
 | 0,_,steps => .ok steps
 | count+1,index,steps =>
  match decodeStep virtualAddress response.pagingLevels index (response.steps index) with
  | .error error => .error error
  | .ok step => decodeSteps response virtualAddress count (index+1) (steps++[step])

def decodeTranslation (la57 : Bool) (directoryTableBase virtualAddress : UInt64)
 (returned : UInt32) (response : Device.TranslateResponse) : Result TranslationWalk :=
 if !acceptsTranslation la57 directoryTableBase virtualAddress returned response then
  .error (makeError .abiMismatch "KDBG returned an invalid translation response"
   "KDbgBackend::TranslateVirtual")
 else match pageVerdict response with
  | some error => .error error
  | none =>
   let count := min response.stepCount.toNat kMaxTranslationSteps.toNat
   match decodeSteps response virtualAddress count 0 [] with
   | .error error => .error error
   | .ok steps => .ok
    { directoryTableBase := response.directoryTableBase
      virtualAddress := response.virtualAddress
      physicalAddress := response.physicalAddress
      pageSize := response.pageSize
      pageOffset := response.pageOffset
      la57 := response.flags &&& kTranslateFlagLa57Active != 0
      translated := response.translatedLength != 0
      steps }

def translateVirtual (directoryTableBase virtualAddress : UInt64) (s : Impl) :
 DeviceM (Result TranslationWalk) := do
 match ← s.ioctl (Device.translateVirtual
  ⟨kTranslateRequestSize,0,0,1,directoryTableBase,virtualAddress⟩)
  "KDbgBackend::TranslateVirtual" with
 | .error error => return .error error
 | .ok (returned,response) =>
  return decodeTranslation s.la57 directoryTableBase virtualAddress returned response

inductive Op where
 | «open»
 | close
 | querySessionStatus
 | getPhysicalRanges
 | readPhysical (physicalAddress : UInt64) (length : UInt32)
 | setWriteEnabled (enabled : Bool)
 | writePhysical (physicalAddress : UInt64) (data : List UInt8)
 | compareWritePhysicalPage (physicalAddress : UInt64) (expectedBefore desired : List UInt8)
 | getProcessContext (pid : UInt32)
 | readProcessVirtual (pid : UInt32) (virtualAddress : UInt64) (length : UInt32)
 | writeProcessVirtual (pid : UInt32) (virtualAddress : UInt64) (data : List UInt8)
 | readKernelVirtual (virtualAddress : UInt64) (length : UInt32)
 | translateVirtual (directoryTableBase virtualAddress : UInt64)

def Op.isWrite : Op→Bool
 | .writePhysical .. | .compareWritePhysicalPage .. | .writeProcessVirtual .. => true
 | _ => false

/-- An operation's result, as far as a run tells it: success, or the error. -/
abbrev Outcome := Result Unit

def report {α : Type} (result : Result α) : Outcome := result.map fun _=>()

def query {α : Type} (s : Impl) (result : DeviceM (Result α)) : DeviceM (Outcome×Impl) := do
 return (report (← result),s)

def exec (pid : UInt32) : Op→Impl→DeviceM (Outcome×Impl)
 | .open,s => «open» pid s
 | .close,s => do return (.ok (),← close s)
 | .querySessionStatus,s => do
  let (result,s) ← querySessionStatus pid s
  return (report result,s)
 | .getPhysicalRanges,s => query s (getPhysicalRanges s)
 | .readPhysical address length,s => query s (readPhysical address length s)
 | .setWriteEnabled enabled,s => setWriteEnabled pid enabled s
 | .writePhysical address data,s => do
  let (result,s) ← writePhysical pid address data s
  return (report result,s)
 | .compareWritePhysicalPage address expectedBefore desired,s => do
  let (result,s) ← compareWritePhysicalPage pid address expectedBefore desired s
  return (report result,s)
 | .getProcessContext target,s => query s (getProcessContext target s)
 | .readProcessVirtual target address length,s =>
  query s (readProcessVirtual target address length s)
 | .writeProcessVirtual target address data,s => do
  let (result,s) ← writeProcessVirtual pid target address data s
  return (report result,s)
 | .readKernelVirtual address length,s => query s (readKernelVirtual address length s)
 | .translateVirtual base address,s => query s (translateVirtual base address s)

def machine (pid : UInt32) : Machine DeviceCall DeviceAnswer Op Impl Outcome where
 init := {}
 exec := exec pid

end KDbgBackend

abbrev BackendStep := Step DeviceCall DeviceAnswer KDbgBackend.Op KDbgBackend.Impl
 KDbgBackend.Outcome

end KDbg
