import KDbg.DeviceInterface
import KDbg.PageWalk
set_option autoImplicit false
/-! `TranslateVirtual` of the driver: the walk over the page tables in physical
memory that answers `IOCTL_KDBG_TRANSLATE_VIRTUAL`. -/
namespace KDbg
open Interaction

namespace NtStatus

def unsuccessful : NtStatus := 0xC0000001
def internalError : NtStatus := 0xC00000E5
def invalidAddress : NtStatus := 0xC0000141

end NtStatus

namespace Driver
open Device (TranslateRequest TranslateResponse WireTranslationStep kTranslateRequestSize
 kTranslateResponseSize kMaxTranslationSteps kTranslateFlagLa57Active kTranslateFlagLargePage
 kTranslateFlagPresent kTranslateFlagProcessCr3)

def kPageMask : UInt64 := 0x000FFFFFFFFFF000
def kPagingLevelPt : UInt32 := 1
def kPagingLevelPd : UInt32 := 2
def kPagingLevelPdpt : UInt32 := 3
def kPagingLevelPml4 : UInt32 := 4
def kPagingLevelPml5 : UInt32 := 5

/-- The control registers. `attachedCr3` is what CR3 holds while the thread is attached to a
 process. -/
structure ControlRegisters where
 cr3 : UInt64
 cr4 : UInt64
 attachedCr3 : UInt64→UInt64

def ControlRegisters.la57 (registers : ControlRegisters) : Bool := registers.cr4 &&& 0x1000 != 0

def readPhysicalU64 (ranges : List PhysicalMemoryRange) (address : UInt64) :
 KernelM (Except NtStatus UInt64) := do
 let (status,copied) ← readPhysicalWithSnapshot ranges address 8
 if !ntSuccess status then return .error status
 else if copied.length=8 then return .ok (UInt64.ofNat (ofLittleEndian copied))
 else return .error .partialCopy

def referenceProcessCr3 (registers : ControlRegisters) (processId : UInt32) :
 KernelM (Except NtStatus UInt64) := do
 if processId=0 then return .error .invalidParameter
 else
  let (status,process) ← Kernel.lookupProcess processId
  if !ntSuccess status then return .error status
  else
   let cr3 := registers.attachedCr3 process &&& ~~~0xFFF
   return if cr3≠0 then .ok cr3 else .error .unsuccessful

def isCanonical (address : UInt64) (la57 : Bool) : Bool :=
 if la57 then
  let sign := (address >>> 56) &&& 1
  let upper := address >>> 57
  if sign=0 then upper == 0 else upper == 0x7F
 else
  let sign := (address >>> 47) &&& 1
  let upper := address >>> 48
  if sign=0 then upper == 0 else upper == 0xFFFF

def pushStep (response : TranslateResponse) (step : WireTranslationStep) : TranslateResponse :=
 { response with
   stepCount := response.stepCount+1
   steps := fun i=>if i=response.stepCount.toNat then step else response.steps i }

def mapPage (request : TranslateRequest) (pageSize mask : UInt64) (flags : UInt32)
 (entry : UInt64) (response : TranslateResponse) : TranslateResponse :=
 let pageOffset := request.virtualAddress &&& (pageSize-1)
 let pageBytes := pageSize-pageOffset
 { response with
   pageSize,pageOffset,pageBytes
   physicalAddress := (entry &&& mask) ||| pageOffset
   flags := response.flags ||| flags
   translatedLength := (min request.length.toUInt64 pageBytes).toUInt32 }

inductive TranslationTurn where
 | done (result : Except NtStatus TranslateResponse)
 | next (table : UInt64) (response : TranslateResponse)

/-- One turn of the loop over the levels, from the entry it read on. -/
def translateEntry (request : TranslateRequest) (level index : UInt32)
 (entryAddress entry : UInt64) (response : TranslateResponse) : TranslationTurn :=
 if kMaxTranslationSteps ≤ response.stepCount then .done (.error .internalError)
 else
  let response := pushStep response ⟨level,index,entryAddress,entry⟩
  if entry &&& 1=0 then .done (.ok response)
  else if level=kPagingLevelPdpt ∧ entry &&& 0x80≠0 then
   if entry &&& 0x000000003FFFE000≠0 then .done (.error .invalidAddress)
   else .done (.ok (mapPage request 0x40000000 0x000FFFFFC0000000
    (kTranslateFlagPresent ||| kTranslateFlagLargePage) entry response))
  else if level=kPagingLevelPd ∧ entry &&& 0x80≠0 then
   if entry &&& 0x00000000001FE000≠0 then .done (.error .invalidAddress)
   else .done (.ok (mapPage request 0x200000 0x000FFFFFFFE00000
    (kTranslateFlagPresent ||| kTranslateFlagLargePage) entry response))
  else if level=kPagingLevelPt then
   .done (.ok (mapPage request 0x1000 kPageMask kTranslateFlagPresent entry response))
  else .next (entry &&& kPageMask) response

/-- The loop over the levels and the indices that the address has in them. -/
def translateSlots (ranges : List PhysicalMemoryRange) (request : TranslateRequest) :
 List (UInt32×UInt32)→UInt64→TranslateResponse →
  KernelM (Except NtStatus TranslateResponse)
 | [],_,response => return .ok response
 | (level,index)::slots,table,response => do
  let entryAddress := table+index.toUInt64*8
  match ← readPhysicalU64 ranges entryAddress with
  | .error status => return .error status
  | .ok entry =>
   match translateEntry request level index entryAddress entry response with
   | .done result => return result
   | .next table response => translateSlots ranges request slots table response

def translationSlots (virtualAddress : UInt64) (la57 : Bool) : List (UInt32×UInt32) :=
 let index (shift : UInt64) := ((virtualAddress >>> shift) &&& 0x1FF).toUInt32
 [(kPagingLevelPml5,index 48),(kPagingLevelPml4,index 39),(kPagingLevelPdpt,index 30),
  (kPagingLevelPd,index 21),(kPagingLevelPt,index 12)].drop (if la57 then 0 else 1)

/-- The table that the walk starts from, and the response flags that say where it is from. -/
def translationBase (registers : ControlRegisters) (request : TranslateRequest) :
 KernelM (Except NtStatus (UInt64×UInt32)) := do
 let dtb := request.directoryTableBase &&& ~~~0xFFF
 let current := registers.cr3 &&& ~~~0xFFF
 if dtb=0 ∧ request.processId≠0 then
  match ← referenceProcessCr3 registers request.processId with
  | .error status => return .error status
  | .ok dtb => return .ok (if dtb=0 then current else dtb,kTranslateFlagProcessCr3)
 else return .ok (if dtb=0 then current else dtb,0)

def startResponse (request : TranslateRequest) (base : UInt64) (flags : UInt32) (la57 : Bool) :
 TranslateResponse where
 size := kTranslateResponseSize
 flags := if la57 then flags ||| kTranslateFlagLa57Active else flags
 pagingLevels := if la57 then 5 else 4
 stepCount := 0
 requestedLength := request.length
 translatedLength := 0
 directoryTableBase := base
 virtualAddress := request.virtualAddress
 physicalAddress := 0
 pageSize := 0
 pageOffset := 0
 pageBytes := 0
 steps := fun _=>⟨0,0,0,0⟩

/-- `TranslateVirtual` on a request and a response that are not null. -/
def translateVirtual (registers : ControlRegisters) (request : TranslateRequest) :
 KernelM (Except NtStatus TranslateResponse) := do
 if request.size≠kTranslateRequestSize ∨ request.flags≠0 ∨ request.length=0 ∨
  kMaxTransferSize < request.length.toNat ∨
  (request.processId≠0 ∧ request.directoryTableBase≠0) ∨
  request.directoryTableBase &&& 0xFFF≠0 then
  return .error .invalidParameter
 else
  match ← translationBase registers request with
  | .error status => return .error status
  | .ok (base,flags) =>
   if !isCanonical request.virtualAddress registers.la57 then return .error .invalidAddress
   else
    match ← Kernel.physicalMemoryRanges with
    | none => return .error .insufficientResources
    | some ranges =>
     translateSlots ranges request
      (translationSlots request.virtualAddress registers.la57) base
      (startResponse request base flags registers.la57)

/-- The case `IOCTL_KDBG_TRANSLATE_VIRTUAL`: the status, the byte count and the response that is
 copied to the buffer. -/
def translateIoctl (registers : ControlRegisters) (irp : Irp TranslateRequest) :
 KernelM (NtStatus×ℕ×Option TranslateResponse) := do
 match irp.buffer with
 | none => return (.bufferTooSmall,0,none)
 | some request =>
  if irp.inputLength≠kTranslateRequestSize ∨ irp.outputLength≠kTranslateResponseSize then
   return (.bufferTooSmall,0,none)
  else
   match ← translateVirtual registers request with
   | .error status => return (status,0,none)
   | .ok response => return (.success,kTranslateResponseSize.toNat,some response)

end Driver
end KDbg
