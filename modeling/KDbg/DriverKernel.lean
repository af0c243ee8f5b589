import KDbg.InteractionRuns
import KDbg.PhysicalPage
set_option autoImplicit false
/-! The kernel routines that the driver's write requests call, and the checks
the driver makes on an address range before it touches memory. -/
namespace KDbg
open Interaction

abbrev NtStatus := UInt32

def ntSuccess (status : NtStatus) : Bool := decide (status<0x80000000)

namespace NtStatus

def success : NtStatus := 0
def pending : NtStatus := 0x103
def partialCopy : NtStatus := 0x8000000D
def invalidParameter : NtStatus := 0xC000000D
def conflictingAddresses : NtStatus := 0xC0000018
def accessDenied : NtStatus := 0xC0000022
def bufferTooSmall : NtStatus := 0xC0000023
def dataError : NtStatus := 0xC000003E
def sharingViolation : NtStatus := 0xC0000043
def revisionMismatch : NtStatus := 0xC0000059
def insufficientResources : NtStatus := 0xC000009A

end NtStatus

/-- An entry of the array that `MmGetPhysicalMemoryRangesEx2` returns. -/
structure PhysicalMemoryRange where
 baseAddress : UInt64
 numberOfBytes : UInt64
deriving DecidableEq,Repr

inductive KernelCall where
 | allocatePool
 | physicalMemoryRanges
 | copyPhysical (address : UInt64) (length : UInt64)
 | mapIoSpace (address : UInt64) (length : ℕ)
 | writeMapping (address : UInt64) (data : List UInt8)
 | lookupProcess (pid : UInt32)
 | allocateMdl (address : UInt64) (length : ℕ)
 | probeAndLockPages (process : UInt64)
 | mapLockedPages
 | writeProcess (process address : UInt64) (data : List UInt8)
 | inspect (code : UInt32)

/-- A routine that raises an exception answers with its code. A null pointer is `false`,
 and a null process is `0`. -/
def KernelAnswer : KernelCall→Type
 | .allocatePool => Bool
 | .physicalMemoryRanges => Option (List PhysicalMemoryRange)
 | .copyPhysical _ _ => NtStatus×List UInt8
 | .mapIoSpace _ _ => Bool
 | .writeMapping _ _ => Option NtStatus
 | .lookupProcess _ => NtStatus×UInt64
 | .allocateMdl _ _ => Bool
 | .probeAndLockPages _ => Option NtStatus
 | .mapLockedPages => Bool
 | .writeProcess _ _ _ => Unit
 | .inspect _ => NtStatus×ℕ

abbrev KernelEvent := Event KernelCall KernelAnswer
abbrev KernelM := Prog KernelCall KernelAnswer

def KernelCall.isWrite : KernelCall→Bool
 | .writeMapping _ _ | .writeProcess _ _ _ => true
 | _ => false

namespace Kernel

def allocatePool : KernelM Bool := Prog.ask KernelCall.allocatePool

def physicalMemoryRanges : KernelM (Option (List PhysicalMemoryRange)) :=
 Prog.ask KernelCall.physicalMemoryRanges

def copyPhysical (address length : UInt64) : KernelM (NtStatus×List UInt8) :=
 Prog.ask (KernelCall.copyPhysical address length)

def mapIoSpace (address : UInt64) (length : ℕ) : KernelM Bool :=
 Prog.ask (KernelCall.mapIoSpace address length)

def writeMapping (address : UInt64) (data : List UInt8) : KernelM (Option NtStatus) :=
 Prog.ask (KernelCall.writeMapping address data)

def lookupProcess (pid : UInt32) : KernelM (NtStatus×UInt64) :=
 Prog.ask (KernelCall.lookupProcess pid)

def allocateMdl (address : UInt64) (length : ℕ) : KernelM Bool :=
 Prog.ask (KernelCall.allocateMdl address length)

def probeAndLockPages (process : UInt64) : KernelM (Option NtStatus) :=
 Prog.ask (KernelCall.probeAndLockPages process)

def mapLockedPages : KernelM Bool := Prog.ask KernelCall.mapLockedPages

def writeProcess (process address : UInt64) (data : List UInt8) : KernelM Unit :=
 Prog.ask (KernelCall.writeProcess process address data)

def inspect (code : UInt32) : KernelM (NtStatus×ℕ) := Prog.ask (KernelCall.inspect code)

end Kernel

def kMaxTransferSize : ℕ := 1024*1024

def checkedEnd (address length : UInt64) : Option UInt64 :=
 if length=0 then none
 else if maxUInt64-length < address then none
 else some (address+length)

def checkedAddUlong (left right : UInt32) : Option UInt32 :=
 if 0xFFFFFFFF-right < left then none else some (left+right)

def isPageBounded (address length : UInt64) : Bool :=
 match checkedEnd address length with
 | none => false
 | some endExclusive =>
  (address &&& 0xFFFFFFFFFFFFF000) == ((endExclusive-1) &&& 0xFFFFFFFFFFFFF000)

def isUserRange (highestUser address length : UInt64) : Bool :=
 if address=0 then false
 else match checkedEnd address length with
  | none => false
  | some endExclusive => decide (address ≤ highestUser) && decide (endExclusive-1 ≤ highestUser)

/-- The array ends at an entry whose two fields are zero. -/
def reportedRanges (ranges : List PhysicalMemoryRange) : List PhysicalMemoryRange :=
 ranges.takeWhile fun range=>range.baseAddress != 0 || range.numberOfBytes != 0

def PhysicalMemoryRange.holds (range : PhysicalMemoryRange) (address endExclusive : UInt64) :
 Bool :=
 if range.numberOfBytes=0 ∨ maxUInt64-range.numberOfBytes < range.baseAddress then false
 else decide (range.baseAddress ≤ address) &&
  decide (endExclusive ≤ range.baseAddress+range.numberOfBytes)

def isPhysicalRamRange (ranges : List PhysicalMemoryRange) (address length : UInt64) : Bool :=
 match checkedEnd address length with
 | none => false
 | some endExclusive => (reportedRanges ranges).any (·.holds address endExclusive)

lemma checkedEnd_eq_some {address length endExclusive:UInt64}
 (h:checkedEnd address length=some endExclusive) :
 0 < length.toNat ∧ endExclusive.toNat=address.toNat+length.toNat := by
 unfold checkedEnd at h
 split at h
 · cases h
 · rename_i nonzero
   split at h
   · cases h
   · rename_i fits
     cases h
     have bound:=UInt64.le_iff_toNat_le.1 (UInt64.not_lt.1 fits)
     rw [toNat_maxUInt64_sub] at bound
     have small:=length.toNat_lt
     refine ⟨?_,?_⟩
     · rcases Nat.eq_zero_or_pos length.toNat with zero|pos
       · exact absurd (UInt64.toNat_inj.1 zero) nonzero
       · exact pos
     · rw [UInt64.toNat_add,Nat.mod_eq_of_lt (by omega)]

lemma toNat_and_offset (x:UInt64) : (x &&& 0xFFF).toNat=x.toNat%4096 := by
 exact Nat.and_two_pow_sub_one_eq_mod x.toNat 12

lemma toNat_and_page (x:UInt64) :
 (x &&& 0xFFFFFFFFFFFFF000).toNat=4096*(x.toNat/4096) := by
 have quotient:(x &&& 0xFFFFFFFFFFFFF000).toNat/4096=x.toNat/4096:=by
  have lt:x.toNat/4096<2^52:=by
   have := x.toNat_lt
   omega
  have high:(0xFFFFFFFFFFFFF000 : UInt64).toNat >>> 12=2^52-1:=rfl
  rw [UInt64.toNat_and]
  change (x.toNat &&& _)/2^12=x.toNat/2^12
  rw [←Nat.shiftRight_eq_div_pow,Nat.shiftRight_and_distrib,high,
   Nat.and_two_pow_sub_one_eq_mod,Nat.shiftRight_eq_div_pow]
  exact Nat.mod_eq_of_lt lt
 have offset:(x &&& 0xFFFFFFFFFFFFF000).toNat%4096=0:=by
  rw [←toNat_and_offset,UInt64.and_assoc]
  exact congrArg UInt64.toNat UInt64.and_zero
 omega

/-- The `length` bytes at `address` lie inside one 4 KiB page. -/
def InOnePage (address length : ℕ) : Prop :=
 0 < length ∧ address/4096=(address+length-1)/4096

lemma isPageBounded_iff {address length endExclusive:UInt64}
 (found:checkedEnd address length=some endExclusive) :
 isPageBounded address length=true ↔ InOnePage address.toNat length.toNat := by
 obtain ⟨_,sum⟩:=checkedEnd_eq_some found
 have last:(endExclusive-1).toNat=address.toNat+length.toNat-1:=by
  have one:(1 : UInt64).toNat=1:=rfl
  rw [UInt64.toNat_sub_of_le _ _ (UInt64.le_iff_toNat_le.2 (by omega)),sum,one]
 rw [isPageBounded,found]
 rw [beq_iff_eq,←UInt64.toNat_inj,toNat_and_page,toNat_and_page,InOnePage]
 omega

lemma inOnePage_of_isPageBounded {address length:UInt64}
 (h:isPageBounded address length=true) : InOnePage address.toNat length.toNat := by
 cases found:checkedEnd address length with
 | none => simp [isPageBounded,found] at h
 | some => exact (isPageBounded_iff found).1 h

/-- The `length` bytes at `address` lie inside the range, without wrapping. -/
def PhysicalMemoryRange.Covers (range : PhysicalMemoryRange) (address length : ℕ) : Prop :=
 range.baseAddress.toNat ≤ address ∧
  address+length ≤ range.baseAddress.toNat+range.numberOfBytes.toNat

lemma PhysicalMemoryRange.covers_of_holds {range:PhysicalMemoryRange}
 {address endExclusive:UInt64} {length:ℕ} (h:range.holds address endExclusive=true)
 (sum:endExclusive.toNat=address.toNat+length) : range.Covers address.toNat length := by
 unfold holds at h
 split at h
 · cases h
 · rename_i regular
   simp only [not_or,UInt64.not_lt] at regular
   have bound:=UInt64.le_iff_toNat_le.1 regular.2
   simp only [Bool.and_eq_true,decide_eq_true_eq] at h
   have low:=UInt64.le_iff_toNat_le.1 h.1
   have high:=UInt64.le_iff_toNat_le.1 h.2
   have small:=range.numberOfBytes.toNat_lt
   rw [UInt64.toNat_add,Nat.mod_eq_of_lt (by omega),sum] at high
   exact ⟨low,high⟩

lemma covers_of_isPhysicalRamRange {ranges:List PhysicalMemoryRange}
 {address length:UInt64} (h:isPhysicalRamRange ranges address length=true) :
 ∃ range∈reportedRanges ranges,range.Covers address.toNat length.toNat := by
 unfold isPhysicalRamRange at h
 split at h
 · cases h
 · rename_i endExclusive found
   obtain ⟨range,mem,held⟩:=List.any_eq_true.1 h
   exact ⟨range,mem,PhysicalMemoryRange.covers_of_holds held (checkedEnd_eq_some found).2⟩

inductive PhysicalWriteStage where
 | none
 | validation
 | mapping
 | copying
 | complete
 | comparing
 | readback
deriving DecidableEq,Repr

/-- The write counters of `DriverState` and the trail of its last physical write. -/
structure Statistics where
 successfulWrites : Int64 := 0
 rejectedWrites : Int64 := 0
 lastPhysicalWriteStatus : NtStatus := 0
 lastPhysicalWriteStage : PhysicalWriteStage := .none
 lastPhysicalWriteTransferred : ℕ := 0
deriving DecidableEq,Repr

namespace Statistics

def setPhysicalWriteStage (s : Statistics) (stage : PhysicalWriteStage) : Statistics :=
 { s with lastPhysicalWriteStage := stage }

def setPhysicalWriteResult (s : Statistics) (status : NtStatus) (transferred : ℕ) : Statistics :=
 { s with
   lastPhysicalWriteStatus := status
   lastPhysicalWriteTransferred := min transferred 0x7FFFFFFF }

end Statistics

def readPhysicalWithSnapshot (ranges : List PhysicalMemoryRange) (address length : UInt64) :
 KernelM (NtStatus×List UInt8) :=
 if length=0 ∨ kMaxTransferSize < length.toNat then return (.invalidParameter,[])
 else if !isPhysicalRamRange ranges address length then return (.conflictingAddresses,[])
 else Kernel.copyPhysical address length

lemma pageOffset_lt (current:UInt64) : (current &&& 0xFFF).toNat < kPhysicalPageSize := by
 exact Nat.lt_of_le_of_lt Nat.and_le_right (by decide)

/-- The loop of `WriteValidatedPhysicalRange`: one mapping and one copy for each page. -/
def writePages (current : UInt64) (input : List UInt8) (remaining transferred : ℕ)
 (s : Statistics) : KernelM ((NtStatus×ℕ)×Statistics) :=
 if remaining=0 then return ((.success,transferred),s)
 else do
  let chunk := min remaining (kPhysicalPageSize-(current &&& 0xFFF).toNat)
  if !(← Kernel.mapIoSpace current chunk) then
   return ((if transferred=0 then .insufficientResources else .partialCopy,transferred),
    s.setPhysicalWriteStage .mapping)
  else
   let raised ← Kernel.writeMapping current (input.take chunk)
   let copyStatus := raised.getD NtStatus.success
   if !ntSuccess copyStatus then
    return ((if transferred=0 then copyStatus else .partialCopy,transferred),
     s.setPhysicalWriteStage .copying)
   else
    writePages (current+UInt64.ofNat chunk) (input.drop chunk) (remaining-chunk)
     (transferred+chunk) (s.setPhysicalWriteStage .copying)
termination_by remaining
decreasing_by
 have := pageOffset_lt current
 omega

def writeValidatedPhysicalRange (address : UInt64) (source : List UInt8) (length : UInt64)
 (s : Statistics) : KernelM ((NtStatus×ℕ)×Statistics) :=
 if length=0 ∨ kMaxTransferSize < length.toNat ∨ !isPageBounded address length then
  return ((.invalidParameter,0),s)
 else writePages address source length.toNat 0 s

/-- The `nullptr` tests on the buffers are left out: every caller passes its own. -/
def writeProcessMemory (highestUser process address : UInt64) (source : List UInt8)
 (length : UInt64) : KernelM (NtStatus×ℕ) := do
 if process=0 ∨ 0xFFFFFFFF < length ∨ !isUserRange highestUser address length then
  return (.invalidParameter,0)
 else if !(← Kernel.allocateMdl address length.toNat) then
  return (.insufficientResources,0)
 else
  let raised ← Kernel.probeAndLockPages process
  let status := raised.getD NtStatus.success
  if !ntSuccess status then return (status,0)
  else if !(← Kernel.mapLockedPages) then return (.insufficientResources,0)
  else
   Kernel.writeProcess process address (source.take length.toNat)
   return (status,length.toNat)

lemma InOnePage.le_room {address:UInt64} {length:ℕ} (h:InOnePage address.toNat length) :
 length ≤ kPhysicalPageSize-(address &&& 0xFFF).toNat := by
 obtain ⟨_,_⟩:=h
 rw [toNat_and_offset]
 change length≤4096-_
 omega

/-- What storing data that stays inside one page can do: the page is not mapped, the copy
 faults, or every byte is copied. -/
inductive PageWrite (address:UInt64) (data:List UInt8) :
 List KernelEvent→NtStatus→ℕ→PhysicalWriteStage→Prop where
 | unmapped : PageWrite address data [⟨.mapIoSpace address data.length,false⟩]
  .insufficientResources 0 .mapping
 | faulted (code:NtStatus) (fails:ntSuccess code=false) : PageWrite address data
  [⟨.mapIoSpace address data.length,true⟩,⟨.writeMapping address data,some code⟩]
  code 0 .copying
 | written (raised:Option NtStatus) (fine:ntSuccess (raised.getD .success)=true) :
  PageWrite address data
   [⟨.mapIoSpace address data.length,true⟩,⟨.writeMapping address data,raised⟩]
   .success data.length .copying

variable {data:List UInt8} {t:List KernelEvent} {status:NtStatus}

lemma PageWrite.call_eq {address:UInt64} {written:ℕ} {stage:PhysicalWriteStage}
 (h:PageWrite address data t status written stage) {event:KernelEvent} (mem:event∈t)
 (write:event.call.isWrite=true) : event.call=.writeMapping address data := by
 cases h with
 | unmapped =>
  rw [List.mem_singleton.1 mem] at write
  cases write
 | faulted | written =>
  rcases List.mem_pair.1 mem with rfl|rfl
  · cases write
  · rfl

lemma writePages_single {address:UInt64} (inside:InOnePage address.toNat data.length)
 (s:Statistics) :
 writePages address data data.length 0 s=(do
  if !(← Kernel.mapIoSpace address data.length) then
   return ((.insufficientResources,0),s.setPhysicalWriteStage .mapping)
  else
   let raised ← Kernel.writeMapping address data
   if !ntSuccess (raised.getD .success) then
    return ((raised.getD .success,0),s.setPhysicalWriteStage .copying)
   else return ((.success,data.length),s.setPhysicalWriteStage .copying)) := by
 have chunk : min data.length (kPhysicalPageSize-(address &&& 0xFFF).toNat)=data.length :=
  min_eq_left inside.le_room
 have done (current:UInt64) (rest:List UInt8) (written:ℕ) (s:Statistics) :
  writePages current rest 0 written s=return ((.success,written),s) := by
  rw [writePages,if_pos rfl]
 rw [writePages,if_neg inside.1.ne',chunk]
 dsimp only
 rw [List.take_length,Nat.sub_self,Nat.zero_add]
 simp only [done,if_true]

lemma writePages_exec {address:UInt64} {s s':Statistics} {written:ℕ}
 (inside:InOnePage address.toNat data.length)
 (h:(writePages address data data.length 0 s).Exec t ((status,written),s')) :
 ∃ stage,s'=s.setPhysicalWriteStage stage ∧
  PageWrite address data t status written stage := by
 rw [writePages_single inside] at h
 obtain ⟨mapped,u,rfl,hu⟩:=h.of_ask
 cases mapped with
 | false =>
  obtain ⟨rfl,same⟩:=hu.of_pure
  cases same
  exact ⟨.mapping,rfl, .unmapped⟩
 | true =>
  obtain ⟨raised,v,rfl,hv⟩:=hu.of_ask
  rcases hv.of_guard with ⟨fails,rfl,same⟩|⟨fine,hw⟩
  · cases same
    cases raised with
    | none => cases fails
    | some code => exact ⟨.copying,rfl, .faulted code (by simpa using fails)⟩
  · obtain ⟨rfl,same⟩:=hw.of_pure
    cases same
    exact ⟨.copying,rfl, .written raised (by simpa using fine)⟩

lemma writeValidatedPhysicalRange_eq {address length:UInt64}
 (bounded:isPageBounded address length=true) (small:length.toNat ≤ kMaxTransferSize)
 (size:data.length=length.toNat) (s:Statistics) :
 writeValidatedPhysicalRange address data length s =
  writePages address data data.length 0 s := by
 have nonzero:length≠0:=fun zero=>by
  simpa [zero,InOnePage] using inOnePage_of_isPageBounded bounded
 rw [writeValidatedPhysicalRange,if_neg (by simp [nonzero,bounded,small]),size]

lemma writeValidatedPhysicalRange_exec {address length:UInt64} {s s':Statistics} {written:ℕ}
 (bounded:isPageBounded address length=true) (small:length.toNat ≤ kMaxTransferSize)
 (size:data.length=length.toNat)
 (h:(writeValidatedPhysicalRange address data length s).Exec t ((status,written),s')) :
 ∃ stage,s'=s.setPhysicalWriteStage stage ∧
  PageWrite address data t status written stage := by
 rw [writeValidatedPhysicalRange_eq bounded small size] at h
 exact writePages_exec (size ▸ inOnePage_of_isPageBounded bounded) h

/-- The kernel can always let the store go through. -/
lemma writeValidatedPhysicalRange_stores {address length:UInt64} (s:Statistics)
 (bounded:isPageBounded address length=true) (small:length.toNat ≤ kMaxTransferSize)
 (size:data.length=length.toNat) :
 (writeValidatedPhysicalRange address data length s).Exec
  [⟨.mapIoSpace address data.length,true⟩,⟨.writeMapping address data,none⟩]
  ((.success,data.length),s.setPhysicalWriteStage .copying) := by
 rw [writeValidatedPhysicalRange_eq bounded small size,
  writePages_single (size ▸ inOnePage_of_isPageBounded bounded)]
 exact (Prog.exec_ask_bind _ _ _ _).2 ⟨true,_,rfl,
  (Prog.exec_ask_bind _ _ _ _).2 ⟨none,_,rfl, .ret _⟩⟩

/-- What storing into a process can do: an obstacle stops it before any byte is stored, or
 every byte is. -/
inductive ProcessWrite (process address:UInt64) (data:List UInt8) :
 List KernelEvent→NtStatus→ℕ→Prop where
 | refused {t:List KernelEvent} (silent:∀ event∈t,event.call.isWrite=false)
  (status:NtStatus) : ProcessWrite process address data t status 0
 | written (raised:Option NtStatus) (fine:ntSuccess (raised.getD .success)=true) :
  ProcessWrite process address data
   [⟨.allocateMdl address data.length,true⟩,⟨.probeAndLockPages process,raised⟩,
    ⟨.mapLockedPages,true⟩,⟨.writeProcess process address data,()⟩]
   (raised.getD .success) data.length

lemma ProcessWrite.call_ne {process address:UInt64} {written:ℕ}
 (h:ProcessWrite process address data t status written) {event:KernelEvent} (mem:event∈t)
 (target:UInt64) (bytes:List UInt8) : event.call≠.writeMapping target bytes := by
 intro same
 cases h with
 | refused silent =>
  have quiet:=silent event mem
  rw [same] at quiet
  cases quiet
 | written =>
  simp only [List.mem_cons,List.not_mem_nil,or_false] at mem
  rcases mem with rfl|rfl|rfl|rfl <;> cases same

lemma writeProcessMemory_exec {highestUser process address length:UInt64} {written:ℕ}
 (size:data.length=length.toNat)
 (h:(writeProcessMemory highestUser process address data length).Exec t (status,written)) :
 ProcessWrite process address data t status written := by
 rw [writeProcessMemory,←size,List.take_length] at h
 split at h
 · obtain ⟨rfl,rfl,rfl⟩:=h.of_pure_prod
   exact .refused (by simp) _
 · obtain ⟨allocated,u,rfl,hu⟩:=h.of_ask
   cases allocated with
   | false =>
    obtain ⟨rfl,rfl,rfl⟩:=hu.of_pure_prod
    exact .refused (by simp [KernelCall.isWrite]) _
   | true =>
    obtain ⟨raised,v,rfl,hv⟩:=hu.of_ask
    dsimp only at hv
    split at hv
    · obtain ⟨rfl,rfl,rfl⟩:=hv.of_pure_prod
      exact .refused (by simp [KernelCall.isWrite]) _
    · rename_i fine
      obtain ⟨mapped,w,rfl,hw⟩:=hv.of_ask
      cases mapped with
      | false =>
       obtain ⟨rfl,rfl,rfl⟩:=hw.of_pure_prod
       exact .refused (by simp [KernelCall.isWrite]) _
      | true =>
       obtain ⟨_,x,rfl,hx⟩:=hw.of_ask
       obtain ⟨rfl,rfl,rfl⟩:=hx.of_pure_prod
       exact .written raised (by simpa using fine)

end KDbg
