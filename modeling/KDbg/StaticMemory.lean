import KDbg.DriverTranslateResponse
import KDbg.ReverseMapPaths
set_option autoImplicit false
/-! Memory that does not change, as the driver and the reverse mapper read it,
and the translations that the driver makes over it. -/
namespace KDbg
open Interaction BitFields

/-- The bits of a virtual address that are not copies of its highest one. -/
def addressBits (la57 : Bool) : ℕ := if la57 then 57 else 48

lemma toNat_canonicalize (raw:UInt64) (la57:Bool) :
 (canonicalizeVirtualAddress raw la57).toNat =
  if raw.toNat%2^addressBits la57<2^(addressBits la57-1) then
   raw.toNat%2^addressBits la57
  else raw.toNat%2^addressBits la57+(2^64-2^addressBits la57) := by
 cases la57 with
 | true =>
  exact toNat_signExtend raw 0x01FFFFFFFFFFFFFF 0x0100000000000000 56 (by decide) rfl rfl rfl
 | false =>
  exact toNat_signExtend raw 0x0000FFFFFFFFFFFF 0x0000800000000000 47 (by decide) rfl rfl rfl

lemma isCanonical_iff (address:UInt64) (la57:Bool) :
 Driver.isCanonical address la57=true ↔
  address.toNat<2^(addressBits la57-1) ∨
   2^64-2^(addressBits la57-1) ≤ address.toNat := by
 cases la57 with
 | true => exact signExtended_iff address 56 57 0x7F 56 (by decide) rfl rfl rfl
 | false => exact signExtended_iff address 47 48 0xFFFF 47 (by decide) rfl rfl rfl

lemma canonicalize_canonical (raw:UInt64) (la57:Bool) :
 Driver.isCanonical (canonicalizeVirtualAddress raw la57) la57=true := by
 have double:2^addressBits la57=2*2^(addressBits la57-1):=by cases la57 <;> rfl
 rw [isCanonical_iff,toNat_canonicalize]
 split
 · rename_i positive
   exact .inl positive
 · omega

lemma canonicalize_mod (raw:UInt64) (la57:Bool) :
 (canonicalizeVirtualAddress raw la57).toNat%2^addressBits la57 =
  raw.toNat%2^addressBits la57 := by
 have whole:(2^64-2^addressBits la57)%2^addressBits la57=0:=by
  cases la57 <;> rfl
 rw [toNat_canonicalize]
 split
 · exact Nat.mod_mod _ _
 · rw [Nat.add_mod,whole,Nat.add_zero,Nat.mod_mod,Nat.mod_mod]

/-- A canonical address is the extension of its lower bits. -/
lemma canonicalize_of_canonical {address:UInt64} {la57:Bool}
 (canonical:Driver.isCanonical address la57=true) :
 canonicalizeVirtualAddress (UInt64.ofNat (address.toNat%2^addressBits la57)) la57 =
  address := by
 have lt:=address.toNat_lt
 have double:2^addressBits la57=2*2^(addressBits la57-1):=by cases la57 <;> rfl
 have most:2^addressBits la57≤2^57:=by cases la57 <;> decide
 obtain ⟨copies,_⟩ :
  ∃ copies,2^64-2^addressBits la57=2^addressBits la57*copies := by
  cases la57
  · exact ⟨2^16-1,rfl⟩
  · exact ⟨2^7-1,rfl⟩
 have number : (UInt64.ofNat (address.toNat%2^addressBits la57)).toNat =
  address.toNat%2^addressBits la57 :=
  UInt64.toNat_ofNat_of_lt' (by change _<2^64;omega)
 apply UInt64.toNat_inj.1
 rw [toNat_canonicalize,number,Nat.mod_mod]
 rcases (isCanonical_iff address la57).1 canonical with positive | _
 · rw [Nat.mod_eq_of_lt (by omega),if_pos positive]
 · have low : address.toNat%2^addressBits la57 =
    address.toNat-(2^64-2^addressBits la57) := by
    have sum : address.toNat=2^addressBits la57*copies +
     (address.toNat-(2^64-2^addressBits la57)) := by omega
    conv_lhs => rw [sum]
    rw [Nat.mul_add_mod,Nat.mod_eq_of_lt (by omega)]
   rw [if_neg (by omega)]
   omega

def quadAt (memory : UInt64→UInt8) (address : UInt64) : UInt64 :=
 UInt64.ofNat (ofLittleEndian (bytesAt memory address 8))

/-- The entry that memory holds at an address. -/
def InMemory (memory : UInt64→UInt8) (address entry : UInt64) : Prop :=
 entry=quadAt memory address

lemma entryAt_bytesAt (memory:UInt64→UInt8) (table:UInt64) {index:ℕ}
 (small:index<512) :
 PageTableReverseMapper.entryAt (bytesAt memory table 0x1000) index =
  quadAt memory (entryAddress table index) := by
 have bytes : ((bytesAt memory table 0x1000).drop (8*index)).take 8 =
  bytesAt memory (entryAddress table index) 8 := by
  apply List.ext_getElem
  · simp [bytesAt]
    omega
  · intro i _ _
    simp only [bytesAt,List.getElem_take,List.getElem_drop,List.getElem_map,
     List.getElem_range,entryAddress]
    rw [UInt64.ofNat_add,UInt64.ofNat_mul,UInt64.add_assoc,UInt64.mul_comm (UInt64.ofNat 8)]
    rfl
 rw [PageTableReverseMapper.entryAt,bytes,quadAt]

/-- The successful copies of the kernel return what memory holds. -/
def KernelShows (memory : UInt64→UInt8) (kernel : (c : KernelCall)→KernelAnswer c) : Prop :=
 ∀ address length : UInt64,
  let answer : NtStatus×List UInt8 := kernel (.copyPhysical address length)
  ntSuccess answer.1=true → answer.2.length=length.toNat →
   answer.2=bytesAt memory address length.toNat

def DriverReads (kernel : (c : KernelCall)→KernelAnswer c) (table : UInt64) : Prop :=
 ∃ ranges : List PhysicalMemoryRange,kernel .physicalMemoryRanges=some ranges ∧
  ∀ index,index<512 →
   ∃ entry,(Driver.readPhysicalU64 ranges (entryAddress table index)).run kernel=.ok entry

lemma inMemory_functional (memory:UInt64→UInt8) (place entry entry':UInt64)
 (held:InMemory memory place entry) (held':InMemory memory place entry') :
 entry=entry' :=
 held.trans held'.symm

lemma KernelShows.reads {memory:UInt64→UInt8} {kernel:(c:KernelCall)→KernelAnswer c}
 (shown:KernelShows memory kernel) {t:List KernelEvent}
 (answered:∀e∈t,e.answer=kernel e.call) (ranges:List PhysicalMemoryRange) :
 Driver.Reads ranges (InMemory memory) t := by
 intro u address entry sub ran
 obtain ⟨answer,rfl,succeeded,whole,rfl⟩:=Driver.readPhysicalU64_exec ran
 obtain rfl : answer=kernel (.copyPhysical address 8) :=
  answered _ (sub (List.mem_singleton.2 rfl))
 exact congrArg (fun bytes=>UInt64.ofNat (ofLittleEndian bytes))
  (shown address 8 succeeded whole)

lemma KernelShows.entry {memory:UInt64→UInt8} {kernel:(c:KernelCall)→KernelAnswer c}
 (shown:KernelShows memory kernel) {ranges:List PhysicalMemoryRange}
 {address entry:UInt64}
 (read:(Driver.readPhysicalU64 ranges address).run kernel=.ok entry) :
 InMemory memory address entry := by
 obtain ⟨t,ran,answered⟩:=Prog.exec_run kernel (Driver.readPhysicalU64 ranges address)
 rw [read] at ran
 exact shown.reads answered ranges t address entry (List.Subset.refl t) ran

namespace Driver
open Device (TranslateRequest TranslateResponse kTranslateRequestSize kTranslateFlagPresent)

/-- A translation over static memory is the walk that memory holds. -/
lemma translateVirtual_inMemory {memory:UInt64→UInt8}
 {kernel:(c:KernelCall)→KernelAnswer c} (shown:KernelShows memory kernel)
 {registers:ControlRegisters} {request:TranslateRequest} {response:TranslateResponse}
 (own:request.processId=0)
 (ran:(translateVirtual registers request).run kernel=.ok response) :
 ∃ visits last translated,
  PageWalk (InMemory memory) request.virtualAddress.toNat (pagingLevels registers.la57)
   (requestBase registers request) visits last translated ∧
  response=walkResponse request
   (startResponse request (requestBase registers request) 0 registers.la57) visits last
   translated := by
 obtain ⟨t,exec,answered⟩:=Prog.exec_run kernel (translateVirtual registers request)
 rw [ran] at exec
 exact translateVirtual_walk own exec (shown.reads answered)

def walkRequest (length : UInt32) (directoryTableBase virtualAddress : UInt64) : TranslateRequest :=
 ⟨kTranslateRequestSize,0,0,length,directoryTableBase,virtualAddress⟩

lemma requestBase_walkRequest (registers:ControlRegisters) (length:UInt32)
 {directoryTableBase:UInt64} (virtualAddress:UInt64) (nonzero:directoryTableBase≠0) :
 requestBase registers (walkRequest length directoryTableBase virtualAddress) =
  directoryTableBase := if_neg nonzero

/-- The fields of a response that the walk of an address to a page determines. -/
lemma walkResponse_page {Holds:UInt64→UInt64→Prop} {la57:Bool} {visits:List Visit}
 {last:Visit} {request:TranslateRequest} {base:UInt64}
 (walk:PageWalk Holds request.virtualAddress.toNat (pagingLevels la57) base visits last true) :
 let response := walkResponse request (startResponse request base 0 la57) visits last true
 response.stepList=visits.map Visit.wire ∧
  response.physicalAddress.toNat=leafBase last.level last.entry +
   request.virtualAddress.toNat%2^levelShift last.level ∧
  response.pageSize=leafPageSize last.level ∧
  response.flags &&& kTranslateFlagPresent≠0 := by
 have length:=walk.length_le (pagingLevels_pos la57)
 have levels:=pagingLevels_le la57
 have fits:(startResponse request base 0 la57).stepCount.toNat+visits.length<2^32:=by
  change 0+_ < _
  omega
 refine ⟨stepList_walkResponse request last true fits,?_,rfl,?_⟩
 · exact toNat_physicalAddress (level_of_leafEntry walk.leafEntry) _ _
 · have present:=(walkResponse_tell request base walk).present
   simpa using present

/-- The physical memory of the samples: the first entry of the table at 0x1000 names the table at
 0x2000, whose first entry maps a page of 1 GiB. -/
def sampleMemory (address : UInt64) : UInt8 :=
 if address=0x1000 then 0x07
 else if address=0x1001 then 0x20
 else if address=0x2000 then 0x83
 else if address=0x2003 then 0x40
 else 0

def sampleKernel : (c : KernelCall)→KernelAnswer c
 | .allocatePool => true
 | .physicalMemoryRanges => some [⟨0x1000,0x10000000⟩]
 | .copyPhysical address length => (.success,bytesAt sampleMemory address length.toNat)
 | .mapIoSpace _ _ => true
 | .writeMapping _ _ => none
 | .lookupProcess _ => (.success,1)
 | .allocateMdl _ _ => true
 | .probeAndLockPages _ => none
 | .mapLockedPages => true
 | .writeProcess _ _ _ => ()
 | .inspect _ => (.success,0)

lemma sampleKernel_shows : KernelShows sampleMemory sampleKernel :=
 fun _ _ _ _=>rfl

end Driver

end KDbg
