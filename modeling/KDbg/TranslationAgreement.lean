import KDbg.DriverTranslateResponse
import KDbg.KDbgBackendSession
set_option autoImplicit false
/-! The client accepts every translation that the driver answers, and returns
the walk the driver made. -/
namespace KDbg
open Interaction BitFields

/-- The level that the wire format and the page tables number. -/
def PagingLevel.code : PagingLevel→UInt32
 | .pml5 => 5
 | .pml4 => 4
 | .pdpt => 3
 | .pd => 2
 | .pt => 1

def TranslationStep.wire (step : TranslationStep) : Device.WireTranslationStep :=
 ⟨step.level.code,step.index.toUInt32,step.entryPhysicalAddress,step.entryValue⟩

namespace KDbgBackend
open Device (TranslateRequest TranslateResponse kTranslateRequestSize kTranslateResponseSize
 kMaxTranslationSteps kTranslateFlagLa57Active kTranslateFlagPresent)
open Driver (levelIndex pagingLevels pagingLevels_pos FlagsTell)

lemma code_of_tryToPagingLevel {code:UInt32} {level:PagingLevel}
 (h:tryToPagingLevel code=some level) : level.code=code := by
 unfold tryToPagingLevel at h
 split at h
 · cases h
   simp_all [PagingLevel.code]
 split at h
 · cases h
   simp_all [PagingLevel.code]
 split at h
 · cases h
   simp_all [PagingLevel.code]
 split at h
 · cases h
   simp_all [PagingLevel.code]
 split at h
 · cases h
   simp_all [PagingLevel.code]
 · cases h

lemma tryToPagingLevel_ofNat {level:ℕ} (low:1 ≤ level) (high:level≤5) :
 ∃ decoded,tryToPagingLevel (UInt32.ofNat level)=some decoded := by
 interval_cases level <;> exact ⟨_,rfl⟩

lemma expectedIndex_eq (virtualAddress:UInt64) {level:ℕ} (low:1 ≤ level)
 (high:level≤5) :
 ((virtualAddress >>> (12+9*(UInt32.ofNat level-1)).toUInt64) &&& 0x1FF).toUInt32 =
  levelIndex virtualAddress level := by
 interval_cases level <;> rfl

lemma entryAddress_and_seven {table:UInt64} {index:ℕ} (aligned:table &&& 0xFFF=0)
 (small:index<512) : entryAddress table index &&& 0x7=0 := by
 have low:table.toNat%4096=0:=by rw [←toNat_and_offset,aligned];rfl
 rw [and_field_eq_zero 0 3 rfl,toNat_entryAddress aligned small]
 omega

/-- The client decodes the step that the driver records for an entry. -/
lemma decodeStep_visit {virtualAddress:UInt64} {levels i:ℕ} {visit:Visit}
 (sum:visit.level+i=levels) (low:1 ≤ visit.level) (high:levels≤5)
 (index:visit.index=tableIndex visit.level virtualAddress.toNat)
 (aligned:visit.table &&& 0xFFF=0) :
 ∃ step,decodeStep virtualAddress (UInt32.ofNat levels) i visit.wire=.ok step ∧
  step.wire=visit.wire := by
 have small:visit.index<512:=index ▸ tableIndex_lt _ _
 have level:UInt32.ofNat levels-UInt32.ofNat i=UInt32.ofNat visit.level:=by
  rw [←sum,UInt32.ofNat_add,UInt32.add_sub_cancel]
 have expected:visit.wire.index=levelIndex virtualAddress visit.level:=by
  rw [Driver.levelIndex_eq virtualAddress (by omega),←index]
  rfl
 have bound:¬ 0x1FF < visit.wire.index:=by
  rw [UInt32.not_lt,UInt32.le_iff_toNat_le,expected,
   Driver.toNat_levelIndex virtualAddress (by omega),←index]
  exact Nat.le_of_lt_succ small
 have word:visit.wire.entryPhysicalAddress &&& 0x7=0:=entryAddress_and_seven aligned small
 obtain ⟨decoded,known⟩:=tryToPagingLevel_ofNat low (by omega)
 have fits:visit.wire.index.toUInt16.toUInt32=visit.wire.index:=by
  apply UInt32.toNat_inj.1
  have lt:=UInt32.le_iff_toNat_le.1 (UInt32.not_lt.1 bound)
  exact Nat.mod_eq_of_lt (Nat.lt_of_le_of_lt lt (by decide))
 have accepted : ¬(visit.wire.level≠UInt32.ofNat levels-UInt32.ofNat i ∨
  visit.wire.index≠((virtualAddress >>> (12+9*(UInt32.ofNat levels-UInt32.ofNat i -
   1)).toUInt64) &&& 0x1FF).toUInt32 ∨ 0x1FF < visit.wire.index ∨
  visit.wire.entryPhysicalAddress &&& 0x7≠0) := by
  rw [level,expectedIndex_eq virtualAddress low (by omega),←expected]
  rintro (h | h | h | h)
  · exact h rfl
  · exact h rfl
  · exact bound h
  · exact h word
 have level_eq:tryToPagingLevel visit.wire.level=some decoded:=known
 unfold decodeStep
 rw [level_eq]
 dsimp only
 rw [if_neg accepted]
 refine ⟨_,rfl,?_⟩
 simp only [TranslationStep.wire,fits,code_of_tryToPagingLevel level_eq]

lemma decodeSteps_ok {response:TranslateResponse} {virtualAddress:UInt64} {count index:ℕ}
 (each:∀i,index ≤ i → i < index+count →
  ∃ step,decodeStep virtualAddress response.pagingLevels i (response.steps i)=.ok step ∧
   step.wire=response.steps i) (decoded:List TranslationStep) :
 ∃ steps,decodeSteps response virtualAddress count index decoded=.ok (decoded++steps) ∧
  steps.map TranslationStep.wire=(List.range' index count).map response.steps := by
 induction count generalizing index decoded with
 | zero => exact ⟨[],by rw [decodeSteps,List.append_nil],rfl⟩
 | succ count ih =>
  obtain ⟨step,here,wire⟩:=each index le_rfl (by omega)
  have later : ∀i,index+1 ≤ i → i < index+1+count →
   ∃ step,decodeStep virtualAddress response.pagingLevels i (response.steps i)=.ok step ∧
    step.wire=response.steps i := fun i _ _=>each i (by omega) (by omega)
  obtain ⟨steps,rest,wires⟩:=ih later (decoded++[step])
  refine ⟨step::steps,?_,?_⟩
  · rw [decodeSteps,here]
    dsimp only
    rw [rest,List.append_assoc]
    rfl
  · rw [List.map_cons,wire,wires,List.range'_succ,List.map_cons]

/-- The header of a response as the driver fills it in. -/
structure HeaderOf (la57 : Bool) (directoryTableBase virtualAddress : UInt64)
 (response : TranslateResponse) : Prop where
 size : response.size=kTranslateResponseSize
 levels : response.pagingLevels=UInt32.ofNat (pagingLevels la57)
 steps : response.stepCount≠0
 fits : response.stepCount.toNat ≤ pagingLevels la57
 length : response.requestedLength=1
 address : response.virtualAddress=virtualAddress
 nonzero : response.directoryTableBase≠0
 aligned : response.directoryTableBase &&& 0xFFF=0
 base : directoryTableBase≠0 → response.directoryTableBase=directoryTableBase

lemma acceptsTranslation_of_header {la57 translated large:Bool}
 {directoryTableBase virtualAddress:UInt64} {response:TranslateResponse}
 (header:HeaderOf la57 directoryTableBase virtualAddress response)
 (flags:FlagsTell response.flags la57 translated large) :
 acceptsTranslation la57 directoryTableBase virtualAddress kTranslateResponseSize response =
  true := by
 obtain ⟨size,levels,steps,fits,length,address,nonzero,aligned,base⟩:=header
 have five:pagingLevels la57≤5:=Driver.pagingLevels_le la57
 have most : response.stepCount ≤ kMaxTranslationSteps :=
  UInt32.le_iff_toNat_le.2 (fits.trans five)
 have inLevels:response.stepCount ≤ UInt32.ofNat (pagingLevels la57):=by
  rw [UInt32.le_iff_toNat_le,UInt32.toNat_ofNat_of_lt' (by change _<2^32;omega)]
  exact fits
 have shape : ((UInt32.ofNat (pagingLevels la57) == 4 && !la57) ||
  (UInt32.ofNat (pagingLevels la57) == 5 && la57))=true := by cases la57 <;> rfl
 have own : (directoryTableBase != 0 && response.directoryTableBase != directoryTableBase) =
  false := by
  by_cases zero:directoryTableBase=0
  · simp [zero]
  · simp [base zero]
 unfold acceptsTranslation
 simp only [flags.la57,levels,shape,flags.valid,flags.process,size,length,address,aligned,
  own,UInt32.not_lt.2 most,UInt32.not_lt.2 inLevels,bne_self_eq_false,decide_false,
  Bool.not_true,Bool.or_false,Bool.false_or]
 simp [steps,nonzero]

section Page
variable {level:ℕ}

lemma pageOffset_lt_pageSize (page:level=1 ∨ level=2 ∨ level=3)
 (virtualAddress:UInt64) :
 virtualAddress &&& (leafPageSize level-1) < leafPageSize level := by
 rw [UInt64.lt_iff_toNat_lt,toNat_leafOffset page,toNat_leafPageSize page]
 exact Nat.mod_lt _ (Nat.two_pow_pos _)

lemma physicalAddress_pageOffset (page:level=1 ∨ level=2 ∨ level=3)
 (entry virtualAddress:UInt64) :
 ((entry &&& leafMask level) ||| (virtualAddress &&& (leafPageSize level-1))) &&&
  (leafPageSize level-1)=virtualAddress &&& (leafPageSize level-1) := by
 rw [←UInt64.toNat_inj,toNat_leafOffset page,toNat_leafOffset page,
  toNat_physicalAddress page,leafBase,Nat.mul_add_mod',Nat.mod_mod]

lemma translatedLength_one {pageSize pageOffset:UInt64} (inside:pageOffset < pageSize) :
 (min (1 : UInt32).toUInt64 (pageSize-pageOffset)).toUInt32=1 := by
 have lt:=UInt64.lt_iff_toNat_lt.1 inside
 have le:(1 : UInt32).toUInt64 ≤ pageSize-pageOffset:=by
  rw [UInt64.le_iff_toNat_le,UInt64.toNat_sub_of_le _ _ (UInt64.le_of_lt inside)]
  change 1 ≤ _
  omega
 have least : min (1 : UInt32).toUInt64 (pageSize-pageOffset)=(1 : UInt32).toUInt64 :=
  if_pos le
 rw [least]
 rfl

lemma pageVerdict_mapPage {request:TranslateRequest} {la57:Bool} {flags:UInt32}
 {entry:UInt64} {response:TranslateResponse} (page:level=1 ∨ level=2 ∨ level=3)
 (one:request.length=1)
 (tell:FlagsTell (response.flags ||| flags) la57 true (decide (level≠1))) :
 pageVerdict (Driver.mapPage request (leafPageSize level) (leafMask level) flags
  entry response)=none := by
 have inside:=pageOffset_lt_pageSize page request.virtualAddress
 have length : (Driver.mapPage request (leafPageSize level) (leafMask level) flags
  entry response).translatedLength=1 := by
  change (min request.length.toUInt64 _).toUInt32=1
  rw [one]
  exact translatedLength_one inside
 have present:(response.flags ||| flags) &&& kTranslateFlagPresent≠0:=by
  simpa using tell.present
 have size : (leafPageSize level == 0x1000 || leafPageSize level == 0x200000 ||
  leafPageSize level == 0x40000000)=true := by
  rcases page with rfl|rfl|rfl <;> rfl
 have large:decide (level≠1)=(leafPageSize level != 0x1000):=by
  rcases page with rfl|rfl|rfl <;> rfl
 unfold pageVerdict
 rw [length,if_pos (by decide)]
 refine if_neg ?_
 rintro (h | h | h | h | h | h | h)
 · exact present h
 · exact h rfl
 · rw [show (Driver.mapPage request (leafPageSize level) (leafMask level) flags
    entry response).pageSize=leafPageSize level from rfl,size] at h
   cases h
 · exact UInt64.not_le.2 inside h
 · exact h (physicalAddress_pageOffset page entry request.virtualAddress)
 · exact h rfl
 · exact h (tell.large.trans large)

lemma pageVerdict_zero {response:TranslateResponse} {la57:Bool}
 (tell:FlagsTell response.flags la57 false false) (length:response.translatedLength=0)
 (physical:response.physicalAddress=0) (size:response.pageSize=0)
 (offset:response.pageOffset=0) (bytes:response.pageBytes=0) :
 pageVerdict response=none := by
 unfold pageVerdict
 rw [length]
 simp [tell.absent rfl,physical,size,offset,bytes]

end Page

def translationRequest (directoryTableBase virtualAddress : UInt64) : TranslateRequest :=
 ⟨kTranslateRequestSize,0,0,1,directoryTableBase,virtualAddress⟩

section Response
variable {Holds:UInt64→UInt64→Prop} {la57 translated:Bool} (directoryTableBase:UInt64)
 {virtualAddress base:UInt64} {visits:List Visit} {last:Visit}

def walked (la57 : Bool) (directoryTableBase virtualAddress base : UInt64) (visits : List Visit)
 (last : Visit) (translated : Bool) : TranslateResponse :=
 let request := translationRequest directoryTableBase virtualAddress
 Driver.walkResponse request (Driver.startResponse request base 0 la57) visits last translated

variable (walk:PageWalk Holds virtualAddress.toNat (pagingLevels la57) base visits last translated)
include walk

lemma tell_walked :
 FlagsTell (walked la57 directoryTableBase virtualAddress base visits last translated).flags la57
  translated (translated && decide (last.level≠1)) := by
 exact Driver.walkResponse_tell _ base walk

lemma fits_walked : (0 : UInt32).toNat+visits.length<2^32 := by
 have length:=walk.length_le (pagingLevels_pos la57)
 have levels:=Driver.pagingLevels_le la57
 change 0+_ < _
 omega

lemma stepList_walked :
 (walked la57 directoryTableBase virtualAddress base visits last translated).stepList =
  visits.map Visit.wire :=
 Driver.stepList_walkResponse _ last translated (fits_walked walk)

lemma toNat_stepCount_walked :
 (walked la57 directoryTableBase virtualAddress base visits last translated).stepCount.toNat =
  visits.length := by
 have lengths:=congrArg List.length (stepList_walked directoryTableBase walk)
 simpa [TranslateResponse.stepList] using lengths

lemma steps_walked {i:ℕ} {visit:Visit} (found:visits[i]?=some visit) :
 (walked la57 directoryTableBase virtualAddress base visits last translated).steps i =
  visit.wire := by
 obtain ⟨lt,rfl⟩:=List.getElem?_eq_some_iff.1 found
 have here:=congrArg (·[i]?) (stepList_walked directoryTableBase walk)
 simpa [TranslateResponse.stepList,toNat_stepCount_walked directoryTableBase walk,lt] using here

lemma header_walked (nonzero:base≠0) (aligned:base &&& 0xFFF=0)
 (own:directoryTableBase≠0 → base=directoryTableBase) :
 HeaderOf la57 directoryTableBase virtualAddress
  (walked la57 directoryTableBase virtualAddress base visits last translated) := by
 have count:=toNat_stepCount_walked directoryTableBase walk
 have pos:=List.length_pos_of_mem walk.last_mem
 have atBase : (walked la57 directoryTableBase virtualAddress base visits last
  translated).directoryTableBase=base :=
  Driver.walkResponse_field (·.directoryTableBase) _ _ _ _ _
 refine ⟨Driver.walkResponse_field (·.size) _ _ _ _ _,?_,?_,?_,
  Driver.walkResponse_field (·.requestedLength) _ _ _ _ _,
  Driver.walkResponse_field (·.virtualAddress) _ _ _ _ _,?_,?_,?_⟩
 · refine (Driver.walkResponse_field (·.pagingLevels) _ _ _ _ _).trans ?_
   cases la57 <;> rfl
 · intro zero
   rw [zero] at count
   change 0=_ at count
   omega
 · rw [count]
   exact walk.length_le (pagingLevels_pos la57)
 · rwa [atBase]
 · rwa [atBase]
 · rwa [atBase]

lemma verdict_walked :
 pageVerdict (walked la57 directoryTableBase virtualAddress base visits last translated) =
  none := by
 have tell:=tell_walked directoryTableBase walk
 cases translated with
 | true => exact pageVerdict_mapPage (level_of_leafEntry walk.leafEntry) rfl tell
 | false =>
  open Driver in
  exact pageVerdict_zero tell (pushVisits_field (·.translatedLength) _ visits)
   (pushVisits_field (·.physicalAddress) _ visits) (pushVisits_field (·.pageSize) _ visits)
   (pushVisits_field (·.pageOffset) _ visits) (pushVisits_field (·.pageBytes) _ visits)

lemma steps_decode (aligned:base &&& 0xFFF=0) :
 let response := walked la57 directoryTableBase virtualAddress base visits last translated
 ∃ steps,decodeSteps response virtualAddress
  (min response.stepCount.toNat kMaxTranslationSteps.toNat) 0 []=.ok steps ∧
  steps.map TranslationStep.wire=response.stepList := by
 intro response
 have count : response.stepCount.toNat=visits.length :=
  toNat_stepCount_walked directoryTableBase walk
 have length:=walk.length_le (pagingLevels_pos la57)
 have levels:=Driver.pagingLevels_le la57
 have all :
  min response.stepCount.toNat kMaxTranslationSteps.toNat=response.stepCount.toNat := by
  change min _ 5=_
  omega
 have number : response.pagingLevels=UInt32.ofNat (pagingLevels la57) :=
  (Driver.walkResponse_field (·.pagingLevels) _ _ _ _ _).trans (by cases la57 <;> rfl)
 have each : ∀i,0 ≤ i → i<0+response.stepCount.toNat →
  ∃ step,decodeStep virtualAddress response.pagingLevels i (response.steps i)=.ok step ∧
   step.wire=response.steps i := by
  intro i _ _
  obtain ⟨visit,found⟩ : ∃ visit,visits[i]?=some visit :=
   ⟨_,List.getElem?_eq_getElem (by omega)⟩
  obtain ⟨sum,low,index⟩:=walk.visit_at (pagingLevels_pos la57) found
  have page:=walk.table_aligned aligned visit (List.mem_of_getElem? found)
  rw [number,steps_walked directoryTableBase walk found]
  exact decodeStep_visit sum low levels index page
 obtain ⟨steps,decoded,wires⟩:=decodeSteps_ok each []
 rw [all]
 refine ⟨steps,decoded,?_⟩
 rw [wires,←List.range_eq_range']
 rfl

/-- The walk that the client returns is the one that the driver reports. -/
structure WalkOf (response : TranslateResponse) (walk : TranslationWalk) : Prop where
 steps : walk.steps.map TranslationStep.wire=response.stepList
 directoryTableBase : walk.directoryTableBase=response.directoryTableBase
 virtualAddress : walk.virtualAddress=response.virtualAddress
 physicalAddress : walk.physicalAddress=response.physicalAddress
 pageSize : walk.pageSize=response.pageSize
 pageOffset : walk.pageOffset=response.pageOffset
 la57 : walk.la57=(response.flags &&& kTranslateFlagLa57Active != 0)
 translated : walk.translated=(response.flags &&& kTranslateFlagPresent != 0)

lemma translated_walked :
 ((walked la57 directoryTableBase virtualAddress base visits last translated).translatedLength !=
  0)=translated := by
 cases translated with
 | false =>
  rw [show (walked la57 directoryTableBase virtualAddress base visits last
   false).translatedLength=0 from
    Driver.pushVisits_field (·.translatedLength) _ visits]
  rfl
 | true =>
  have inside:=pageOffset_lt_pageSize (level_of_leafEntry walk.leafEntry) virtualAddress
  rw [show (walked la57 directoryTableBase virtualAddress base visits last
   true).translatedLength=1 from translatedLength_one inside]
  rfl

lemma decodeTranslation_walked (nonzero:base≠0) (aligned:base &&& 0xFFF=0)
 (own:directoryTableBase≠0 → base=directoryTableBase) :
 let response := walked la57 directoryTableBase virtualAddress base visits last translated
 ∃ result,decodeTranslation la57 directoryTableBase virtualAddress kTranslateResponseSize
  response=.ok result ∧ WalkOf response result := by
 intro response
 have tell : FlagsTell response.flags la57 translated (translated && decide (last.level≠1)) :=
  tell_walked directoryTableBase walk
 have accepted : acceptsTranslation la57 directoryTableBase virtualAddress kTranslateResponseSize
  response=true := acceptsTranslation_of_header
  (header_walked directoryTableBase walk nonzero aligned own) tell
 have verdict:pageVerdict response=none:=verdict_walked directoryTableBase walk
 obtain ⟨steps,decoded,wires⟩:=steps_decode directoryTableBase walk aligned
 unfold decodeTranslation
 rw [accepted,verdict]
 simp only [Bool.not_true,Bool.false_eq_true,if_false]
 rw [show decodeSteps response virtualAddress
  (min response.stepCount.toNat kMaxTranslationSteps.toNat) 0 []=.ok steps from decoded]
 refine ⟨_,rfl,wires,rfl,rfl,rfl,rfl,rfl,rfl,?_⟩
 exact (translated_walked directoryTableBase walk).trans tell.present.symm

end Response

/-- Each entry address is the table named before it plus eight times the index. -/
structure Linked (walk : TranslationWalk) : Prop where
 first : ∀ step,walk.steps[0]?=some step →
  step.entryPhysicalAddress.toNat=walk.directoryTableBase.toNat+8*step.index.toNat
 next : ∀ (i : ℕ) (step following : TranslationStep),walk.steps[i]?=some step →
  walk.steps[i+1]?=some following →
   following.entryPhysicalAddress.toNat =
    (step.entryValue &&& kX64PageEntryAddressMask).toNat+8*following.index.toNat

lemma wire_address {table:UInt64} {step:TranslationStep} {visit:Visit}
 (same:step.wire=visit.wire) (small:visit.index<512) (atTable:visit.table=table)
 (aligned:table &&& 0xFFF=0) :
 step.entryPhysicalAddress.toNat=table.toNat+8*step.index.toNat := by
 have address : step.entryPhysicalAddress=visit.address :=
  congrArg Device.WireTranslationStep.entryPhysicalAddress same
 have index:=congrArg (fun step=>step.index.toNat) same
 change step.index.toUInt32.toNat=(UInt32.ofNat visit.index).toNat at index
 rw [UInt16.toNat_toUInt32,UInt32.toNat_ofNat_of_lt' (by change _<2^32;omega)] at index
 rw [address,Visit.address,atTable,toNat_entryAddress aligned small,index]

lemma linked_of_wires {Holds:UInt64→UInt64→Prop} {level address:ℕ} {base:UInt64}
 {visits:List Visit} {last:Visit} {translated:Bool} {walk:TranslationWalk}
 (path:PageWalk Holds address level base visits last translated)
 (aligned:base &&& 0xFFF=0) (atBase:walk.directoryTableBase=base)
 (wires:walk.steps.map TranslationStep.wire=visits.map Visit.wire) : Linked walk := by
 have visitOf {i:ℕ} {step:TranslationStep} (found:walk.steps[i]?=some step) :
  ∃ visit,visits[i]?=some visit ∧ step.wire=visit.wire := by
  have here:=congrArg (·[i]?) wires
  simp only [List.getElem?_map,found,Option.map_some] at here
  obtain ⟨visit,found',same⟩:=Option.map_eq_some_iff.1 here.symm
  exact ⟨visit,found',same.symm⟩
 constructor
 · intro _ found
   obtain ⟨_,found',same⟩:=visitOf found
   obtain ⟨_,head,atTable⟩:=path.first
   rw [found'] at head
   cases head
   rw [atBase]
   exact wire_address same (path.index_lt (List.mem_of_getElem? found')) atTable aligned
 · intro i step _ found found'
   obtain ⟨visit,here,same⟩:=visitOf found
   obtain ⟨_,there,same'⟩:=visitOf found'
   have value : step.entryValue=visit.entry :=
    congrArg Device.WireTranslationStep.entryValue same
   rw [value]
   exact wire_address same' (path.index_lt (List.mem_of_getElem? there)) (path.linked here there)
    (pageMask_aligned _)

lemma requestBase_aligned (registers:Driver.ControlRegisters) {request:TranslateRequest}
 (aligned:request.directoryTableBase &&& 0xFFF=0) :
 Driver.requestBase registers request &&& 0xFFF=0 := by
 unfold Driver.requestBase
 split
 · exact Driver.not_offset_aligned _
 · exact aligned

lemma translateIoctl_ok {registers:Driver.ControlRegisters} {request:TranslateRequest}
 {response:TranslateResponse} {t:List KernelEvent}
 (ran:(Driver.translateVirtual registers request).Exec t (.ok response)) :
 (Driver.translateIoctl registers ⟨some request,kTranslateRequestSize,
  kTranslateResponseSize⟩).Exec t
   (NtStatus.success,kTranslateResponseSize.toNat,some response) := by
 unfold Driver.translateIoctl
 dsimp only
 exact (Prog.exec_bind _ _ _ _).2 ⟨t,_,[],(List.append_nil t).symm,ran, .ret _⟩

lemma translateVirtual_exec {directoryTableBase virtualAddress:UInt64} {s:Impl}
 {returned:UInt32} {response:TranslateResponse} (device:s.device=true)
 (result:Result TranslationWalk) :
 (translateVirtual directoryTableBase virtualAddress s).Exec
  [⟨.translateVirtual (translationRequest directoryTableBase virtualAddress),
   .ok (returned,response)⟩] result ↔
  result=decodeTranslation s.la57 directoryTableBase virtualAddress returned response := by
 unfold translateVirtual Impl.ioctl
 simp only [device,Bool.not_true,Bool.false_eq_true,if_false]
 constructor
 · intro ran
   obtain ⟨u,_,v,split,sent,rest⟩:=ran.of_bind
   obtain ⟨answer,w,rfl,done⟩:=sent.of_ask
   cases answer with
   | error =>
    cases split
   | ok =>
    obtain ⟨rfl,rfl⟩:=done.of_pure
    obtain ⟨rfl,decoded⟩:=rest.of_pure
    cases split
    exact decoded
 · rintro rfl
   exact .call _ (.ret _)

/-- A translation of the driver reaches the caller of the client as the driver made it. -/
theorem translateVirtual_agreement {registers : Driver.ControlRegisters}
 {directoryTableBase virtualAddress : UInt64} {response : TranslateResponse}
 {t : List KernelEvent}
 (ran : (Driver.translateVirtual registers
  (translationRequest directoryTableBase virtualAddress)).Exec t (.ok response))
 (nonzero : Driver.requestBase registers
  (translationRequest directoryTableBase virtualAddress)≠0)
 {s : Impl} (device : s.device=true) (mode : s.la57=registers.la57) :
 (Driver.translateIoctl registers
  ⟨some (translationRequest directoryTableBase virtualAddress),kTranslateRequestSize,
   kTranslateResponseSize⟩).Exec t
   (NtStatus.success,kTranslateResponseSize.toNat,some response) ∧
  ∃ walk,
   (∀ result,(translateVirtual directoryTableBase virtualAddress s).Exec
    [⟨.translateVirtual (translationRequest directoryTableBase virtualAddress),
     .ok (kTranslateResponseSize,response)⟩] result ↔ result=.ok walk) ∧
   WalkOf response walk ∧ Linked walk := by
 have wellformed := (Driver.translateVirtual_exec ran).1
 have aligned := requestBase_aligned registers wellformed.aligned
 have own : directoryTableBase≠0→Driver.requestBase registers
  (translationRequest directoryTableBase virtualAddress)=directoryTableBase :=
  fun given=>if_neg given
 have reads ranges : Driver.Reads ranges (fun _ _=>True) t := fun _ _ _ _ _=>trivial
 obtain ⟨_,_,_,path,rfl⟩ := Driver.translateVirtual_walk rfl ran reads
 obtain ⟨walk,decoded,agrees⟩ := decodeTranslation_walked directoryTableBase path nonzero aligned
  own
 refine ⟨translateIoctl_ok ran,walk,?_,agrees,?_⟩
 · intro _
   rw [translateVirtual_exec device,mode]
   exact ⟨fun same=>same.trans decoded,fun same=>same.trans decoded.symm⟩
 · have atBase : walk.directoryTableBase=Driver.requestBase registers
    (translationRequest directoryTableBase virtualAddress) :=
    agrees.directoryTableBase.trans (Driver.walkResponse_field (·.directoryTableBase) _ _ _ _ _)
   exact linked_of_wires path aligned atBase
    (agrees.steps.trans (stepList_walked directoryTableBase path))

def sampleRegisters : Driver.ControlRegisters := ⟨0x1000,0,fun _=>0⟩

def sampleReads : List KernelEvent :=
 [⟨.physicalMemoryRanges,some [⟨0x1000,0x10000000⟩]⟩,
  ⟨.copyPhysical 0x1000 8,(0,littleEndian 8 0x2003)⟩,
  ⟨.copyPhysical 0x2000 8,(0,littleEndian 8 0x3003)⟩,
  ⟨.copyPhysical 0x3008 8,(0,littleEndian 8 0x400083)⟩]

lemma sampleTranslation_exec :
 ∃ response,(Driver.translateVirtual sampleRegisters (translationRequest 0 0x200123)).Exec
  sampleReads (.ok response) ∧ response.physicalAddress=0x400123 :=
 ⟨_, .call _ (.call _ (.call _ (.call _ (.ret _)))),rfl⟩

theorem sampleTranslation_agrees :
 ∃ response walk,response.physicalAddress=0x400123 ∧
  (translateVirtual 0 0x200123 { device := true }).Exec
   [⟨.translateVirtual (translationRequest 0 0x200123),
    .ok (kTranslateResponseSize,response)⟩] (.ok walk) ∧
  WalkOf response walk ∧ Linked walk := by
 obtain ⟨response,ran,physical⟩ := sampleTranslation_exec
 obtain ⟨-,walk,client,agrees,linked⟩ :=
  translateVirtual_agreement (s := { device := true }) ran (by decide) rfl rfl
 exact ⟨response,walk,physical,(client _).2 rfl,agrees,linked⟩

end KDbgBackend
end KDbg
