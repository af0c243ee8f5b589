import KDbg.DriverWriteExits
import KDbg.KDbgBackendExits
set_option autoImplicit false
/-! The compare/write transaction across the device: what the driver's handler
answers, and what the client makes of it. -/
namespace KDbg
open Interaction
open Driver (kNoMismatch pageOf firstMismatchOffset firstMismatchOffset_spec wholePage
 FirstDifference)

lemma firstPageMismatch_spec (left right:Page) :
 FirstDifference left right
  (KDbgBackend.firstPageMismatch (List.ofFn left) (List.ofFn right)) := by
 unfold KDbgBackend.firstPageMismatch
 rw [if_neg (by simp)]
 split
 · rename_i offset found
   obtain ⟨lt,differ,least⟩:=List.findIdx?_eq_some_iff_getElem.1 found
   have bound:offset < kPhysicalPageSize:=by simpa using lt
   refine .at ⟨offset,bound⟩ (by simpa using differ) fun j before => ?_
   have earlier:=least j before
   simpa using earlier
 · rename_i none
   refine .none (funext fun i => ?_)
   have mem:(left i,right i)∈(List.ofFn left).zip (List.ofFn right):=by
    refine List.mem_iff_getElem.2 ⟨i,by simp,?_⟩
    simp
   simpa using List.findIdx?_eq_none_iff.1 none _ mem

/-- The client's search for the first difference agrees with the driver's. -/
lemma firstPageMismatch_eq (left right:Page) :
 KDbgBackend.firstPageMismatch (List.ofFn left) (List.ofFn right) =
  firstMismatchOffset left right :=
 (firstMismatchOffset_spec left right).unique (firstPageMismatch_spec left right)

lemma ofFn_pageOf {bytes:List UInt8} (whole:bytes.length=kPhysicalPageSize) :
 List.ofFn (pageOf bytes)=bytes := by
 refine List.ext_getElem (by simp [whole]) fun i _ lt' => ?_
 rw [List.getElem_ofFn,pageOf,List.getD_eq_getElem?_getD,List.getElem?_eq_getElem lt',
  Option.getD_some]

namespace Driver

def TransactionResult.code : TransactionResult→UInt32
 | .applied => KDbgBackend.kPhysicalPageResultApplied
 | .conflict => KDbgBackend.kPhysicalPageResultConflict
 | .failed => KDbgBackend.kPhysicalPageResultFailed

def TransactionResult.outcome : TransactionResult→PhysicalPageCompareWriteOutcome
 | .applied => .applied
 | .conflict => .conflict
 | .failed => .failure

def CompareWriteResponse.wire (response : CompareWriteResponse) :
 Device.WireCompareWriteResponse where
 size := response.size
 result := response.result.code
 physicalAddress := response.physicalAddress
 length := response.length
 transferred := response.transferred
 firstMismatchOffset := response.firstMismatchOffset
 status := response.status
 transactionId := response.transactionId
 readback := response.readback

/-- What the driver reached, in the client's terms. -/
def CompareWriteResponse.reached (response : CompareWriteResponse) :
 PhysicalPageCompareWriteResult where
 outcome := response.result.outcome
 transferred := response.transferred
 firstMismatchOffset := response.firstMismatchOffset
 nativeStatus := response.status
 readback := response.readback

end Driver

section Decoding
open Driver KDbgBackend
variable {physicalAddress transactionId:UInt64} {expectedBefore desired:List UInt8}
 {response:CompareWriteResponse}

/-- A response that belongs to the request and whose fields agree with its result. -/
structure Consistent (physicalAddress transactionId : UInt64)
 (expectedBefore desired : List UInt8) (response : CompareWriteResponse) : Prop where
 size : response.size=kCompareWriteResponseSize
 address : response.physicalAddress=physicalAddress
 length : response.length=UInt32.ofNat kPhysicalPageSize
 transaction : response.transactionId=transactionId
 transferred : response.transferred ≤ UInt32.ofNat kPhysicalPageSize
 applied : response.result=.applied → response.status=.success ∧
  response.transferred=UInt32.ofNat kPhysicalPageSize ∧
  response.firstMismatchOffset=kNoMismatch ∧ List.ofFn response.readback=desired
 conflict : response.result=.conflict → response.status=.revisionMismatch ∧
  response.transferred=0 ∧ response.firstMismatchOffset < UInt32.ofNat kPhysicalPageSize ∧
  response.firstMismatchOffset=firstPageMismatch (List.ofFn response.readback) expectedBefore
 failed : response.result=.failed → response.status≠0 ∧
  response.firstMismatchOffset=firstPageMismatch (List.ofFn response.readback) desired

lemma Consistent.decoded
 (h:Consistent physicalAddress transactionId expectedBefore desired response) :
 decodeTransaction physicalAddress transactionId expectedBefore desired
  kCompareWriteResponseSize response.wire=.ok response.reached := by
 have common : (kCompareWriteResponseSize == kCompareWriteResponseSize &&
  response.wire.size == kCompareWriteResponseSize &&
  response.wire.physicalAddress == physicalAddress &&
  response.wire.length == UInt32.ofNat kPhysicalPageSize &&
  response.wire.transactionId == transactionId &&
  decide (response.wire.transferred ≤ UInt32.ofNat kPhysicalPageSize))=true := by
  simp [CompareWriteResponse.wire,h.size,h.address,h.length,h.transaction,h.transferred]
 unfold decodeTransaction
 rw [common]
 cases result:response.result with
 | applied =>
  have code:response.wire.result=kPhysicalPageResultApplied:=by
   rw [CompareWriteResponse.wire,result]
   rfl
  obtain ⟨status,transferred,offset,readback⟩:=h.applied result
  have fine : ¬(response.wire.status≠kPhysicalPageStatusSuccess ∨
   response.wire.transferred≠UInt32.ofNat kPhysicalPageSize ∨
   response.wire.firstMismatchOffset≠kNoMismatch ∨
   List.ofFn response.wire.readback≠desired) := by
   rintro (bad | bad | bad | bad)
   · exact bad status
   · exact bad transferred
   · exact bad offset
   · exact bad readback
  rw [if_neg (by simp),if_pos code,if_neg fine]
  rw [CompareWriteResponse.reached,result]
  rfl
 | conflict =>
  have code:response.wire.result=kPhysicalPageResultConflict:=by
   rw [CompareWriteResponse.wire,result]
   rfl
  obtain ⟨status,transferred,inside,offset⟩:=h.conflict result
  have fine : ¬(response.wire.status≠kPhysicalPageStatusConflict ∨
   response.wire.transferred≠0 ∨
   UInt32.ofNat kPhysicalPageSize ≤
    firstPageMismatch (List.ofFn response.wire.readback) expectedBefore ∨
   response.wire.firstMismatchOffset ≠
    firstPageMismatch (List.ofFn response.wire.readback) expectedBefore) := by
   rintro (bad | bad | bad | bad)
   · exact bad status
   · exact bad transferred
   · rw [offset] at inside
     exact UInt32.not_le.2 inside bad
   · exact bad offset
  rw [if_neg (by simp),if_neg (by rw [code];decide),if_pos code,if_neg fine]
  rw [CompareWriteResponse.reached,result]
  rfl
 | failed =>
  have code:response.wire.result=kPhysicalPageResultFailed:=by
   rw [CompareWriteResponse.wire,result]
   rfl
  obtain ⟨status,offset⟩:=h.failed result
  have fine : ¬(response.wire.status=0 ∨ response.wire.firstMismatchOffset ≠
   firstPageMismatch (List.ofFn response.wire.readback) desired) := by
   rintro (bad | bad)
   · exact status bad
   · exact bad offset
  rw [if_neg (by simp),if_neg (by rw [code];decide),if_neg (by rw [code];decide),
   if_pos code,if_neg fine]
  rw [CompareWriteResponse.reached,result]
  rfl

lemma wholePage_ok {answer:NtStatus×List UInt8} {page:Page}
 (h:wholePage answer=.ok page) : ntSuccess answer.1=true ∧
  answer.2.length=kPhysicalPageSize ∧ page=pageOf answer.2 := by
 unfold wholePage at h
 split at h
 · cases h
 · rename_i fine
   split at h
   · cases h
   · rename_i whole
     cases h
     exact ⟨by simpa using fine,by simpa using whole,rfl⟩

lemma wholePage_error {answer:NtStatus×List UInt8} {status:NtStatus}
 (h:wholePage answer=.error status) : ntSuccess status=false := by
 unfold wholePage at h
 split at h
 · rename_i fails
   cases h
   simpa using fails
 · split at h
   · cases h
     rfl
   · cases h

lemma pageOf_inj {left right:List UInt8} (whole:left.length=kPhysicalPageSize)
 (whole':right.length=kPhysicalPageSize) (same:pageOf left=pageOf right) :
 left=right := by
 rw [←ofFn_pageOf whole,same,ofFn_pageOf whole']

def pageRead (address : UInt64) (answer : NtStatus×List UInt8) : KernelEvent :=
 ⟨.copyPhysical address (UInt64.ofNat kPhysicalPageSize),answer⟩

/-- What an outcome of the driver tells of the page and of the kernel's calls. -/
structure Reached (physicalAddress : UInt64) (expectedBefore desired : List UInt8)
 (t : List KernelEvent) (response : CompareWriteResponse) : Prop where
 applied : response.result=.applied → ∃ status status' earlier u,
  t=earlier++pageRead physicalAddress (status,expectedBefore) ::
   (u++[pageRead physicalAddress (status',desired)]) ∧ Silent earlier ∧
   ntSuccess status=true ∧ ntSuccess status'=true ∧
   response.transferred=UInt32.ofNat kPhysicalPageSize
 conflict : response.result=.conflict→Silent t ∧ ∃ status current,
  pageRead physicalAddress (status,current)∈t ∧ current.length=kPhysicalPageSize ∧
   ∃ i < kPhysicalPageSize,response.firstMismatchOffset=UInt32.ofNat i ∧
    current[i]?≠expectedBefore[i]? ∧ ∀ j < i,current[j]?=expectedBefore[j]?

lemma PageWrite.written_le {address:UInt64} {data:List UInt8} {t:List KernelEvent}
 {status:NtStatus} {written:ℕ} {stage:PhysicalWriteStage}
 (h:PageWrite address data t status written stage) : written ≤ data.length := by
 cases h with
 | unmapped | faulted => exact Nat.zero_le _
 | written => exact le_rfl

lemma getElem?_pageOf {bytes:List UInt8} (whole:bytes.length=kPhysicalPageSize)
 (i:Fin kPhysicalPageSize) : bytes[(i:ℕ)]?=some (pageOf bytes i) := by
 have lt:(i:ℕ) < bytes.length:=by
  rw [whole]
  exact i.isLt
 rw [pageOf,List.getD_eq_getElem?_getD,
  List.getElem?_eq_getElem lt,Option.getD_some]

lemma conflict_agrees (before:expectedBefore.length=kPhysicalPageSize)
 {earlier:List KernelEvent} (silent:Silent earlier) {answer:NtStatus×List UInt8}
 {current:Page} (read:wholePage answer=.ok current)
 (differs:firstMismatchOffset current (pageOf expectedBefore)≠kNoMismatch)
 (response:CompareWriteResponse)
 (filled:response=fillPhysicalPageTransactionResponse .conflict physicalAddress 0
  (firstMismatchOffset current (pageOf expectedBefore)) .revisionMismatch transactionId
  current) :
 Consistent physicalAddress transactionId expectedBefore desired response ∧
  Reached physicalAddress expectedBefore desired
   (earlier++[pageRead physicalAddress answer]) response := by
 obtain ⟨-,whole,rfl⟩:=wholePage_ok read
 obtain ⟨i,offset,differ,least⟩:=(firstMismatchOffset_spec _ _).least differs
 have none:UInt32.ofNat 0 ≤ UInt32.ofNat kPhysicalPageSize:=by decide
 rw [offset] at filled
 subst filled
 refine ⟨⟨rfl,rfl,rfl,rfl,none,by rintro ⟨⟩,fun _=>⟨rfl,rfl,?_,?_⟩,
  by rintro ⟨⟩⟩,by rintro ⟨⟩,fun _=>⟨?_,answer.1,answer.2,?_,whole,i,i.isLt,rfl,
   ?_,fun j lt => ?_⟩⟩
 · change UInt32.ofNat i < UInt32.ofNat kPhysicalPageSize
   rw [UInt32.lt_iff_toNat_lt,toNat_pageOffset]
   exact i.isLt
 · change UInt32.ofNat i=firstPageMismatch (List.ofFn (pageOf answer.2)) expectedBefore
   rw [←offset,←firstPageMismatch_eq,ofFn_pageOf before]
 · exact (silent_append _ _).2 ⟨silent,by simp [pageRead,KernelCall.isWrite]⟩
 · simp
 · rw [getElem?_pageOf whole,getElem?_pageOf before]
   simpa using differ
 · have inside:j < kPhysicalPageSize:=lt.trans i.isLt
   have same:=least ⟨j,inside⟩ lt
   have left:=getElem?_pageOf whole ⟨j,inside⟩
   have right:=getElem?_pageOf before ⟨j,inside⟩
   exact left.trans ((congrArg some same).trans right.symm)

lemma outcome_agrees (before:expectedBefore.length=kPhysicalPageSize)
 (wanted:desired.length=kPhysicalPageSize)
 {earlier u:List KernelEvent} (silent:Silent earlier)
 {answer again:NtStatus×List UInt8} {current readback:Page}
 (read:wholePage answer=.ok current)
 (same:firstMismatchOffset current (pageOf expectedBefore)=kNoMismatch)
 {writeStatus:NtStatus} {written:ℕ} (most:written ≤ kPhysicalPageSize)
 (back:wholePage again=.ok readback) (response:CompareWriteResponse)
 (filled:response=(compareWriteRequest physicalAddress transactionId expectedBefore
  desired).outcome writeStatus written readback) :
 Consistent physicalAddress transactionId expectedBefore desired response ∧
  Reached physicalAddress expectedBefore desired (earlier ++
   pageRead physicalAddress answer::(u++[pageRead physicalAddress again])) response := by
 obtain ⟨fine,whole,rfl⟩:=wholePage_ok read
 obtain ⟨fine',whole',rfl⟩:=wholePage_ok back
 have compared : answer.2=expectedBefore :=
  pageOf_inj whole before (((firstMismatchOffset_spec _ _).eq_iff).1 same)
 have offset : firstMismatchOffset (pageOf again.2) (pageOf desired) =
  firstPageMismatch (List.ofFn (pageOf again.2)) desired := by
  rw [←firstPageMismatch_eq,ofFn_pageOf wanted]
 have count:UInt32.ofNat written ≤ UInt32.ofNat kPhysicalPageSize:=by
  have small:written < UInt32.size:=most.trans_lt (by decide)
  have value:(UInt32.ofNat written).toNat=written:=UInt32.toNat_ofNat_of_lt small
  rw [UInt32.le_iff_toNat_le,value]
  exact most
 unfold CompareWriteRequest.outcome at filled
 dsimp only [compareWriteRequest] at filled
 split at filled
 · rename_i applied
   simp only [Bool.and_eq_true,beq_iff_eq] at applied
   obtain ⟨⟨-,rfl⟩,none⟩:=applied
   have shown : again.2=desired :=
    pageOf_inj whole' wanted (((firstMismatchOffset_spec _ _).eq_iff).1 none)
   rw [none] at filled
   subst filled
   refine ⟨⟨rfl,rfl,rfl,rfl,UInt32.le_refl _,fun _=>⟨rfl,rfl,rfl,?_⟩,by rintro ⟨⟩,
    by rintro ⟨⟩⟩,fun _=>⟨answer.1,again.1,earlier,u,?_,silent,fine,fine',rfl⟩,
    by rintro ⟨⟩⟩
   · change List.ofFn (pageOf again.2)=desired
     rw [shown,ofFn_pageOf wanted]
   · rw [←compared,←shown]
 · have status :
    (if ntSuccess writeStatus=true then NtStatus.dataError else writeStatus)≠0 := by
    split
    · decide
    · rename_i fails
      rintro rfl
      exact fails rfl
   rw [offset] at filled
   subst filled
   refine ⟨⟨rfl,rfl,rfl,rfl,count,by rintro ⟨⟩,by rintro ⟨⟩,fun _=>⟨status,?_⟩⟩,
    by rintro ⟨⟩,by rintro ⟨⟩⟩
   dsimp only [fillPhysicalPageTransactionResponse]

/-- A request that ends without a response has failed; a response is consistent with the request
 and tells what happened to the page. -/
lemma handler_agrees (before:expectedBefore.length=kPhysicalPageSize)
 (wanted:desired.length=kPhysicalPageSize) {held after:Section} {t:List KernelEvent}
 {completion:Completion}
 (h:(Driver.compareWritePhysicalPage ⟨some (compareWriteRequest physicalAddress transactionId
  expectedBefore desired),kCompareWriteRequestSize,kCompareWriteResponseSize⟩ held).Exec t
   (completion,after)) :
 (completion.output=none ∧ ntSuccess completion.status=false) ∨
  ∃ response,completion.output=some (.transaction response) ∧
   completion.status=.success ∧
   completion.information=kCompareWriteResponseSize.toNat ∧
   Consistent physicalAddress transactionId expectedBefore desired response ∧
   Reached physicalAddress expectedBefore desired t response := by
 have exit:=Driver.compareWritePhysicalPage_exit h
 generalize result : (completion,after)=pair at exit
 cases exit with
 | rejected _ _ fails =>
  cases result
  exact .inl ⟨rfl,fails⟩
 | @attempted _ buffered _ ranges _ _ u outcome section' transaction =>
  cases buffered
  have opening : Silent [(⟨.allocatePool,true⟩ : KernelEvent),
   ⟨.physicalMemoryRanges,some ranges⟩] := by simp [KernelCall.isWrite]
  generalize paired : (outcome,section')=both at transaction
  cases transaction with
  | unread _ _ bad | unverified _ _ _ _ _ _ _ bad =>
   cases paired
   cases result
   exact .inl ⟨rfl,wholePage_error bad⟩
  | conflict _ _ read differs =>
   cases paired
   cases result
   refine .inr ⟨_,rfl,rfl,rfl,?_⟩
   exact conflict_agrees before opening read differs _ rfl
  | verified _ _ _ _ read same write back =>
   cases paired
   cases result
   have most:=write.written_le
   rw [List.length_ofFn] at most
   refine .inr ⟨_,rfl,rfl,rfl,?_⟩
   exact outcome_agrees before wanted opening read same most back _ rfl

/-- `DeviceIoControl` reports a failed request as an error, and returns the buffer of one that
 succeeded. -/
inductive Relayed (completion:Completion) :
 Device.Reply Device.WireCompareWriteResponse→Prop where
 | failed (code:UInt32) (fails:ntSuccess completion.status=false) :
  Relayed completion (.error code)
 | returned (contents:Device.WireCompareWriteResponse)
  (fine:ntSuccess completion.status=true)
  (filled:∀ response,completion.output=some (.transaction response) →
   contents=response.wire) :
  Relayed completion (.ok (UInt32.ofNat completion.information,contents))

/-- Whatever the driver's handler answers to the request that the client sends, the client
 reports exactly the outcome the driver reached. -/
theorem compareWrite_agreement {pid : UInt32} {s s' : Impl}
 {result : Result PhysicalPageCompareWriteResult} {request : CompareWriteRequest}
 {reply : Device.Reply Device.WireCompareWriteResponse} {rest : List DeviceEvent}
 (call : (KDbgBackend.compareWritePhysicalPage pid physicalAddress expectedBefore desired
  s).Exec (⟨.compareWritePhysicalPage request,reply⟩::rest) (result,s'))
 {held after : Section} {t : List KernelEvent} {completion : Completion}
 (handled : (Driver.compareWritePhysicalPage
  ⟨some request,kCompareWriteRequestSize,kCompareWriteResponseSize⟩ held).Exec t
   (completion,after))
 (relayed : Relayed completion reply) :
 (completion.output=none ∧ ∃ error,result=.error error ∧
  (error.code=.accessDenied ∨ error.code=.ioFailure)) ∨
  ∃ response,completion.output=some (.transaction response) ∧
   result=.ok response.reached ∧ rest=[] ∧
   Reached physicalAddress expectedBefore desired t response := by
 have exit := KDbgBackend.compareWritePhysicalPage_exit call
 generalize trace : (⟨.compareWritePhysicalPage request,reply⟩ : DeviceEvent)::rest=events
  at exit
 cases exit with
 | refused => cases trace
 | unsent _ _ forced =>
  have calls := forced.calls ⟨.compareWritePhysicalPage request,reply⟩ (by simp [← trace])
  rcases calls with same | same <;> cases same
 | sent armed attached aligned before wanted transactionId positive reply' locked unarmed failed
  decoded =>
  obtain ⟨head,rfl⟩ := List.cons.inj trace
  cases head
  rcases handler_agrees before wanted handled with ⟨none,fails⟩ |
   ⟨response,output,success,information,consistent,reached⟩
  · cases relayed with
    | failed code =>
     obtain ⟨closed,rfl⟩ := failed code rfl
     refine .inl ⟨none,_,rfl,?_⟩
     cases closed <;> dsimp only [withCleanup,makeError] <;> split <;> simp
    | returned _ fine => cases fails.symm.trans fine
  · refine .inr ⟨response,output,?_⟩
    cases relayed with
    | failed _ fails =>
     rw [success] at fails
     cases fails
    | returned _ _ filled =>
     rw [filled response output,information] at decoded
     obtain ⟨empty,ok⟩ := decoded _ _ rfl _ consistent.decoded
     exact ⟨ok,empty,reached⟩

end Decoding

section Sample
open Driver KDbgBackend

def samplePage (byte : UInt8) : List UInt8 := List.replicate kPhysicalPageSize byte

lemma samplePage_length (byte:UInt8) : (samplePage byte).length=kPhysicalPageSize :=
 List.length_replicate

lemma samplePage_whole (byte:UInt8) :
 wholePage (.success,samplePage byte)=.ok (pageOf (samplePage byte)) := by
 rw [wholePage,if_neg (by simp [ntSuccess,NtStatus.success]),
  if_neg (by simp [samplePage_length])]

lemma pageRead_exec {ranges:List PhysicalMemoryRange} {address:UInt64}
 (answer:NtStatus×List UInt8)
 (ram:isPhysicalRamRange ranges address (UInt64.ofNat kPhysicalPageSize)=true) :
 (readPhysicalWithSnapshot ranges address (UInt64.ofNat kPhysicalPageSize)).Exec
  [pageRead address answer] answer := by
 rw [readPhysicalWithSnapshot,if_neg (by decide),if_neg (by simp [ram])]
 exact .call _ (.ret _)

def sampleRanges : List PhysicalMemoryRange := [⟨0x1000,0x2000⟩]

lemma sampleRanges_ram :
 isPhysicalRamRange sampleRanges 0x1000 (UInt64.ofNat kPhysicalPageSize)=true := by decide

def sampleRequest : CompareWriteRequest :=
 compareWriteRequest 0x1000 1 (samplePage 0) (samplePage 7)

def sampleStore : List KernelEvent :=
 [⟨.mapIoSpace 0x1000 kPhysicalPageSize,true⟩,⟨.writeMapping 0x1000 (samplePage 7),none⟩]

lemma sampleTransact_exec (held:Section) : ∃ after,
 (transact sampleRanges sampleRequest held).Exec
  (pageRead 0x1000 (.success,samplePage 0) ::
   (sampleStore++[pageRead 0x1000 (.success,samplePage 7)]))
  ({ status := .success,written := kPhysicalPageSize,
     response := some (sampleRequest.outcome .success kPhysicalPageSize
      (pageOf (samplePage 7))) },after) := by
 have same : firstMismatchOffset (pageOf (samplePage 0)) sampleRequest.expectedBefore =
  kNoMismatch := ((firstMismatchOffset_spec _ _).eq_iff).2 rfl
 have stores (statistics:Statistics) :
  (writeValidatedPhysicalRange 0x1000 (samplePage 7) (UInt64.ofNat kPhysicalPageSize)
   statistics).Exec sampleStore ((.success,kPhysicalPageSize),
    statistics.setPhysicalWriteStage .copying) := by
  have written:=writeValidatedPhysicalRange_stores statistics
   (show isPageBounded 0x1000 (UInt64.ofNat kPhysicalPageSize)=true by decide)
   (by decide) (samplePage_length 7)
  rwa [samplePage_length] at written
 have image:List.ofFn sampleRequest.desired=samplePage 7:=ofFn_pageOf (samplePage_length 7)
 refine ⟨?after,(Prog.exec_bind _ _ _ _).2 ⟨[_],_,_,rfl,
  pageRead_exec (.success,samplePage 0) sampleRanges_ram,?exec⟩⟩
 case exec =>
 rw [samplePage_whole]
 dsimp only
 rw [if_neg (not_not.2 same),image]
 refine (Prog.exec_bind _ _ _ _).2 ⟨sampleStore,_,_,rfl,stores _,?_⟩
 refine (Prog.exec_bind _ _ _ _).2 ⟨[_],_,[],rfl,
  pageRead_exec (.success,samplePage 7) sampleRanges_ram,?_⟩
 rw [samplePage_whole]
 exact .ret _

def sampleResponse : CompareWriteResponse :=
 sampleRequest.outcome .success kPhysicalPageSize (pageOf (samplePage 7))

def sampleTrace : List KernelEvent :=
 ⟨.allocatePool,true⟩::⟨.physicalMemoryRanges,some sampleRanges⟩ ::
  pageRead 0x1000 (.success,samplePage 0) ::
   (sampleStore++[pageRead 0x1000 (.success,samplePage 7)])

lemma sampleHandler_exec : ∃ after,
 (Driver.compareWritePhysicalPage
  ⟨some sampleRequest,kCompareWriteRequestSize,kCompareWriteResponseSize⟩ ⟨true,{}⟩).Exec
  sampleTrace (⟨.success,kCompareWriteResponseSize.toNat,
   some (.transaction sampleResponse)⟩,after) := by
 obtain ⟨after,transacts⟩:=sampleTransact_exec
  ((Section.mk true {}).setPhysicalWriteStage .validation |>.setPhysicalWriteResult .pending 0
   |>.closeGate)
 refine ⟨if sampleResponse.result≠.applied then after.countRejected else after,
  .call _ (.call _ ?_)⟩
 change Prog.Exec (transact sampleRanges sampleRequest _ >>= _) _ _
 refine (Prog.exec_bind _ _ _ _).2 ⟨_,_,[],(List.append_nil _).symm,transacts,?_⟩
 exact .ret (completeCompareWrite _ after)

lemma accepted_exec {pid:UInt32} {physicalAddress:UInt64} {expectedBefore desired:List UInt8}
 {s:Impl} {response:CompareWriteResponse} (armed:s.writeEnabled=true)
 (attached:s.device=true) (aligned:physicalAddress &&& 0xFFF=0)
 (before:expectedBefore.length=kPhysicalPageSize)
 (wanted:desired.length=kPhysicalPageSize)
 (consistent:Consistent physicalAddress (takeTransactionId s.nextTransactionId).1
  expectedBefore desired response) :
 (KDbgBackend.compareWritePhysicalPage pid physicalAddress expectedBefore desired s).Exec
  [⟨.compareWritePhysicalPage (compareWriteRequest physicalAddress
   (takeTransactionId s.nextTransactionId).1 expectedBefore desired),
   .ok (kCompareWriteResponseSize,response.wire)⟩]
  (.ok response.reached,{ s with
   writeEnabled := false
   nextTransactionId := (takeTransactionId s.nextTransactionId).2 }) := by
 unfold KDbgBackend.compareWritePhysicalPage Impl.ioctl
 rw [if_neg (by simp [armed]),if_neg (by simp [aligned,before,wanted])]
 dsimp only
 rw [if_neg (by simp [attached])]
 refine .call _ ?_
 simp only [Prog.bind,pure,consistent.decoded]
 exact .ret _

def sampleClient : Impl :=
 { device := true,connected := true,writeEnabled := true,maxTransfer := 0x100000 }

lemma sampleConsistent : Consistent 0x1000 1 (samplePage 0) (samplePage 7) sampleResponse := by
 have same : firstMismatchOffset (pageOf (samplePage 0)) (pageOf (samplePage 0))=kNoMismatch :=
  ((firstMismatchOffset_spec _ _).eq_iff).2 rfl
 exact (outcome_agrees (samplePage_length 0) (samplePage_length 7) silent_nil (samplePage_whole 0)
  same le_rfl (samplePage_whole 7) sampleResponse rfl (u := [])).1

lemma sampleCall_exec : ∃ s',(KDbgBackend.compareWritePhysicalPage 4 0x1000 (samplePage 0)
 (samplePage 7) sampleClient).Exec
  [⟨.compareWritePhysicalPage sampleRequest,
   .ok (kCompareWriteResponseSize,sampleResponse.wire)⟩] (.ok sampleResponse.reached,s') :=
 ⟨_,accepted_exec rfl rfl (by decide) (samplePage_length 0) (samplePage_length 7)
  sampleConsistent⟩

theorem sampleCall_agrees :
 Reached 0x1000 (samplePage 0) (samplePage 7) sampleTrace sampleResponse := by
 obtain ⟨_,handled⟩ := sampleHandler_exec
 obtain ⟨_,call⟩ := sampleCall_exec
 rcases compareWrite_agreement call handled (.returned _ rfl (by rintro _ ⟨⟩; rfl)) with
  ⟨absent,-⟩ | ⟨_,output,-,-,reached⟩
 · cases absent
 · cases output
   exact reached

end Sample

end KDbg
