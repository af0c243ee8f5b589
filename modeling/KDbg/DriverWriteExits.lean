import KDbg.DriverWriteRequests
set_option autoImplicit false
/-! Every way out of the four write-class requests, and what all of them do to the gate. -/
namespace KDbg.Driver
open Interaction

/-- `offset` is the first at which the pages differ, or the mark of equal pages. -/
inductive FirstDifference (left right:Page) : UInt32→Prop where
 | none (same:left=right) : FirstDifference left right kNoMismatch
 | at (i:Fin kPhysicalPageSize) (differ:left i≠right i)
  (least:∀ j < i,left j=right j) : FirstDifference left right (UInt32.ofNat i)

lemma toNat_pageOffset (i:Fin kPhysicalPageSize) : (UInt32.ofNat i).toNat=i := by
 have lt:(i:ℕ) < UInt32.size:=i.isLt.trans (by decide)
 exact UInt32.toNat_ofNat_of_lt lt

lemma pageOffset_ne_noMismatch (i:Fin kPhysicalPageSize) : UInt32.ofNat i≠kNoMismatch := by
 intro same
 have lt:(i:ℕ)<4096:=i.isLt
 have value:=congrArg UInt32.toNat same
 rw [toNat_pageOffset] at value
 have top:kNoMismatch.toNat=4294967295:=rfl
 omega

lemma FirstDifference.unique {left right:Page} {o o':UInt32}
 (first:FirstDifference left right o) (second:FirstDifference left right o') : o'=o := by
 cases first with
 | none same =>
  cases second with
  | none => rfl
  | «at» i differ least => exact absurd (congrFun same i) differ
 | «at» i differ least =>
  cases second with
  | none same => exact absurd (congrFun same i) differ
  | «at» j differ' least' =>
   rcases lt_trichotomy i j with lt|eq|gt
   · exact absurd (least' i lt) differ
   · rw [eq]
   · exact absurd (least j gt) differ'

lemma FirstDifference.eq_iff {left right:Page} {o:UInt32}
 (h:FirstDifference left right o) : o=kNoMismatch ↔ left=right := by
 cases h with
 | none same => exact ⟨fun _=>same,fun _=>rfl⟩
 | «at» i differ least =>
  exact ⟨fun mark=>absurd mark (pageOffset_ne_noMismatch i),
   fun same=>absurd (congrFun same i) differ⟩

lemma FirstDifference.least {left right:Page} {o:UInt32} (h:FirstDifference left right o)
 (differs:o≠kNoMismatch) : ∃ i : Fin kPhysicalPageSize,o=UInt32.ofNat i ∧
  left i≠right i ∧ ∀j < i,left j=right j := by
 cases h with
 | none => exact absurd rfl differs
 | «at» i differ least => exact ⟨i,rfl,differ,least⟩

lemma firstMismatchOffset_spec (left right:Page) :
 FirstDifference left right (firstMismatchOffset left right) := by
 unfold firstMismatchOffset
 split
 · rename_i none
   refine .none (funext fun i => ?_)
   have equal:=List.find?_eq_none.1 none i (List.mem_finRange i)
   simpa using equal
 · rename_i i found
   obtain ⟨differ,k,_,here,least⟩:=List.find?_eq_some_iff_getElem.1 found
   refine .at i (by simpa using differ) fun j before => ?_
   have position:k=i:=by
    rw [←here,List.getElem_finRange]
    rfl
   have earlier:=least j (by rw [position];exact before)
   simpa using earlier

lemma checkedAddUlong_eq_some {left right total:UInt32}
 (h:checkedAddUlong left right=some total) : total.toNat=left.toNat+right.toNat := by
 unfold checkedAddUlong at h
 split at h
 · cases h
 · rename_i fits
   cases h
   have bound:=UInt32.le_iff_toNat_le.1 (UInt32.not_lt.1 fits)
   have top:(0xFFFFFFFF : UInt32).toNat=2^32-1:=rfl
   have small:=right.toNat_lt
   rw [UInt32.toNat_sub_of_le _ _ (UInt32.le_iff_toNat_le.2 (by omega))] at bound
   rw [UInt32.toNat_add,Nat.mod_eq_of_lt (by omega)]

/-- The data of an accepted packet are exactly the bytes its length announces. -/
lemma DataIrp.data_length {ρ:Type} {header:UInt32} {data:ρ→List UInt8}
 (irp:DataIrp ρ header data) {request:ρ} {length:UInt32}
 (held:irp.buffer=some request)
 (total:checkedAddUlong header length=some irp.inputLength) :
 (data request).length=length.toUInt64.toNat := by
 have sum:=checkedAddUlong_eq_some total
 have fits:header ≤ irp.inputLength:=UInt32.le_iff_toNat_le.2 (by omega)
 have carried:=irp.carried request held fits
 rw [UInt32.toNat_toUInt64]
 omega

lemma PhysicalWriteRequest.of_isWellFormed {request:PhysicalWriteRequest}
 {inputLength:UInt32} (h:request.isWellFormed inputLength=true) :
 checkedAddUlong kPhysicalWriteHeader request.length=some inputLength ∧
  request.length.toUInt64.toNat ≤ kMaxTransferSize ∧
  isPageBounded request.physicalAddress request.length.toUInt64=true := by
 unfold isWellFormed at h
 split at h
 · simp at h
 · rename_i total found
   simp only [Bool.and_eq_true,beq_iff_eq,decide_eq_true_eq] at h
   obtain ⟨-,⟨⟨-,_⟩,rfl⟩,bounded⟩:=h
   exact ⟨found,by rwa [UInt32.toNat_toUInt64],bounded⟩

variable {highestUser:UInt64}

lemma ProcessMemoryRequest.of_isWellFormed {request:ProcessMemoryRequest} {inputLength:UInt32}
 (h:request.isWellFormed highestUser inputLength=true) :
 checkedAddUlong kProcessMemoryHeader request.length=some inputLength := by
 unfold isWellFormed at h
 split at h
 · simp at h
 · rename_i total found
   simp only [Bool.and_eq_true,beq_iff_eq] at h
   rw [h.2.2]
   exact found

def Silent (t : List KernelEvent) : Prop := ∀ event∈t,event.call.isWrite=false

@[simp] lemma silent_nil : Silent [] := by simp [Silent]

@[simp] lemma silent_cons (event:KernelEvent) (t:List KernelEvent) :
 Silent (event::t) ↔ event.call.isWrite=false ∧ Silent t := by
 simp [Silent]

@[simp] lemma silent_append (t u:List KernelEvent) :
 Silent (t++u) ↔ Silent t ∧ Silent u := by
 simp only [Silent,List.mem_append,or_imp,forall_and]

namespace Section

/-- What a physical write leaves in the counters before its first check. -/
def validating (s : Section) : Section :=
 (s.setPhysicalWriteStage .validation).setPhysicalWriteResult .pending 0

@[simp] lemma setPhysicalWriteStage_writeEnabled (s:Section) (stage:PhysicalWriteStage) :
 (s.setPhysicalWriteStage stage).writeEnabled=s.writeEnabled := rfl

@[simp] lemma setPhysicalWriteResult_writeEnabled (s:Section) (status:NtStatus)
 (transferred:ℕ) : (s.setPhysicalWriteResult status transferred).writeEnabled =
  s.writeEnabled := rfl

@[simp] lemma countRejected_writeEnabled (s:Section) :
 s.countRejected.writeEnabled=s.writeEnabled := rfl

@[simp] lemma countSuccessful_writeEnabled (s:Section) :
 s.countSuccessful.writeEnabled=s.writeEnabled := rfl

@[simp] lemma closeGate_writeEnabled (s:Section) : s.closeGate.writeEnabled=false := rfl

@[simp] lemma validating_writeEnabled (s:Section) :
 s.validating.writeEnabled=s.writeEnabled := rfl

lemma countRejected_of_closed {s:Section} (closed:s.writeEnabled=false) :
 s.countRejected=s.closeGate.countRejected := by
 obtain ⟨_,_⟩:=s
 cases closed
 rfl

end Section

lemma setWriteMode_cases (irp:Irp WriteModeRequest) (s:Section) :
 (∃ status,status≠NtStatus.success ∧ setWriteMode irp s=s.reject status) ∨
  ∃ request,irp.buffer=some request ∧ setWriteMode irp s =
   ({ status := .success },{ s with writeEnabled := request.enableWrite != 0 }) := by
 unfold setWriteMode
 split
 · exact .inl ⟨.bufferTooSmall,by decide,rfl⟩
 · rename_i request held
   split
   · exact .inl ⟨.bufferTooSmall,by decide,rfl⟩
   · split
     · exact .inl ⟨.accessDenied,by decide,rfl⟩
     · exact .inr ⟨request,held,rfl⟩

inductive WritePhysicalExit (irp:PhysicalWriteIrp) (s:Section) :
 List KernelEvent → Completion×Section→Prop where
 | rejected {t:List KernelEvent} (silent:Silent t) (status:NtStatus) :
  WritePhysicalExit irp s t (s.validating.rejectPhysical status)
 | attempted (request:PhysicalWriteRequest) (held:irp.buffer=some request)
  (wellFormed:request.isWellFormed irp.inputLength=true)
  (ranges:List PhysicalMemoryRange)
  (ram:isPhysicalRamRange ranges request.physicalAddress request.length.toUInt64=true)
  (armed:s.writeEnabled=true) {u:List KernelEvent} {status:NtStatus} {written:ℕ}
  {stage:PhysicalWriteStage}
  (write:PageWrite request.physicalAddress request.data u status written stage) :
  WritePhysicalExit irp s (⟨.physicalMemoryRanges,some ranges⟩::u)
   (completeWritePhysical request status written
    (s.validating.closeGate.setPhysicalWriteStage stage))

variable {s:Section} {t:List KernelEvent} {result:Completion×Section}

lemma writePhysical_exit {irp:PhysicalWriteIrp} (h:(writePhysical irp s).Exec t result) :
 WritePhysicalExit irp s t result := by
 unfold writePhysical at h
 split at h
 · obtain ⟨rfl,rfl⟩:=h.of_pure
   exact .rejected silent_nil _
 · rename_i request held
   rcases h.of_guard with ⟨-,rfl,rfl⟩|⟨-,sized⟩
   · exact .rejected silent_nil _
   rcases sized.of_guard with ⟨-,rfl,rfl⟩|⟨wellFormed,checked⟩
   · exact .rejected silent_nil _
   rcases checked.of_guard with ⟨-,rfl,rfl⟩|⟨-,acknowledged⟩
   · exact .rejected silent_nil _
   obtain ⟨answer,u,rfl,hu⟩:=acknowledged.of_ask
   cases answer with
   | none =>
    obtain ⟨rfl,rfl⟩:=hu.of_pure
    exact .rejected (by simp [KernelCall.isWrite]) _
   | some ranges =>
    rcases hu.of_guard with ⟨-,rfl,rfl⟩|⟨ram,located⟩
    · exact .rejected (by simp [KernelCall.isWrite]) _
    rcases located.of_guard with ⟨unarmed,rfl,rfl⟩|⟨armed,writing⟩
    · have closed:s.validating.writeEnabled=false:=by simpa using unarmed
      change WritePhysicalExit irp s _ (_,s.validating.countRejected.setPhysicalWriteResult _ _)
      rw [Section.countRejected_of_closed closed]
      exact .rejected (by simp [KernelCall.isWrite]) .accessDenied
    obtain ⟨v,⟨⟨_,_⟩,_⟩,w,rfl,hv,hw⟩ :=
     writing.of_bind
    obtain ⟨rfl,rfl⟩:=hw.of_pure
    replace wellFormed : request.isWellFormed irp.inputLength=true := by simpa using wellFormed
    obtain ⟨total,small,bounded⟩:=PhysicalWriteRequest.of_isWellFormed wellFormed
    obtain ⟨_,rfl,write⟩:=writeValidatedPhysicalRange_exec bounded small
     (irp.data_length held total) hv
    rw [List.append_nil]
    exact .attempted request held wellFormed ranges (by simpa using ram) (by simpa using armed)
     write

inductive TransactExit (ranges:List PhysicalMemoryRange) (request:CompareWriteRequest)
 (s:Section) : List KernelEvent→Transaction×Section→Prop where
 | unread (answer:NtStatus×List UInt8) (status:NtStatus)
  (bad:wholePage answer=.error status) : TransactExit ranges request s
   [⟨.copyPhysical request.physicalAddress (UInt64.ofNat kPhysicalPageSize),answer⟩]
   ({ status },s.setPhysicalWriteStage .comparing)
 | conflict (answer:NtStatus×List UInt8) (current:Page)
  (read:wholePage answer=.ok current)
  (differs:firstMismatchOffset current request.expectedBefore≠kNoMismatch) :
  TransactExit ranges request s
   [⟨.copyPhysical request.physicalAddress (UInt64.ofNat kPhysicalPageSize),answer⟩]
   ({ status := .success,response := some (fillPhysicalPageTransactionResponse .conflict
    request.physicalAddress 0 (firstMismatchOffset current request.expectedBefore)
    .revisionMismatch request.transactionId current) },
    (s.setPhysicalWriteStage .comparing).setPhysicalWriteResult .revisionMismatch 0)
 | unverified (answer again:NtStatus×List UInt8) (current:Page)
  (read:wholePage answer=.ok current)
  (same:firstMismatchOffset current request.expectedBefore=kNoMismatch)
  {u:List KernelEvent} {writeStatus:NtStatus} {written:ℕ} {stage:PhysicalWriteStage}
  (write:PageWrite request.physicalAddress (List.ofFn request.desired) u writeStatus written
   stage) (status:NtStatus) (bad:wholePage again=.error status) :
  TransactExit ranges request s
   (⟨.copyPhysical request.physicalAddress (UInt64.ofNat kPhysicalPageSize),answer⟩ ::
    (u ++
     [⟨.copyPhysical request.physicalAddress (UInt64.ofNat kPhysicalPageSize),again⟩]))
   ({ status,written },s.setPhysicalWriteStage .readback)
 | verified (answer again:NtStatus×List UInt8) (current readback:Page)
  (read:wholePage answer=.ok current)
  (same:firstMismatchOffset current request.expectedBefore=kNoMismatch)
  {u:List KernelEvent} {writeStatus:NtStatus} {written:ℕ} {stage:PhysicalWriteStage}
  (write:PageWrite request.physicalAddress (List.ofFn request.desired) u writeStatus written
   stage) (back:wholePage again=.ok readback) :
  TransactExit ranges request s
   (⟨.copyPhysical request.physicalAddress (UInt64.ofNat kPhysicalPageSize),answer⟩ ::
    (u ++
     [⟨.copyPhysical request.physicalAddress (UInt64.ofNat kPhysicalPageSize),again⟩]))
   ({ status := .success,response := some (request.outcome writeStatus written readback),
      written },
    if (request.outcome writeStatus written readback).result=.applied then
     (((s.setPhysicalWriteStage .readback).setPhysicalWriteResult
      (request.outcome writeStatus written readback).status written).setPhysicalWriteStage
       .complete).countSuccessful
    else (s.setPhysicalWriteStage .readback).setPhysicalWriteResult
     (request.outcome writeStatus written readback).status written)

variable {ranges:List PhysicalMemoryRange}

lemma isPageBounded_of_aligned {address:UInt64} (aligned:address &&& 0xFFF=0)
 (ram:isPhysicalRamRange ranges address (UInt64.ofNat kPhysicalPageSize)=true) :
 isPageBounded address (UInt64.ofNat kPhysicalPageSize)=true := by
 unfold isPhysicalRamRange at ram
 split at ram
 · cases ram
 · rename_i endExclusive found
   have offset:address.toNat%4096=0:=by
    rw [←toNat_and_offset,aligned]
    rfl
   have size:(UInt64.ofNat kPhysicalPageSize).toNat=4096:=rfl
   rw [isPageBounded_iff found,InOnePage]
   omega

lemma CompareWriteRequest.aligned_of_isWellFormed {request:CompareWriteRequest}
 (h:request.isWellFormed=true) : request.physicalAddress &&& 0xFFF=0 := by
 simp only [isWellFormed,Bool.and_eq_true,beq_iff_eq] at h
 exact h.2

lemma readPage_exec {address:UInt64} {answer:NtStatus×List UInt8}
 (ram:isPhysicalRamRange ranges address (UInt64.ofNat kPhysicalPageSize)=true)
 (h:(readPhysicalWithSnapshot ranges address (UInt64.ofNat kPhysicalPageSize)).Exec t answer) :
 t=[⟨.copyPhysical address (UInt64.ofNat kPhysicalPageSize),answer⟩] := by
 rw [readPhysicalWithSnapshot,if_neg (by decide),if_neg (by simp [ram])] at h
 obtain ⟨_,u,rfl,hu⟩:=h.of_call
 obtain ⟨rfl,rfl⟩:=hu.of_ret
 rfl

lemma transact_exit {request:CompareWriteRequest} {result:Transaction×Section}
 (bounded:isPageBounded request.physicalAddress (UInt64.ofNat kPhysicalPageSize)=true)
 (ram:isPhysicalRamRange ranges request.physicalAddress
  (UInt64.ofNat kPhysicalPageSize)=true) (h:(transact ranges request s).Exec t result) :
 TransactExit ranges request s t result := by
 obtain ⟨u,answer,v,rfl,hu,hv⟩:=h.of_bind
 rw [readPage_exec ram hu]
 split at hv
 · rename_i status bad
   obtain ⟨rfl,rfl⟩:=hv.of_pure
   exact .unread answer status bad
 · rename_i current read
   rcases hv.of_guard with ⟨differs,rfl,rfl⟩|⟨same,writing⟩
   · exact .conflict answer current read differs
   obtain ⟨w,⟨⟨_,_⟩,_⟩,x,rfl,hw,hx⟩ :=
    writing.of_bind
   obtain ⟨_,rfl,write⟩:=writeValidatedPhysicalRange_exec bounded (by decide)
    (by simp;rfl) hw
   obtain ⟨y,again,z,rfl,hy,hz⟩:=hx.of_bind
   rw [readPage_exec ram hy]
   split at hz
   · rename_i status bad
     obtain ⟨rfl,rfl⟩:=hz.of_pure
     exact .unverified answer again current read (not_not.1 same) write status bad
   · rename_i readback back
     obtain ⟨rfl,rfl⟩:=hz.of_pure
     exact .verified answer again current readback read (not_not.1 same) write back

inductive CompareWriteExit (irp:Irp CompareWriteRequest) (s:Section) :
 List KernelEvent → Completion×Section→Prop where
 | rejected {t:List KernelEvent} (silent:Silent t) (status:NtStatus)
  (fails:ntSuccess status=false) :
  CompareWriteExit irp s t (s.validating.rejectPhysical status)
 | attempted (request:CompareWriteRequest) (held:irp.buffer=some request)
  (wellFormed:request.isWellFormed=true) (ranges:List PhysicalMemoryRange)
  (ram:isPhysicalRamRange ranges request.physicalAddress
   (UInt64.ofNat kPhysicalPageSize)=true)
  (armed:s.writeEnabled=true) {u:List KernelEvent} {outcome:Transaction}
  {after:Section}
  (transaction:TransactExit ranges request s.validating.closeGate u (outcome,after)) :
  CompareWriteExit irp s
   (⟨.allocatePool,true⟩::⟨.physicalMemoryRanges,some ranges⟩::u)
   (completeCompareWrite outcome after)

lemma compareWritePhysicalPage_exit {irp:Irp CompareWriteRequest}
 (h:(compareWritePhysicalPage irp s).Exec t result) : CompareWriteExit irp s t result := by
 unfold compareWritePhysicalPage at h
 split at h
 · obtain ⟨rfl,rfl⟩:=h.of_pure
   exact .rejected silent_nil _ (by decide)
 · rename_i request held
   rcases h.of_guard with ⟨-,rfl,rfl⟩|⟨-,sized⟩
   · exact .rejected silent_nil _ (by decide)
   rcases sized.of_guard with ⟨-,rfl,rfl⟩|⟨wellFormed,checked⟩
   · exact .rejected silent_nil _ (by decide)
   rcases checked.of_guard with ⟨-,rfl,rfl⟩|⟨-,acknowledged⟩
   · exact .rejected silent_nil _ (by decide)
   obtain ⟨allocated,u,rfl,hu⟩:=acknowledged.of_ask
   cases allocated with
   | false =>
    obtain ⟨rfl,rfl⟩:=hu.of_pure
    exact .rejected (by simp [KernelCall.isWrite]) _ (by decide)
   | true =>
    obtain ⟨answer,v,rfl,hv⟩:=hu.of_ask
    cases answer with
    | none =>
     obtain ⟨rfl,rfl⟩:=hv.of_pure
     exact .rejected (by simp [KernelCall.isWrite]) _ (by decide)
    | some ranges =>
     rcases hv.of_guard with ⟨-,rfl,rfl⟩|⟨ram,located⟩
     · exact .rejected (by simp [KernelCall.isWrite]) _ (by decide)
     rcases located.of_guard with ⟨unarmed,rfl,rfl⟩|⟨armed,writing⟩
     · have closed:s.validating.writeEnabled=false:=by simpa using unarmed
       change CompareWriteExit irp s _ (_,s.validating.countRejected.setPhysicalWriteResult _ _)
       rw [Section.countRejected_of_closed closed]
       exact .rejected (by simp [KernelCall.isWrite]) .accessDenied (by decide)
     obtain ⟨w,⟨_,_⟩,x,rfl,hw,hx⟩:=writing.of_bind
     obtain ⟨rfl,rfl⟩:=hx.of_pure
     replace ram : isPhysicalRamRange ranges request.physicalAddress
      (UInt64.ofNat kPhysicalPageSize)=true := by simpa using ram
     replace wellFormed : request.isWellFormed=true := by simpa using wellFormed
     rw [List.append_nil]
     exact .attempted request held wellFormed ranges ram (by simpa using armed)
      (transact_exit (isPageBounded_of_aligned
       (CompareWriteRequest.aligned_of_isWellFormed wellFormed) ram) ram hw)

inductive WriteProcessExit (irp:ProcessWriteIrp) (s:Section) :
 List KernelEvent → Completion×Section→Prop where
 | rejected {t:List KernelEvent} (silent:Silent t) (status:NtStatus) :
  WriteProcessExit irp s t (s.reject status)
 | attempted (request:ProcessMemoryRequest) (held:irp.buffer=some request)
  (armed:s.writeEnabled=true) (found:NtStatus) (process:UInt64)
  {u:List KernelEvent} {status:NtStatus} {copied:ℕ}
  (write:ProcessWrite process request.virtualAddress request.data u status copied) :
  WriteProcessExit irp s (⟨.lookupProcess request.processId,(found,process)⟩::u)
   (completeWriteProcess request status copied s.closeGate)

lemma writeProcess_exit {irp:ProcessWriteIrp}
 (h:(writeProcess highestUser irp s).Exec t result) : WriteProcessExit irp s t result := by
 unfold writeProcess at h
 split at h
 · obtain ⟨rfl,rfl⟩:=h.of_pure
   exact .rejected silent_nil _
 · rename_i request held
   rcases h.of_guard with ⟨-,rfl,rfl⟩|⟨-,sized⟩
   · exact .rejected silent_nil _
   rcases sized.of_guard with ⟨-,rfl,rfl⟩|⟨wellFormed,checked⟩
   · exact .rejected silent_nil _
   rcases checked.of_guard with ⟨-,rfl,rfl⟩|⟨-,acknowledged⟩
   · exact .rejected silent_nil _
   obtain ⟨⟨found,process⟩,u,rfl,hu⟩:=acknowledged.of_ask
   rcases hu.of_guard with ⟨-,rfl,rfl⟩|⟨-,referenced⟩
   · exact .rejected (by simp [KernelCall.isWrite]) _
   rcases referenced.of_guard with ⟨unarmed,rfl,rfl⟩|⟨armed,writing⟩
   · rw [Section.countRejected_of_closed (by simpa using unarmed)]
     exact .rejected (by simp [KernelCall.isWrite]) .accessDenied
   obtain ⟨v,⟨_,_⟩,w,rfl,hv,hw⟩:=writing.of_bind
   obtain ⟨rfl,rfl⟩:=hw.of_pure
   have total:=ProcessMemoryRequest.of_isWellFormed (by simpa using wellFormed)
   rw [List.append_nil]
   exact .attempted request held (by simpa using armed) found process
    (writeProcessMemory_exec (irp.data_length held total) hv)

/-- The bytes lie inside one page and inside one range that the kernel reported in the trace. -/
def InReportedPage (t : List KernelEvent) (address length : ℕ) : Prop :=
 InOnePage address length ∧ ∃ ranges,⟨.physicalMemoryRanges,some ranges⟩∈t ∧
  ∃ range∈reportedRanges ranges,range.Covers address length

/-- A section that consumes the gate or finds it closed: it ends closed, it stores into memory
 only if it began open, and physical memory only inside a reported page. -/
structure Gated (s : Section) (t : List KernelEvent) (s' : Section) : Prop where
 closed : s'.writeEnabled=false
 armed : ¬ Silent t → s.writeEnabled=true
 inside : ∀ event∈t,∀ address data,event.call=.writeMapping address data →
  InReportedPage t address.toNat data.length

lemma Gated.of_silent {s':Section} (silent:Silent t) (closed:s'.writeEnabled=false) :
 Gated s t s' := by
 refine ⟨closed,fun loud=>absurd silent loud,fun event mem _ _ same => ?_⟩
 have quiet:=silent event mem
 rw [same] at quiet
 cases quiet

/-- The only physical stores of the section are those of one page write. -/
lemma Gated.of_pageWrite {s':Section} {u v w:List KernelEvent} {address:UInt64}
 {length:UInt64} {data:List UInt8} {status:NtStatus} {written:ℕ}
 {stage:PhysicalWriteStage} (write:PageWrite address data u status written stage)
 (split:t=v++(u++w)) (before:Silent v) (after:Silent w)
 (reported:⟨.physicalMemoryRanges,some ranges⟩∈v)
 (bounded:isPageBounded address length=true) (size:data.length=length.toNat)
 (ram:isPhysicalRamRange ranges address length=true) (armed:s.writeEnabled=true)
 (closed:s'.writeEnabled=false) : Gated s t s' := by
 refine ⟨closed,fun _=>armed,fun event mem _ _ same => ?_⟩
 have loud:event.call.isWrite=true:=by rw [same];rfl
 have inside:event∈u:=by
  rw [split,List.mem_append,List.mem_append] at mem
  rcases mem with mem|mem|mem
  · simp [before event mem] at loud
  · exact mem
  · simp [after event mem] at loud
 cases (write.call_eq inside loud).symm.trans same
 refine ⟨size ▸ inOnePage_of_isPageBounded bounded,ranges,?_,?_⟩
 · rw [split]
   exact List.mem_append_left _ reported
 · rw [size]
   exact covers_of_isPhysicalRamRange ram

lemma completeWritePhysical_closed (request:PhysicalWriteRequest) (status:NtStatus)
 (written:ℕ) (closed:s.writeEnabled=false) :
 (completeWritePhysical request status written s).2.writeEnabled=false := by
 unfold completeWritePhysical
 split <;> simp [closed]

lemma completeWriteProcess_closed (request:ProcessMemoryRequest) (status:NtStatus)
 (copied:ℕ) (closed:s.writeEnabled=false) :
 (completeWriteProcess request status copied s).2.writeEnabled=false := by
 unfold completeWriteProcess
 split <;> simp [closed]

lemma completeCompareWrite_closed (outcome:Transaction) (closed:s.writeEnabled=false) :
 (completeCompareWrite outcome s).2.writeEnabled=false := by
 unfold completeCompareWrite
 split
 · simp [closed]
 · split <;> simp [closed]

lemma TransactExit.closed {request:CompareWriteRequest} {after:Section}
 {outcome:Transaction} (h:TransactExit ranges request s t (outcome,after))
 (closed:s.writeEnabled=false) : after.writeEnabled=false := by
 cases h with
 | unread | conflict | unverified => exact closed
 | verified =>
  split
  · exact closed
  · exact closed

lemma WritePhysicalExit.gated {irp:PhysicalWriteIrp} (h:WritePhysicalExit irp s t result) :
 Gated s t result.2 := by
 cases h with
 | rejected silent => exact .of_silent silent rfl
 | attempted _ held wellFormed ranges ram armed write =>
  obtain ⟨total,_,bounded⟩:=PhysicalWriteRequest.of_isWellFormed wellFormed
  exact .of_pageWrite (v := [⟨.physicalMemoryRanges,some ranges⟩]) write (by simp)
   (by simp [KernelCall.isWrite]) silent_nil (by simp) bounded (irp.data_length held total) ram
   armed (completeWritePhysical_closed _ _ _ rfl)

lemma CompareWriteExit.gated {irp:Irp CompareWriteRequest} (h:CompareWriteExit irp s t result)
 : Gated s t result.2 := by
 cases h with
 | rejected silent => exact .of_silent silent rfl
 | attempted request _ wellFormed ranges ram armed transaction =>
  have closed:=transaction.closed rfl
  have bounded:=isPageBounded_of_aligned
   (CompareWriteRequest.aligned_of_isWellFormed wellFormed) ram
  have size:(List.ofFn request.desired).length=(UInt64.ofNat kPhysicalPageSize).toNat:=by
   simp
   rfl
  cases transaction with
  | unread | conflict =>
   exact .of_silent (by simp [KernelCall.isWrite]) (completeCompareWrite_closed _ closed)
  | unverified _ _ _ _ _ write | verified _ _ _ _ _ _ write =>
   exact .of_pageWrite (v := [_,⟨.physicalMemoryRanges,some ranges⟩,_]) write rfl
    (by simp [KernelCall.isWrite]) (by simp [KernelCall.isWrite]) (by simp) bounded size ram
    armed (completeCompareWrite_closed _ closed)

lemma WriteProcessExit.gated {irp:ProcessWriteIrp} (h:WriteProcessExit irp s t result) :
 Gated s t result.2 := by
 cases h with
 | rejected silent => exact .of_silent silent rfl
 | attempted _ _ armed _ _ write =>
  refine ⟨completeWriteProcess_closed _ _ _ rfl,fun _=>armed,?_⟩
  intro _ mem address data same
  rcases List.mem_cons.1 mem with rfl|mem
  · cases same
  · exact absurd same (write.call_ne mem address data)

def Ioctl.enables : Ioctl→Bool
 | .setWriteMode irp => irp.buffer.any fun request=>request.enableWrite != 0
 | _ => false

/-- A section of the write class ends with the gate closed, or it is an enabling one that
 succeeded. -/
lemma Ioctl.handle_exit {ioctl:Ioctl} (write:ioctl.isWriteClass=true)
 (h:(ioctl.handle highestUser s).Exec t result) :
 Gated s t result.2 ∨ (ioctl.enables=true ∧ t=[] ∧ result.1.status=.success) := by
 cases ioctl with
 | setWriteMode irp =>
  obtain ⟨rfl,rfl⟩:=h.of_pure
  rcases setWriteMode_cases irp s with ⟨_,-,same⟩|⟨request,held,same⟩
  · rw [same]
    exact .inl (.of_silent silent_nil rfl)
  · rw [same]
    cases on:request.enableWrite != 0 with
    | false => exact .inl (.of_silent silent_nil rfl)
    | true => exact .inr ⟨by simp [enables,held,on],rfl,rfl⟩
 | writePhysical => exact .inl (writePhysical_exit h).gated
 | compareWritePhysicalPage => exact .inl (compareWritePhysicalPage_exit h).gated
 | writeProcessMemory => exact .inl (writeProcess_exit h).gated
 | other => cases write

lemma Ioctl.handle_other {ioctl:Ioctl} (read:ioctl.isWriteClass=false)
 (h:(ioctl.handle highestUser s).Exec t result) : Silent t ∧ result.2=s := by
 cases ioctl with
 | other =>
  obtain ⟨_,u,rfl,hu⟩:=h.of_ask
  obtain ⟨rfl,rfl⟩:=hu.of_pure
  exact ⟨by simp [KernelCall.isWrite],rfl⟩
 | _ => cases read

end KDbg.Driver
