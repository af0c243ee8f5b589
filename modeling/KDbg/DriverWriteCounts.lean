import KDbg.DriverWriteGate
set_option autoImplicit false
/-! The driver's two write counters: every request of the write class is counted
once, as a successful write when all its bytes were stored and as a rejected one
otherwise. A request that changes the write mode is not counted. -/
namespace KDbg
open Interaction Prog

section
variable {data:List UInt8} {t:List KernelEvent} {status:NtStatus} {stage:PhysicalWriteStage}

lemma PageWrite.success_iff {address:UInt64} {written:ℕ}
 (write:PageWrite address data t status written stage) :
 ntSuccess status=true ↔ written=data.length ∧ ∃ raised,
  ntSuccess (Option.getD raised NtStatus.success)=true ∧
  t=[⟨.mapIoSpace address data.length,true⟩,⟨.writeMapping address data,raised⟩] := by
 cases write with
 | unmapped =>
  refine iff_of_false (by decide) ?_
  rintro ⟨-,_,-,same⟩
  cases same
 | faulted _ fails =>
  refine iff_of_false (by simp [fails]) ?_
  rintro ⟨-,_,fine,same⟩
  cases same
  simp [fails] at fine
 | written raised fine => exact iff_of_true (by decide) ⟨rfl,raised,fine,rfl⟩

/-- The copy that did not fail is in the trace only if the page write reports success. -/
lemma PageWrite.success_of_mem {address:UInt64} {written:ℕ} {raised:Option NtStatus}
 (write:PageWrite address data t status written stage)
 (fine:ntSuccess (Option.getD raised NtStatus.success)=true)
 (mem:(⟨.writeMapping address data,raised⟩ : KernelEvent)∈t) : ntSuccess status=true := by
 cases write with
 | unmapped =>
  rw [List.mem_singleton] at mem
  cases mem
 | faulted _ fails =>
  rcases List.mem_pair.1 mem with same|same
  · cases same
  · cases same
    simp [fails] at fine
 | written => decide

end

namespace Driver

/-- The counters have been incremented so many times. -/
structure Adds (before after : Statistics) (successful rejected : ℕ) : Prop where
 successful : after.successfulWrites=(·+1)^[successful] before.successfulWrites
 rejected : after.rejectedWrites=(·+1)^[rejected] before.rejectedWrites

/-- The trace shows that every byte the request names was stored and, for a compare and write,
 that the page read back afterwards is the desired one. -/
def Ioctl.Fulfilled : Ioctl→List KernelEvent→Prop
 | .writePhysical irp,t => ∃ request raised,irp.buffer=some request ∧
  request.data.length=request.length.toNat ∧
  ntSuccess (Option.getD raised NtStatus.success)=true ∧
  (⟨.writeMapping request.physicalAddress request.data,raised⟩ : KernelEvent)∈t
 | .compareWritePhysicalPage irp,t => ∃ request raised again u v,irp.buffer=some request ∧
  ntSuccess (Option.getD raised NtStatus.success)=true ∧
  t=u++⟨.writeMapping request.physicalAddress (List.ofFn request.desired),raised⟩::v ∧
  (⟨.copyPhysical request.physicalAddress (UInt64.ofNat kPhysicalPageSize),again⟩ :
   KernelEvent)∈v ∧ wholePage again=.ok request.desired
 | .writeProcessMemory irp,t => ∃ request process,irp.buffer=some request ∧
  request.data.length=request.length.toNat ∧
  (⟨.writeProcess process request.virtualAddress request.data,()⟩ : KernelEvent)∈t
 | .setWriteMode _,_ | .other _,_ => False

/-- How one request of the write class is counted. -/
inductive Counted (ioctl:Ioctl) (t:List KernelEvent) (completion:Completion)
 (before after:Statistics) : Prop where
 | mode (irp:Irp WriteModeRequest) (asked:ioctl=.setWriteMode irp)
  (accepted:completion.status=.success) (adds:Adds before after 0 0)
 | successful (fulfilled:ioctl.Fulfilled t) (adds:Adds before after 1 0)
 | rejected (unfulfilled:¬ ioctl.Fulfilled t)
  (refused:∀ irp,ioctl=.setWriteMode irp → completion.status≠.success)
  (adds:Adds before after 0 1)

variable {t u:List KernelEvent} {ioctl:Ioctl}

section
variable {completion:Completion} {before before':Statistics}

lemma Ioctl.Fulfilled.loud (h:ioctl.Fulfilled t) : ¬Silent t := by
 intro silent
 cases ioctl with
 | setWriteMode | other => exact h
 | writePhysical =>
  obtain ⟨_,_,-,-,-,mem⟩:=h
  exact absurd (silent _ mem) (by simp [KernelCall.isWrite])
 | compareWritePhysicalPage =>
  obtain ⟨_,_,_,u,v,-,-,rfl,-⟩:=h
  exact absurd (silent _ (List.mem_append_right _ List.mem_cons_self))
   (by simp [KernelCall.isWrite])
 | writeProcessMemory =>
  obtain ⟨_,_,-,-,mem⟩:=h
  exact absurd (silent _ mem) (by simp [KernelCall.isWrite])

lemma Counted.of_silent {after:Statistics} (silent:Silent t)
 (refused:∀irp,ioctl=.setWriteMode irp → completion.status≠.success)
 (adds:Adds before after 0 1) : Counted ioctl t completion before after :=
 .rejected (fun h=>h.loud silent) refused adds

lemma Adds.of_same {after:Statistics} {successful rejected:ℕ}
 (adds:Adds before after successful rejected)
 (same:before.successfulWrites=before'.successfulWrites)
 (same':before.rejectedWrites=before'.rejectedWrites) :
 Adds before' after successful rejected :=
 ⟨same ▸ adds.successful,same' ▸ adds.rejected⟩

lemma Counted.of_same {after:Statistics}
 (h:Counted ioctl t completion before after) (same:before.successfulWrites=before'.successfulWrites)
 (same':before.rejectedWrites=before'.rejectedWrites) :
 Counted ioctl t completion before' after := by
 cases h with
 | mode irp asked accepted adds => exact .mode irp asked accepted (adds.of_same same same')
 | successful fulfilled adds => exact .successful fulfilled (adds.of_same same same')
 | rejected unfulfilled refused adds =>
  exact .rejected unfulfilled refused (adds.of_same same same')

end

lemma setWriteMode_counted (irp:Irp WriteModeRequest) (s:Section) :
 Counted (.setWriteMode irp) [] (setWriteMode irp s).1 s.statistics
  (setWriteMode irp s).2.statistics := by
 rcases setWriteMode_cases irp s with ⟨_,fails,same⟩|⟨_,-,same⟩
 · rw [same]
   exact .of_silent silent_nil (fun _ _=>fails) ⟨rfl,rfl⟩
 · rw [same]
   exact .mode irp rfl rfl ⟨rfl,rfl⟩

variable {result:Completion×Section}

lemma WritePhysicalExit.counted {irp:PhysicalWriteIrp} {s:Section}
 (h:WritePhysicalExit irp s t result) :
 Counted (.writePhysical irp) t result.1 s.statistics result.2.statistics := by
 cases h with
 | rejected silent => exact .of_silent silent (by rintro _ ⟨⟩) ⟨rfl,rfl⟩
 | @attempted request held wellFormed _ _ _ u status written _ write =>
  obtain ⟨total,-,-⟩:=PhysicalWriteRequest.of_isWellFormed wellFormed
  have size:request.data.length=request.length.toNat:=irp.data_length held total
  by_cases whole:(ntSuccess status && written == request.length.toNat)=true
  · unfold completeWritePhysical
    rw [if_pos whole]
    rw [Bool.and_eq_true] at whole
    obtain ⟨-,raised,fine,rfl⟩:=write.success_iff.1 whole.1
    exact .successful ⟨request,raised,held,size,fine,by simp⟩ ⟨rfl,rfl⟩
  · unfold completeWritePhysical
    rw [if_neg whole]
    refine .rejected ?_ (by rintro _ ⟨⟩) ⟨rfl,rfl⟩
    rintro ⟨_,_,held',-,fine,mem⟩
    cases held.symm.trans held'
    rcases List.mem_cons.1 mem with same|mem
    · cases same
    have success:=write.success_of_mem fine mem
    rw [success,(write.success_iff.1 success).1,size] at whole
    simp at whole

lemma CompareWriteRequest.outcome_applied_iff (request:CompareWriteRequest)
 (writeStatus:NtStatus) (written:ℕ) (readback:Page) :
 (request.outcome writeStatus written readback).result=.applied ↔
  ntSuccess writeStatus=true ∧ written=kPhysicalPageSize ∧ readback=request.desired := by
 have same:=(firstMismatchOffset_spec readback request.desired).eq_iff
 change (if (_ && _ && _)=true then TransactionResult.applied else .failed)=.applied ↔ _
 rw [←same]
 split
 · rename_i all
   simpa [and_assoc] using all
 · rename_i some
   refine iff_of_false (by decide) fun all=>some ?_
   simpa [and_assoc] using all

/-- Around a single store the trace has only one place for it. -/
lemma eq_of_single_store {p q v:List KernelEvent} {event event':KernelEvent}
 (before:Silent p) (after:Silent q) (store:event'.call.isWrite=true)
 (same:p++event::q=u++event'::v) : event'=event ∧ v=q := by
 induction p generalizing u with
 | nil =>
  cases u with
  | nil =>
   cases same
   exact ⟨rfl,rfl⟩
  | cons =>
   rw [List.nil_append,List.cons_append,List.cons.injEq] at same
   have quiet:=after event' (by rw [same.2];simp)
   rw [store] at quiet
   cases quiet
 | cons _ p ih =>
  rw [silent_cons] at before
  cases u with
  | nil =>
   rw [List.cons_append,List.nil_append,List.cons.injEq] at same
   rw [←same.1,before.1] at store
   cases store
  | cons =>
   rw [List.cons_append,List.cons_append,List.cons.injEq] at same
   exact ih before.2 same.2

variable {irp:Irp CompareWriteRequest}

section
variable {s:Section} {highestUser:UInt64}

/-- A transaction whose store is read back once is fulfilled exactly when the store reports
 success and the page that comes back is the desired one. -/
lemma compareWrite_fulfilled_iff (pre:List KernelEvent) (again:NtStatus×List UInt8)
 {request:CompareWriteRequest} (held:irp.buffer=some request) {writeStatus:NtStatus}
 {written:ℕ} {stage:PhysicalWriteStage} (before:Silent pre)
 (write:PageWrite request.physicalAddress (List.ofFn request.desired) u writeStatus written
  stage) :
 Ioctl.Fulfilled (.compareWritePhysicalPage irp) (pre++(u ++
  [⟨.copyPhysical request.physicalAddress (UInt64.ofNat kPhysicalPageSize),again⟩])) ↔
  ntSuccess writeStatus=true ∧ wholePage again=.ok request.desired := by
 constructor
 · rintro ⟨_,raised,_,x,v,held',fine,split,mem,back⟩
   cases held.symm.trans held'
   have stored : (⟨.writeMapping request.physicalAddress (List.ofFn request.desired),raised⟩ :
    KernelEvent)∈u := by
    have here : (⟨.writeMapping request.physicalAddress (List.ofFn request.desired),raised⟩ :
     KernelEvent)∈pre++(u++[⟨.copyPhysical request.physicalAddress
      (UInt64.ofNat kPhysicalPageSize),again⟩]) := by
     rw [split]
     simp
    rcases List.mem_append.1 here with early|here
    · cases before _ early
    rcases List.mem_append.1 here with inside|late
    · exact inside
    · rw [List.mem_singleton] at late
      cases late
   have success:=write.success_of_mem fine stored
   obtain ⟨-,_,-,rfl⟩:=write.success_iff.1 success
   have only : v=[⟨.copyPhysical request.physicalAddress (UInt64.ofNat kPhysicalPageSize),
    again⟩] := by
    refine (eq_of_single_store (p := pre++[_]) ?_ ?_ rfl
     (by simpa using split)).2
    · simp [before,KernelCall.isWrite]
    · simp [KernelCall.isWrite]
   rw [only,List.mem_singleton] at mem
   cases mem
   exact ⟨success,back⟩
 · rintro ⟨success,back⟩
   obtain ⟨-,raised,fine,rfl⟩:=write.success_iff.1 success
   refine ⟨request,raised,again,pre++[⟨.mapIoSpace request.physicalAddress
    (List.ofFn request.desired).length,true⟩],_,held,fine,?_,List.mem_singleton_self _,back⟩
   rw [List.append_assoc]
   rfl

lemma TransactExit.counted (pre:List KernelEvent) {request:CompareWriteRequest}
 (held:irp.buffer=some request) {ranges:List PhysicalMemoryRange} {after:Section}
 {outcome:Transaction} (before:Silent pre)
 (h:TransactExit ranges request s u (outcome,after)) :
 Counted (.compareWritePhysicalPage irp) (pre++u) (completeCompareWrite outcome after).1
  s.statistics (completeCompareWrite outcome after).2.statistics := by
 cases h with
 | unread | conflict =>
  exact .of_silent (by simp [before,KernelCall.isWrite]) (by rintro _ ⟨⟩) ⟨rfl,rfl⟩
 | @unverified answer again _ _ _ u _ _ _ write _ bad =>
  have fulfilled:=compareWrite_fulfilled_iff
   (pre++[⟨.copyPhysical request.physicalAddress (UInt64.ofNat kPhysicalPageSize),answer⟩])
   again held (by simp [before,KernelCall.isWrite]) write
  rw [List.append_assoc] at fulfilled
  refine .rejected (fun h => ?_) (by rintro _ ⟨⟩) ⟨rfl,rfl⟩
  cases bad.symm.trans (fulfilled.1 h).2
 | @verified answer again _ readback _ _ u writeStatus written _ write back =>
  have fulfilled:=compareWrite_fulfilled_iff
   (pre++[⟨.copyPhysical request.physicalAddress (UInt64.ofNat kPhysicalPageSize),answer⟩])
   again held (by simp [before,KernelCall.isWrite]) write
  rw [List.append_assoc,back,Except.ok.injEq] at fulfilled
  have applied:=request.outcome_applied_iff writeStatus written readback
  have whole:ntSuccess writeStatus=true → written=kPhysicalPageSize:=fun success=>by
   rw [(write.success_iff.1 success).1,List.length_ofFn]
  unfold completeCompareWrite
  dsimp only
  by_cases done:(request.outcome writeStatus written readback).result=.applied
  · rw [if_neg (not_not.2 done),if_pos done]
    obtain ⟨success,-,equal⟩:=applied.1 done
    exact .successful (fulfilled.2 ⟨success,equal⟩) ⟨rfl,rfl⟩
  · rw [if_pos done,if_neg done]
    refine .rejected (fun h=>done ?_) (by rintro _ ⟨⟩) ⟨rfl,rfl⟩
    obtain ⟨success,equal⟩:=fulfilled.1 h
    exact applied.2 ⟨success,whole success,equal⟩

lemma CompareWriteExit.counted (h:CompareWriteExit irp s t result) :
 Counted (.compareWritePhysicalPage irp) t result.1 s.statistics result.2.statistics := by
 cases h with
 | rejected silent => exact .of_silent silent (by rintro _ ⟨⟩) ⟨rfl,rfl⟩
 | @attempted _ held _ ranges _ _ u _ _ transaction =>
  have counted:=TransactExit.counted
   [⟨.allocatePool,true⟩,⟨.physicalMemoryRanges,some ranges⟩] held
   (by simp [KernelCall.isWrite]) transaction
  exact counted.of_same rfl rfl

/-- The store into a process reports success exactly when it was made, and it is made whole. -/
lemma writeProcessMemory_ensures (highestUser process address:UInt64) (data:List UInt8)
 (length:UInt64) (size:data.length=length.toNat) :
 (writeProcessMemory highestUser process address data length).Ensures fun t r =>
  (ntSuccess r.1=true ∧ r.2=data.length ∧
   (⟨.writeProcess process address data,()⟩ : KernelEvent)∈t) ∨
  (ntSuccess r.1=false ∧ Silent t) := by
 rw [writeProcessMemory,←size,List.take_length]
 split
 · exact ensures_pure (.inr ⟨by decide,silent_nil⟩)
 · refine ensures_ask_bind fun allocated => ?_
   cases allocated with
   | false => exact ensures_pure (.inr ⟨by decide,by simp [KernelCall.isWrite]⟩)
   | true =>
    refine ensures_ask_bind fun _ => ?_
    dsimp only
    split
    · rename_i fails
      exact ensures_pure (.inr ⟨by simpa using fails,by simp [KernelCall.isWrite]⟩)
    · rename_i fine
      refine ensures_ask_bind fun mapped => ?_
      cases mapped with
      | false => exact ensures_pure (.inr ⟨by decide,by simp [KernelCall.isWrite]⟩)
      | true =>
       refine ensures_ask_bind fun _=>ensures_pure (.inl ⟨?_,rfl,?_⟩)
       · simpa using fine
       · exact List.mem_cons_of_mem _ (List.mem_cons_of_mem _ (List.mem_cons_of_mem _
          (List.mem_singleton_self _)))

lemma writeProcess_counted (highestUser:UInt64) (irp:ProcessWriteIrp) (s:Section) :
 (writeProcess highestUser irp s).Ensures fun t r =>
  Counted (.writeProcessMemory irp) t r.1 s.statistics r.2.statistics := by
 have refused (t:List KernelEvent) (silent:Silent t) (status:NtStatus) :
  Counted (.writeProcessMemory irp) t (s.reject status).1 s.statistics
   (s.reject status).2.statistics :=
  .of_silent silent (by rintro _ ⟨⟩) ⟨rfl,rfl⟩
 unfold writeProcess
 split
 · exact ensures_pure (refused _ silent_nil _)
 rename_i request held
 split
 · exact ensures_pure (refused _ silent_nil _)
 split
 · exact ensures_pure (refused _ silent_nil _)
 rename_i wellFormed
 split
 · exact ensures_pure (refused _ silent_nil _)
 refine ensures_ask_bind fun answer => ?_
 obtain ⟨_,process⟩:=answer
 dsimp only
 split
 · exact ensures_pure (refused _ (by simp [KernelCall.isWrite]) _)
 split
 · exact ensures_pure (.of_silent (by simp [KernelCall.isWrite]) (by rintro _ ⟨⟩) ⟨rfl,rfl⟩)
 have total:=ProcessMemoryRequest.of_isWellFormed (by simpa using wellFormed)
 have size:request.data.length=request.length.toNat:=irp.data_length held total
 refine ensures_bind (writeProcessMemory_ensures highestUser process _ _ _
  (irp.data_length held total)) fun t r outcome=>ensures_pure ?_
 obtain ⟨_,_⟩:=r
 rw [List.append_nil]
 unfold completeWriteProcess
 rcases outcome with ⟨success,whole,mem⟩|⟨fails,silent⟩
 · simp only at success whole
   rw [if_pos (by simp [success,whole,size])]
   exact .successful ⟨request,process,held,size,List.mem_cons_of_mem _ mem⟩ ⟨rfl,rfl⟩
 · rw [if_neg (by simp [fails])]
   exact .of_silent (by simp [silent,KernelCall.isWrite]) (by rintro _ ⟨⟩) ⟨rfl,rfl⟩

lemma Ioctl.handle_counted (write:ioctl.isWriteClass=true)
 (h:(ioctl.handle highestUser s).Exec t result) :
 Counted ioctl t result.1 s.statistics result.2.statistics := by
 cases ioctl with
 | setWriteMode irp =>
  obtain ⟨rfl,rfl⟩:=h.of_pure
  exact setWriteMode_counted irp s
 | writePhysical => exact (writePhysical_exit h).counted
 | compareWritePhysicalPage => exact (compareWritePhysicalPage_exit h).counted
 | writeProcessMemory irp => exact writeProcess_counted highestUser irp s t result h
 | other => cases write

/-- The step runs the section of the write request `id`. -/
def WriteSection (x : DriverStep) (id : ℕ) (ioctl : Ioctl) : Prop :=
 x.op=.resume id ∧ ioctl.isWriteClass=true ∧ ∃ file caller admitted,
  x.before.request id=some (.control file caller ioctl admitted)

lemma step_counted {x:DriverStep} {id:ℕ}
 (valid:(machine highestUser).Valid x) (inv:Invariant x.before)
 (here:WriteSection x id ioctl) : ∃ completion,x.result=some completion ∧
  Counted ioctl x.trace completion x.before.statistics x.after.statistics := by
 obtain ⟨_,s,t,r,s'⟩:=x
 obtain ⟨resumed,write,file,_,admitted,waits⟩:=here
 subst resumed
 change (resume highestUser id s).Exec t (r,s') at valid
 obtain ⟨context,found⟩:=inv.attached id _ waits
 have live:(s.advance id none).context file=some context:=found
 unfold resume at valid
 rw [waits] at valid
 dsimp only at valid
 rw [control,live] at valid
 dsimp only at valid
 cases admitted with
 | true =>
  obtain ⟨completion,_,body,rfl,rfl⟩:=locked_exec valid
  exact ⟨completion,rfl,Ioctl.handle_counted write body⟩
 | false =>
  rw [if_neg Bool.false_ne_true,if_pos write] at valid
  obtain ⟨_,_,body,rfl,rfl⟩:=locked_exec valid
  obtain ⟨rfl,same⟩:=body.of_pure
  cases same
  exact ⟨_,rfl, .of_silent silent_nil (fun _ _=>by decide) ⟨rfl,rfl⟩⟩

end

variable {r:Option Completion}

section
variable {highestUser:UInt64} {s s':Driver} {op:Op} {id:ℕ}

lemma StepExit.uncounted (h:StepExit highestUser s op t r s')
 (other:∀id ioctl,¬WriteSection ⟨op,s,t,r,s'⟩ id ioctl) :
 Adds s.statistics s'.statistics 0 0 := by
 cases h with
 | rejected id file caller ioctl _ waits _ write =>
  exact absurd ⟨rfl,write,file,caller,false,waits⟩ (other id ioctl)
 | @handled id file caller ioctl context waits _ t _ after body =>
  have read:ioctl.isWriteClass=false:=by
   by_contra write
   exact other id ioctl ⟨rfl,by simpa using write,file,caller,true,waits⟩
  have kept:after=⟨context.writeEnabled,s.statistics⟩:=(Ioctl.handle_other read body).2
  rw [kept]
  exact ⟨rfl,rfl⟩
 | _ => exact ⟨rfl,rfl⟩

/-- A request that is pending or complete stays so until its own section runs. -/
lemma StepExit.request_kept (h:StepExit highestUser s op t r s') (known:id < s.pending.length)
 (other:op≠.resume id) : s'.request id=s.request id := by
 have enqueued (s:Driver) (next:Pending) (known:id < s.pending.length) :
  (s.enqueue next).request id=s.request id := by
  rw [request_enqueue,if_neg known.ne]
 have advanced (id':ℕ) (slot:Option Pending) {p:Pending} (waits:s.request id'=some p)
  (differs:Op.resume id'≠.resume id) : (s.advance id' slot).request id=s.request id := by
  rw [request_advance waits,if_neg]
  rintro rfl
  exact differs rfl
 cases h with
 | idle | refused | created => rfl
 | checked | dropped => exact enqueued s _ known
 | cleaned | closed => exact enqueued _ _ known
 | denied id' _ _ _ waits | handled id' _ _ _ _ waits | revoked id' _ _ _ waits
 | freed id' _ _ waits => exact advanced id' _ waits other
 | rejected id' _ _ _ _ waits =>
  exact advanced id' _ waits other
 | released id' file closing waits =>
  have kept:=advanced id' (if closing then some (.free file) else none) waits other
  exact kept

lemma StepExit.pending_length (h:StepExit highestUser s op t r s') :
 s.pending.length ≤ s'.pending.length := by
 cases h with
 | _ => simp [enqueue,advance,exchangeCleanedUp,setContext,releaseOwner]

lemma StepExit.request_done {file:ℕ} {caller:Caller} {admitted:Bool}
 (h:StepExit highestUser s (.resume id) t r s')
 (waits:s.request id=some (.control file caller ioctl admitted)) : s'.request id=none := by
 have gone:(s.advance id none).request id=none:=by
  rw [request_advance waits,if_pos rfl]
 cases h with
 | idle r quiet => cases waits.symm.trans (quiet id rfl)
 | denied | rejected | handled => exact gone
 | revoked _ _ _ _ waits' | released _ _ _ waits' | freed _ _ _ waits' =>
  cases waits.symm.trans waits'

lemma StepExit.request_gone (h:StepExit highestUser s (.resume id) t r s')
 (gone:s.request id=none) : s'.request id=none := by
 cases h with
 | idle => exact gone
 | denied _ _ _ _ waits | rejected _ _ _ _ _ waits | handled _ _ _ _ _ waits
 | revoked _ _ _ _ waits | released _ _ _ waits | freed _ _ _ waits => cases waits.symm.trans gone

lemma lt_of_request {next:Pending} (waits:s.request id=some next) :
 id < s.pending.length := by
 by_contra _
 rw [request,List.getElem?_eq_none (by omega)] at waits
 cases waits

end

section Run
variable {highestUser:UInt64} {h:List DriverStep} {s:Driver}

/-- After its section a request is complete for good. -/
lemma run_section_done (run:(machine highestUser).Run h s) {y:DriverStep} {id:ℕ}
 (mem:y∈h) (here:WriteSection y id ioctl) :
 id < s.pending.length ∧ s.request id=none := by
 induction run with
 | nil => cases mem
 | @snoc _ s before x start valid ih =>
  subst start
  have exit:=step_exit x valid (run_invariant before)
  rcases List.mem_append.1 mem with earlier|last
  · obtain ⟨known,gone⟩:=ih earlier
    refine ⟨known.trans_le exit.pending_length,?_⟩
    by_cases again:x.op=.resume id
    · rw [again] at exit
      exact exit.request_gone gone
    · rw [exit.request_kept known again]
      exact gone
  · rw [List.mem_singleton] at last
    subst last
    obtain ⟨resumed,-,_,_,_,waits⟩:=here
    rw [resumed] at exit
    exact ⟨(lt_of_request waits).trans_le exit.pending_length,exit.request_done waits⟩

lemma run_section_unique (run:(machine highestUser).Run h s) {j k id:ℕ} {y z:DriverStep}
 {ioctl ioctl':Ioctl} (hy:h[j]?=some y) (hz:h[k]?=some z)
 (here:WriteSection y id ioctl) (there:WriteSection z id ioctl') : j=k := by
 have apart {j k:ℕ} {y z:DriverStep} {ioctl ioctl':Ioctl} (lt:j < k)
  (hy:h[j]?=some y) (hz:h[k]?=some z) (here:WriteSection y id ioctl)
  (there:WriteSection z id ioctl') : False := by
  obtain ⟨before,-⟩:=run.before_eq hz
  have mem:y∈h.take k:=by
   refine List.mem_of_getElem? (i := j) ?_
   rw [List.getElem?_take_of_lt lt,hy]
  obtain ⟨-,-,_,_,_,waits⟩:=there
  cases waits.symm.trans (run_section_done before mem here).2
 rcases Nat.lt_trichotomy j k with lt|same|gt
 · exact (apart lt hy hz here there).elim
 · exact same
 · exact (apart gt hz hy there here).elim

/-- A write request that was sent on a live file object waits for its section or has had it. -/
lemma run_section_exists (run:(machine highestUser).Run h s) {x:DriverStep} {file:ℕ}
 {caller:Caller} {context:FileContext} (mem:x∈h)
 (sent:x.op=.deviceControl file caller ioctl) (write:ioctl.isWriteClass=true)
 (kept:x.before.isClosing file=false) (found:x.before.context file=some context) :
 s.request x.before.pending.length =
  some (.control file caller ioctl (context.isController caller)) ∨
  ∃ y∈h,WriteSection y x.before.pending.length ioctl := by
 induction run with
 | nil => cases mem
 | @snoc past s before z start valid ih =>
  subst start
  rcases List.mem_append.1 mem with earlier|last
  · rcases ih earlier with waits|⟨y,past,here⟩
    · by_cases resumed:z.op=.resume x.before.pending.length
      · exact .inr ⟨z,by simp,resumed,write,file,caller,_,waits⟩
      · have exit:=step_exit z valid (run_invariant before)
        exact .inl ((exit.request_kept (lt_of_request waits) resumed).trans waits)
    · exact .inr ⟨y,List.mem_append_left _ past,here⟩
  · rw [List.mem_singleton] at last
    subst last
    obtain ⟨_,s,t,r,s'⟩:=x
    subst sent
    have same : (r,s')=dispatchDeviceControl file caller ioctl s :=
     valid.of_pure.2
    unfold dispatchDeviceControl onContext at same
    rw [kept,found] at same
    cases same
    rw [request_enqueue,if_pos rfl]
    exact .inl rfl

/-- Every request of the write class on a live file object has one section, which counts it once:
 not at all for a write mode that was set, as successful when all its bytes were stored, and
 as rejected otherwise. No other step changes the counters. -/
theorem run_counts_writes (run : (machine highestUser).Run h s) :
 (∀ x∈h,
  (∀ id ioctl,WriteSection x id ioctl → ∃ completion,x.result=some completion ∧
   Counted ioctl x.trace completion x.before.statistics x.after.statistics) ∧
  ((∀ id ioctl,¬ WriteSection x id ioctl) →
   Adds x.before.statistics x.after.statistics 0 0)) ∧
 ∀ x∈h,∀ file caller ioctl context,x.op=.deviceControl file caller ioctl →
  ioctl.isWriteClass=true → x.before.isClosing file=false →
  x.before.context file=some context →
  s.request x.before.pending.length =
   some (.control file caller ioctl (context.isController caller)) ∨
   ∃! j : ℕ,∃ y,h[j]?=some y ∧ WriteSection y x.before.pending.length ioctl := by
 refine ⟨fun x mem => ?_,?_⟩
 · obtain ⟨⟨_,before⟩,valid⟩ := run.valid_of_mem mem
   have inv := run_invariant before
   exact ⟨fun _ _ here=>step_counted valid inv here,
    fun other=>(step_exit x valid inv).uncounted other⟩
 · intro x mem _ _ _ _ sent write kept found
   rcases run_section_exists run mem sent write kept found with waits | ⟨y,past,here⟩
   · exact .inl waits
   · obtain ⟨j,hy⟩ := List.mem_iff_getElem?.1 past
     refine .inr ⟨j,⟨y,hy,here⟩,?_⟩
     rintro k ⟨z,hz,there⟩
     exact run_section_unique run hz hy there here

end Run

/-- The sample's one-byte write is counted as the first successful one. -/
theorem sampleHistory_counted :
 (∃ completion,sampleStored.result=some completion ∧
  Counted (.writePhysical sampleWrite) sampleStored.trace completion
   sampleStored.before.statistics sampleStored.after.statistics) ∧
 sampleStored.before.statistics.successfulWrites=0 ∧
 sampleStored.after.statistics.successfulWrites=1 ∧
 ∃! j : ℕ,∃ y,sampleHistory[j]?=some y ∧ WriteSection y 1 (.writePhysical sampleWrite) := by
 have counts := run_counts_writes sampleHistory_run
 refine ⟨?_,rfl,rfl,?_⟩
 · exact (counts.1 sampleStored (by simp [sampleHistory])).1 1 _
    ⟨rfl,rfl,0,sampleCaller,true,rfl⟩
 · rcases counts.2 sampleSubmitted (by simp [sampleHistory]) 0 sampleCaller
    (.writePhysical sampleWrite) _ rfl rfl rfl rfl with waits | once
   · cases waits
   · exact once

end Driver
end KDbg
