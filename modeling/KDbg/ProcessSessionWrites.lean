import KDbg.ProcessSessionRollback
set_option autoImplicit false
/-! Which bytes the process session writes, and what it has seen before it does. -/
namespace KDbg.ProcessSession
open Interaction

def addressed (address : UInt64) (data : List UInt8) : List (ℕ×UInt8) :=
 data.mapIdx fun k byte=>(address.toNat+k,byte)

def writtenBytes (t : List ProcessEvent) : List (ℕ×UInt8) :=
 t.flatMap fun event =>
  match event.call with
  | .write address data => addressed address data
  | _ => []

variable {data:List UInt8}

section
variable {t:List ProcessEvent} {r:Result Unit}

lemma mem_addressed {address:UInt64} {p:ℕ×UInt8} :
 p∈addressed address data ↔ ∃ k,data[k]?=some p.2 ∧ p.1=address.toNat+k := by
 obtain ⟨a,_⟩:=p
 simp only [addressed,List.mem_mapIdx,Prod.mk.injEq]
 constructor
 · rintro ⟨k,lt,rfl,rfl⟩
   exact ⟨k,by simp,rfl⟩
 · rintro ⟨k,held,rfl⟩
   obtain ⟨lt,rfl⟩:=List.getElem?_eq_some_iff.1 held
   exact ⟨k,lt,rfl,rfl⟩

lemma addressed_ascending (address:UInt64) (data:List UInt8) :
 (addressed address data).Pairwise fun p q=>p.1 < q.1 := by
 rw [List.pairwise_iff_getElem]
 simp only [addressed,List.getElem_mapIdx]
 omega

@[simp] lemma writtenBytes_append (t u:List ProcessEvent) :
 writtenBytes (t++u)=writtenBytes t++writtenBytes u :=
 List.flatMap_append

lemma writtenBytes_eq_nil (silent:∀event∈t,event.call.isWrite=false) :
 writtenBytes t=[] := by
 refine List.flatMap_eq_nil_iff.2 fun event mem => ?_
 have quiet:=silent event mem
 obtain ⟨call,_⟩:=event
 cases call with
 | write => cases quiet
 | _ => rfl

lemma Disarming.silent {armed:Bool} (h:ProcessWriteArmGuard.Disarming armed t r) :
 ∀event∈t,event.call.isWrite=false := by
 cases h <;> simp [ProcessCall.isWrite]

lemma preflight_silent (s:ProcessSession) (live:List UInt8) :
 ∀event∈s.preflight live,event.call.isWrite=false := by
 simp [preflight,viewRead,ProcessCall.isWrite]

lemma ArmedWrite.writtenBytes {address:UInt64} (h:ArmedWrite address data t r) :
 ProcessSession.writtenBytes t=[] ∨
  ProcessSession.writtenBytes t=addressed address data := by
 cases h with
 | refused e => exact .inl rfl
 | failed _ _ e | written => exact .inr (by simp [ProcessSession.writtenBytes])

lemma ArmedWrite.complete {address:UInt64} (h:ArmedWrite address data t (.ok ())) :
 ProcessSession.writtenBytes t=addressed address data := by
 cases h
 simp [ProcessSession.writtenBytes]

end

section Runs
variable {address:UInt64} {runs:List DiffRun} {t:List ProcessEvent} {r:Result Unit}

lemma RunsWritten.mem (h:RunsWritten address runs t r) {p:ℕ×UInt8}
 (mem:p∈writtenBytes t) :
 ∃ run∈runs,p∈addressed (address+UInt64.ofNat run.offset) run.after := by
 induction h with
 | done => cases mem
 | @stopped run _ t e write =>
  rcases ArmedWrite.writtenBytes write with none|bytes
  · rw [none] at mem
    cases mem
  · rw [bytes] at mem
    exact ⟨run,by simp,mem⟩
 | @next run _ t u r write _ ih =>
  rw [writtenBytes_append,ArmedWrite.complete write] at mem
  rcases List.mem_append.1 mem with mem|mem
  · exact ⟨run,by simp,mem⟩
  · obtain ⟨later,inside,mem⟩:=ih mem
    exact ⟨later,by simp [inside],mem⟩

/-- When the loop ends without an error, every run has been written. -/
lemma RunsWritten.complete (h:RunsWritten address runs t (.ok ())) {run:DiffRun}
 (mem:run∈runs) {p:ℕ×UInt8}
 (byte:p∈addressed (address+UInt64.ofNat run.offset) run.after) :
 p∈writtenBytes t := by
 generalize ok : (.ok () : Result Unit)=r at h
 induction h with
 | done => cases mem
 | stopped => cases ok
 | @next _ _ t u r write _ ih =>
  rw [writtenBytes_append,ArmedWrite.complete write,List.mem_append]
  rcases List.mem_cons.1 mem with rfl|mem
  · exact .inl byte
  · exact .inr (ih mem ok)

/-- Runs that follow one another are written in ascending order. -/
lemma RunsWritten.ascending (h:RunsWritten address runs t r)
 (located:∀run∈runs,(address+UInt64.ofNat run.offset).toNat=address.toNat+run.offset)
 (order:runs.Pairwise fun run next=>run.offset+run.after.length < next.offset) :
 (writtenBytes t).Pairwise fun p q=>p.1 < q.1 := by
 induction h with
 | done => exact .nil
 | stopped write =>
  rcases ArmedWrite.writtenBytes write with none|bytes
  · rw [none]
    exact .nil
  · rw [bytes]
    exact addressed_ascending _ _
 | @next run _ t u r write rest ih =>
  rw [writtenBytes_append,ArmedWrite.complete write]
  obtain ⟨first,others⟩:=List.pairwise_cons.1 order
  refine List.pairwise_append.2 ⟨addressed_ascending _ _,
   ih (fun z mem=>located z (by simp [mem])) others,fun p hp q hq => ?_⟩
  obtain ⟨later,mem,hq⟩:=RunsWritten.mem rest hq
  obtain ⟨k,hk,hp⟩:=mem_addressed.1 hp
  obtain ⟨m,-,hq⟩:=mem_addressed.1 hq
  have inside:=(List.getElem?_eq_some_iff.1 hk).1
  have gap:=first later mem
  rw [hp,hq,located run (by simp),located later (by simp [mem])]
  omega

end Runs
variable {s s':ProcessSession}

section
variable {r:Result Unit} {t:List ProcessEvent}

lemma Invariant.run_address (inv:Invariant s) {run:DiffRun} (mem:run∈s.diffRuns) :
 (s.address+UInt64.ofNat run.offset).toNat=s.address.toNat+run.offset := by
 obtain ⟨_,_,-⟩:=mem_diffRuns inv.dirtyLength mem
 have room:=inv.room
 have small:run.offset < UInt64.size:=by
  change run.offset<2^64
  omega
 rw [UInt64.toNat_add,UInt64.toNat_ofNat_of_lt' small,Nat.mod_eq_of_lt (by omega)]

/-- A written byte is the new value of a byte that differs from the baseline. -/
def StagedByte (s : ProcessSession) (p : ℕ×UInt8) : Prop :=
 ∃ i < s.working.length,p.1=s.address.toNat+i ∧ s.working[i]?=some p.2 ∧
  s.baseline[i]?≠s.working[i]?

lemma Invariant.stagedByte (inv:Invariant s) {run:DiffRun} (mem:run∈s.diffRuns)
 {p:ℕ×UInt8} (byte:p∈addressed (s.address+UInt64.ofNat run.offset) run.after) :
 StagedByte s p := by
 obtain ⟨-,_,content⟩:=mem_diffRuns inv.dirtyLength mem
 obtain ⟨k,value,place⟩:=mem_addressed.1 byte
 have lt:=(List.getElem?_eq_some_iff.1 value).1
 obtain ⟨dirty,same⟩:=content k lt
 refine ⟨run.offset+k,by omega,?_,same.symm.trans value,?_⟩
 · rw [place,inv.run_address mem]
   omega
 · exact (inv.dirty_iff _ (by omega)).1 dirty

/-- Every byte that differs from the baseline belongs to a run. -/
lemma Invariant.covered (inv:Invariant s) {i:ℕ} (differs:s.baseline[i]?≠s.working[i]?) :
 ∃ run∈s.diffRuns,∃ value,(s.address.toNat+i,value) ∈
  addressed (s.address+UInt64.ofNat run.offset) run.after := by
 have lt:i < s.working.length:=by
  by_contra _
  have length:=inv.baselineLength
  refine differs ?_
  rw [List.getElem?_eq_none (by omega),List.getElem?_eq_none (by omega)]
 obtain ⟨run,mem,k,hk,rfl⟩:=diffRuns_covers inv.dirtyLength ((inv.dirty_iff i lt).2 differs)
 refine ⟨run,mem,run.after.getD k 0,mem_addressed.2 ⟨k,by simp [hk],?_⟩⟩
 rw [inv.run_address mem]
 omega

/-- What an apply writes: nothing unless it has seen its baseline in its own process, then only
 staged bytes in ascending order, and all of them when it succeeds. -/
structure ApplyWrites (s : ProcessSession) (t : List ProcessEvent) (r : Result Unit) : Prop where
 checked : (∃ event∈t,event.call.isWrite=true) → ∃ first rest,t=first++rest ∧
  (∀ event∈first,event.call.isWrite=false) ∧
  ⟨s.viewRead, .ok s.baseline⟩∈first ∧ ⟨.processId,s.pid⟩∈first
 staged : ∀ p∈writtenBytes t,StagedByte s p
 ascending : (writtenBytes t).Pairwise fun p q=>p.1 < q.1
 complete : r=.ok () → ∀ i,s.baseline[i]?≠s.working[i]? →
  ∃ value,(s.address.toNat+i,value)∈writtenBytes t

lemma ApplyWrites.of_attempt (inv:Invariant s) {writes rest:List ProcessEvent}
 {written:Result Unit} (writing:RunsWritten s.address s.diffRuns writes written)
 (silent:∀event∈rest,event.call.isWrite=false) (complete:r=.ok () → written=.ok ())
 : ApplyWrites s (s.preflight s.baseline++(writes++rest)) r := by
 have bytes:writtenBytes (s.preflight s.baseline++(writes++rest))=writtenBytes writes:=by
  rw [writtenBytes_append,writtenBytes_append,writtenBytes_eq_nil (preflight_silent s _),
   writtenBytes_eq_nil silent,List.nil_append,List.append_nil]
 refine ⟨fun _=>⟨_,_,rfl,preflight_silent s _,?_,?_⟩,?_,?_,?_⟩
 · simp [preflight]
 · simp [preflight]
 · intro p mem
   rw [bytes] at mem
   obtain ⟨_,inside,byte⟩:=writing.mem mem
   exact inv.stagedByte inside byte
 · rw [bytes]
   exact writing.ascending (fun _ mem=>inv.run_address mem)
    (diffRuns_pairwise inv.dirtyLength)
 · intro succeeds i differs
   obtain rfl := complete succeeds
   obtain ⟨_,inside,value,byte⟩:=inv.covered differs
   rw [bytes]
   exact ⟨value,writing.complete inside byte⟩

lemma silent_append {u:List ProcessEvent} (first:∀event∈t,event.call.isWrite=false)
 (second:∀event∈u,event.call.isWrite=false) :
 ∀event∈t++u,event.call.isWrite=false := by
 intro event mem
 rcases List.mem_append.1 mem with mem|mem
 · exact first event mem
 · exact second event mem

lemma Plain.silent (plain:Plain t) :
 ∀event∈t,event.call.isWrite=false := fun event mem=>(plain event mem).1

lemma stopped_silent {armed:Bool} {checks closing:List ProcessEvent} {closed:Result Unit}
 (plain:Plain checks) (closes:ProcessWriteArmGuard.Disarming armed closing closed) :
 ∀event∈(⟨.writesArmed,armed⟩ : ProcessEvent)::(checks++closing),
  event.call.isWrite=false := by
 intro event mem
 rcases List.mem_cons.1 mem with rfl|mem
 · rfl
 · exact silent_append plain.silent (Disarming.silent closes) event mem

lemma ApplyExit.writes (inv:Invariant s) (h:ApplyExit s t r s') : ApplyWrites s t r := by
 cases h with
 | stopped e plain _ closes =>
  have silent:=stopped_silent plain closes
  have none:=writtenBytes_eq_nil silent
  refine ⟨?_,by simp [none],by simp [none],by simp⟩
  rintro ⟨event,mem,write⟩
  cases (silent event mem).symm.trans write
 | failed e _ _ writing closes plain =>
  exact .of_attempt inv writing (silent_append (Disarming.silent closes) plain.silent) (by simp)
 | verified _ _ writing =>
  exact .of_attempt inv writing (by simp [viewRead,ProcessCall.isWrite]) fun _=>rfl

lemma ApplyExit.loaded (h:ApplyExit s t r s') (write:∃ event∈t,event.call.isWrite=true) :
 s.hasBuffer=true := by
 cases h with
 | stopped e plain _ closes =>
  obtain ⟨event,mem,write⟩:=write
  cases (stopped_silent plain closes event mem).symm.trans write
 | failed e loaded | verified loaded => exact loaded

/-- A successful load whose last answer to `ProcessId` was this process. -/
def Binds (x : ProcessStep) (pid : UInt32) : Prop :=
 (∃ address length,x.op=.load address length) ∧ x.result=.ok () ∧
  x.trace.getLast?=some ⟨.processId,pid⟩

def boundPid (s : ProcessSession) : Option UInt32 := if s.hasBuffer then some s.pid else none

lemma SameView.boundPid (h:SameView s s') : s'.boundPid=s.boundPid := by
 unfold ProcessSession.boundPid
 rw [hasBuffer_congr h.address h.length,h.pid]

lemma StepExit.boundPid {op:Op} (inv:Invariant s) (h:StepExit s op t r s') :
 Machine.FieldStep ProcessSession.boundPid Binds ⟨op,s,t,r,s'⟩ := by
 by_cases stays:op.replacesView=false
 · refine .kept (h.sameView inv stays).boundPid ?_
   rintro _ ⟨⟨_,_,same⟩,-⟩
   subst same
   cases stays
 · cases h with
   | load exit =>
    cases exit with
    | failed e => exact .dropped rfl
    | loaded _ pid _ nonzero nonempty =>
     refine .set pid ?_ ⟨⟨_,_,rfl⟩,rfl,rfl⟩
     simp [ProcessSession.boundPid,loadedView,ProcessSession.hasBuffer,nonzero,nonempty]
   | reset => exact .dropped rfl
   | edit isLocal => cases op <;> first | exact absurd rfl stays | cases isLocal
   | revertAll | apply | rollback => exact absurd rfl stays

/-- The process a loaded session is bound to is the one its last successful load has named. -/
lemma run_bound {h:List ProcessStep} (run:machine.Run h s) (loaded:s.hasBuffer=true) :
 ∃ l,Since (fun z => ∀pid,¬Binds z pid) h l ∧ Binds l s.pid := by
 refine run.latest (f := ProcessSession.boundPid) rfl ?_ s.pid (if_pos loaded)
 intro _ x before valid
 exact (step_exit x valid (run_invariant before)).boundPid (run_invariant before)

/-- What a rollback writes: one call with the saved view, after a read in which every byte was
 a saved byte or one that the last attempt `a` intended. -/
def RollbackWrites (s : ProcessSession) (t : List ProcessEvent) (a : ProcessStep) : Prop :=
 ∃ first last answer live,t=first++⟨.write s.address a.before.baseline,answer⟩::last ∧
  (∀ event∈first++last,event.call.isWrite=false) ∧
  ⟨s.viewRead, .ok live⟩∈first ∧ live.length=s.working.length ∧
  ∀ i < s.working.length,live[i]?=a.before.baseline[i]? ∨ live[i]?=a.before.working[i]?

lemma ArmedWrite.split {address:UInt64} (h:ArmedWrite address data t r) :
 (∀event∈t,event.call.isWrite=false) ∨
  ∃ answer closed,t=[⟨.setWritesArmed true, .ok ()⟩,⟨.write address data,answer⟩,
   ⟨.setWritesArmed false,closed⟩] := by
 cases h with
 | refused e => exact .inl (by simp [ProcessCall.isWrite])
 | failed _ _ e | written => exact .inr ⟨_,_,rfl⟩

lemma RollbackExit.writes (h:RollbackExit s t r s')
 (write:∃ event∈t,event.call.isWrite=true) :
 ∃ saved first last answer live,s.rollbackBytes=some saved ∧
  t=first++⟨.write s.address saved,answer⟩::last ∧
  (∀event∈first++last,event.call.isWrite=false) ∧
  ⟨s.viewRead, .ok live⟩∈first ∧ live.length=s.working.length ∧
  Accepts s saved live := by
 obtain ⟨event,mem,write⟩:=write
 have attempted {saved live:List UInt8} {during rest:List ProcessEvent} {written:Result Unit}
  (held:s.rollbackBytes=some saved) (length:live.length=s.working.length)
  (accepted:Accepts s saved live) (writing:ArmedWrite s.address saved during written)
  (silent:∀event∈rest,event.call.isWrite=false)
  (mem:event∈s.preflight live++(during++rest)) :
  ∃ saved first last answer live',s.rollbackBytes=some saved ∧
   s.preflight live++(during++rest) =
    first++⟨.write s.address saved,answer⟩::last ∧
   (∀event∈first++last,event.call.isWrite=false) ∧
   ⟨s.viewRead, .ok live'⟩∈first ∧ live'.length=s.working.length ∧
   Accepts s saved live' := by
  rcases ArmedWrite.split writing with none|⟨answer,closed,rfl⟩
  · have quiet:=silent_append (preflight_silent s live) (silent_append none silent)
    cases (quiet event mem).symm.trans write
  · refine ⟨saved,s.preflight live++[⟨.setWritesArmed true, .ok ()⟩],
     ⟨.setWritesArmed false,closed⟩::rest,answer,live,held,by simp,?_,
     mem_preflight s live _,length,accepted⟩
    refine silent_append (silent_append (preflight_silent s live) (by simp [ProcessCall.isWrite]))
     fun z hz => ?_
    rcases List.mem_cons.1 hz with rfl|hz
    · rfl
    · exact silent z hz
 cases h with
 | stopped e plain closes =>
  cases (stopped_silent plain closes event mem).symm.trans write
 | failed e held length accepted writing closes plain =>
  exact attempted held length accepted writing
   (silent_append (Disarming.silent closes) plain.silent) mem
 | verified held length accepted writing =>
  exact attempted held length accepted writing (by simp [viewRead,ProcessCall.isWrite]) mem

end

/-- In every run an apply writes only after it has seen its baseline in the process its view
 was loaded from, and a rollback only over bytes that were saved or intended. -/
theorem run_expected_writes {h : List ProcessStep} {s : ProcessSession} (run : machine.Run h s)
 (x : ProcessStep) (valid : machine.Valid x) (start : x.before=s) :
 (x.op=.applyAndVerify→ApplyWrites s x.trace x.result ∧
  ((∃ event∈x.trace,event.call.isWrite=true) →
   ∃ l,Since (fun z => ∀ pid,¬ Binds z pid) h l ∧ Binds l s.pid)) ∧
 (x.op=.rollback→(∃ event∈x.trace,event.call.isWrite=true) →
  ∃ a,Outstanding h a ∧ SameView a.before s ∧ RollbackWrites s x.trace a) := by
 subst start
 have inv := run_invariant run
 have exit := step_exit x valid inv
 obtain ⟨op,s,t,r,_⟩ := x
 refine ⟨?_,?_⟩
 · intro isApply
   subst isApply
   cases exit with
   | edit isLocal => cases isLocal
   | apply exit => exact ⟨exit.writes inv,fun write=>run_bound run (exit.loaded write)⟩
 · intro isRollback write
   subst isRollback
   cases exit with
   | edit isLocal => cases isLocal
   | rollback exit =>
   obtain ⟨_,first,last,answer,live,held,split,silent,seen,length,accepted⟩ :=
    exit.writes write
   obtain ⟨a,outstanding,point⟩ := run_point run held
   refine ⟨a,outstanding,point.view,first,last,answer,live,?_,silent,seen,length,?_⟩
   · rw [← point.image]
     exact split
   · rw [← point.image]
     exact point.accepted inv held accepted

theorem sampleApply_writes : ApplyWrites sampleEdit.after sampleApply.trace sampleApply.result ∧
 (∃ l,Since (fun z => ∀ pid,¬ Binds z pid) [sampleLoad,sampleEdit] l ∧ Binds l 7) ∧
 ∃ a,Outstanding [sampleLoad,sampleEdit,sampleApply] a ∧
  SameView a.before sampleApply.after ∧
  RollbackWrites sampleApply.after sampleRollback.trace a := by
 have apply := (run_expected_writes sampleEdit_run sampleApply sampleApply_valid rfl).1 rfl
 have rollback := (run_expected_writes sampleApply_run sampleRollback sampleRollback_valid rfl).2
  rfl
 refine ⟨apply.1,apply.2 ⟨⟨.write 0x1000 [9], .error lostWrite⟩,?_,rfl⟩,
  rollback ⟨⟨.write 0x1000 [1,2], .ok 2⟩,?_,rfl⟩⟩
 · simp [sampleApply]
 · simp [sampleRollback]

end KDbg.ProcessSession
