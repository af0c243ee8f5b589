import KDbg.ProcessSessionInvariant
set_option autoImplicit false
/-!
Every way in which `ApplyAndVerify` and `Rollback` return, with the complete
trace. Both have the form: ask whether writes are armed, check the target, write
inside the guard, disarm, read back.
-/
namespace KDbg.ProcessSession
open Interaction ProcessWriteArmGuard

def Plain (t : List ProcessEvent) : Prop :=
 ∀ event∈t,event.call.isWrite=false ∧ ∀ armed,event.call≠.setWritesArmed armed

lemma plain_nil : Plain [] := by
 simp [Plain]

variable {t u:List ProcessEvent}

lemma Plain.cons {event:ProcessEvent}
 (head:event.call.isWrite=false ∧ ∀armed,event.call≠.setWritesArmed armed)
 (tail:Plain t) : Plain (event::t) := by
 intro z mem
 rcases List.mem_cons.1 mem with rfl|mem
 · exact head
 · exact tail z mem

lemma Plain.append (first:Plain t) (second:Plain u) : Plain (t++u) := by
 intro z mem
 rcases List.mem_append.1 mem with mem|mem
 · exact first z mem
 · exact second z mem

def viewRead (s : ProcessSession) : ProcessCall :=
 .read s.address (UInt32.ofNat s.working.length)

def Working (s : ProcessSession) : ProcessEvent→Prop
 | ⟨.processId,pid⟩ => pid=s.pid
 | ⟨.isOpen,isOpen⟩ => isOpen=true
 | ⟨.writesArmed,armed⟩ => armed=true
 | ⟨.setWritesArmed _,answer⟩ => answer=.ok ()
 | ⟨.read _ length,answer⟩ => ∃ bytes : List UInt8,answer=.ok bytes ∧
  bytes.length=length.toNat
 | ⟨.write _ data,answer⟩ => ∃ count : UInt32,answer=.ok count ∧ count.toNat=data.length

def Broken (s : ProcessSession) (t : List ProcessEvent) : Prop := ∃ event∈t,¬ Working s event

variable {s s':ProcessSession}

lemma Broken.head {event:ProcessEvent} (t:List ProcessEvent) (h:¬Working s event) :
 Broken s (event::t) :=
 ⟨event,List.mem_cons_self,h⟩

lemma Broken.mono (h:Broken s t) (sub:∀event∈t,event∈u) : Broken s u := by
 obtain ⟨event,mem,broken⟩:=h
 exact ⟨event,sub event mem,broken⟩

inductive TargetCheck (s:ProcessSession) : List ProcessEvent→Result Unit→Prop where
 | unbound (e:Error) (h:s.hasBuffer=false ∨ s.pid=0) : TargetCheck s [] (.error e)
 | closed (e:Error) : TargetCheck s [⟨.isOpen,false⟩] (.error e)
 | other (e:Error) (pid pid':UInt32) (other:pid≠s.pid) :
  TargetCheck s [⟨.isOpen,true⟩,⟨.processId,pid⟩,⟨.processId,pid'⟩] (.error e)
 | valid (loaded:s.hasBuffer=true) (bound:s.pid≠0) :
  TargetCheck s [⟨.isOpen,true⟩,⟨.processId,s.pid⟩] (.ok ())

variable {r:Result Unit}

lemma validateTarget_exec (h:s.validateTarget.Exec t r) : TargetCheck s t r := by
 unfold validateTarget at h
 split at h
 · rename_i unbound
   obtain ⟨rfl,rfl⟩:=h.of_pure
   exact .unbound _ (by simpa using unbound)
 · rename_i bound
   simp only [not_or,Bool.not_eq_true',Bool.not_eq_false] at bound
   obtain ⟨isOpen,u,rfl,hu⟩:=h.of_ask
   cases isOpen with
   | false =>
    obtain ⟨rfl,rfl⟩:=hu.of_pure
    exact .closed _
   | true =>
    obtain ⟨pid,v,rfl,hv⟩:=hu.of_ask
    split at hv
    · rename_i other
      obtain ⟨pid',w,rfl,hw⟩:=hv.of_ask
      obtain ⟨rfl,rfl⟩:=hw.of_pure
      exact .other _ pid pid' other
    · rename_i same
      obtain ⟨rfl,rfl⟩:=hv.of_pure
      obtain rfl : pid=s.pid := not_not.1 same
      exact .valid bound.1 bound.2

inductive ViewRead (s:ProcessSession) : List ProcessEvent→Result (List UInt8)→Prop where
 | failed (e:Error) (answer:Result (List UInt8))
  (incomplete:∀ bytes,answer=.ok bytes → bytes.length≠s.working.length) :
  ViewRead s [⟨s.viewRead,answer⟩] (.error e)
 | read (bytes:List UInt8) (length:bytes.length=s.working.length) :
  ViewRead s [⟨s.viewRead, .ok bytes⟩] (.ok bytes)

lemma readExact_exec (loaded:s.hasBuffer=true)
 (size:s.working.length ≤ kMaximumViewSize.toNat) {r:Result (List UInt8)}
 (h:s.readExact.Exec t r) : ViewRead s t r := by
 have small:s.working.length<2^32:=lt_of_le_of_lt size (by decide)
 have guard:¬((!s.hasBuffer)=true ∨ s.working.length > 0xFFFFFFFF):=by
  simp only [loaded,Bool.not_true,Bool.false_eq_true,false_or]
  omega
 unfold readExact at h
 rw [if_neg guard] at h
 obtain ⟨answer,u,rfl,hu⟩:=h.of_ask
 cases answer with
 | error e =>
  obtain ⟨rfl,rfl⟩:=hu.of_pure
  exact .failed e (.error e) (by simp)
 | ok bytes =>
  dsimp only at hu
  split at hu
  · rename_i short
    obtain ⟨rfl,rfl⟩:=hu.of_pure
    refine .failed _ (.ok bytes) fun _ same => ?_
    cases same
    exact short
  · rename_i full
    obtain ⟨rfl,rfl⟩:=hu.of_pure
    exact .read bytes (not_not.1 full)

lemma TargetCheck.plain (h:TargetCheck s t r) : Plain t := by
 cases h with
 | unbound e h => exact plain_nil
 | closed e => exact plain_nil.cons ⟨rfl,by simp⟩
 | other e =>
  exact ((plain_nil.cons ⟨rfl,by simp⟩).cons ⟨rfl,by simp⟩).cons ⟨rfl,by simp⟩
 | valid => exact (plain_nil.cons ⟨rfl,by simp⟩).cons ⟨rfl,by simp⟩

lemma TargetCheck.unread (h:TargetCheck s t r) (bytes:List UInt8) :
 ⟨s.viewRead, .ok bytes⟩ ∉ t := by
 have calls:∀event∈t,event.call=.isOpen ∨ event.call=.processId:=by
  cases h <;> simp
 intro mem
 rcases calls _ mem with same|same <;> cases same

/-- No read before the conflict check returns the bytes that the check has to see. -/
lemma TargetCheck.unmatched {answer:Result (List UInt8)} (h:TargetCheck s t r)
 (read:ViewRead s u answer) {bytes:List UInt8} (length:bytes.length=s.working.length)
 (differs:answer≠.ok bytes) : ⟨s.viewRead, .ok bytes⟩ ∉ t++u := by
 rw [List.mem_append]
 rintro (mem | mem)
 · exact h.unread bytes mem
 · cases read with
   | failed e _ incomplete =>
    cases List.mem_singleton.1 mem
    exact incomplete bytes rfl length
   | read =>
    cases List.mem_singleton.1 mem
    exact differs rfl

lemma TargetCheck.broken {e:Error} (h:TargetCheck s t (.error e))
 (loaded:s.hasBuffer=true) (bound:s.pid≠0) : Broken s t := by
 cases h with
 | unbound _ h =>
  rcases h with unloaded|unbound
  · rw [loaded] at unloaded
    cases unloaded
  · exact absurd unbound bound
 | closed => exact .head _ (by simp [Working])
 | other _ pid pid' other =>
  have broken:Broken s [⟨.processId,pid⟩,⟨.processId,pid'⟩]:=.head _ other
  exact broken.mono fun z mem=>List.mem_cons_of_mem _ mem

lemma ViewRead.plain {r:Result (List UInt8)} (h:ViewRead s t r) : Plain t := by
 cases h <;> exact plain_nil.cons ⟨rfl,by simp [viewRead]⟩

lemma ViewRead.broken {e:Error} (h:ViewRead s t (.error e))
 (size:s.working.length ≤ kMaximumViewSize.toNat) : Broken s t := by
 cases h with
 | failed _ _ incomplete =>
  refine .head _ ?_
  rintro ⟨bytes,same,length⟩
  rw [UInt32.toNat_ofNat_of_lt' (lt_of_le_of_lt size (by decide))] at length
  exact incomplete bytes same length

lemma finish_exec {guard after:ProcessWriteArmGuard} {outcome:Result Unit}
 (h:(s.finish guard outcome).Exec t ((r,s'),after)) (hd:after.destroy.Exec u ()) :
 ∃ closed,Disarming guard.armed (t++u) closed ∧
  ((closed=.ok () ∧ r=outcome ∧ s'=s) ∨
   ∃ e,closed=.error e ∧ r=.error e ∧ s'={ s with state := .error }) := by
 obtain ⟨v,⟨_,_⟩,w,rfl,hv,hw⟩:=h.of_bind
 rcases disarm_exec hv with ⟨e,rfl,armed,still,rfl⟩|⟨rfl,off,closes⟩
 · obtain ⟨rfl,same⟩:=hw.of_pure
   cases same
   obtain ⟨again,rfl⟩:=destroy_armed_exec still hd
   rw [armed]
   exact ⟨.error e, .failed e again, .inr ⟨e,rfl,rfl,rfl⟩⟩
 · obtain ⟨rfl,same⟩:=hw.of_pure
   cases same
   obtain rfl := destroy_disarmed_exec off hd
   exact ⟨.ok (),by simpa using closes, .inl ⟨rfl,rfl,rfl⟩⟩

inductive Reported (s:ProcessSession) : ProcessSession→Prop where
 | mk (conflicts mismatches:List ℕ) (state:ProcessMemorySessionState)
  (h:state=s.state ∨ (state≠.clean ∧ state≠.dirty)) :
  Reported s { s with conflicts,mismatches,state }

lemma Reported.refl (s:ProcessSession) : Reported s s := .mk _ _ _ (.inl rfl)

lemma Reported.failed (h:Reported s s') : Reported s { s' with state := .error } := by
 cases h with
 | mk _ _ _ h => exact .mk _ _ _ (.inr ⟨by simp,by simp⟩)

/-- A `finish` with an error outcome returns an error and changes only the report. -/
lemma finish_stopped {begun:ProcessSession} {guard after:ProcessWriteArmGuard} {e:Error}
 (report:Reported begun s) (h:(s.finish guard (.error e)).Exec t ((r,s'),after))
 (hd:after.destroy.Exec u ()) :
 ∃ closed e',Disarming guard.armed (t++u) closed ∧ r=.error e' ∧ Reported begun s' := by
 obtain ⟨closed,closes,(⟨-,rfl,rfl⟩ | ⟨e',-,rfl,rfl⟩)⟩:=finish_exec h hd
 · exact ⟨closed,e,closes,rfl,report⟩
 · exact ⟨closed,e',closes,rfl,report.failed⟩

/-- The runs are written in order until one of them fails. -/
inductive RunsWritten (address:UInt64) :
 List DiffRun→List ProcessEvent→Result Unit→Prop where
 | done : RunsWritten address [] [] (.ok ())
 | stopped {run:DiffRun} {runs:List DiffRun} {t:List ProcessEvent} {e:Error}
  (write:ArmedWrite (address+UInt64.ofNat run.offset) run.after t (.error e)) :
  RunsWritten address (run::runs) t (.error e)
 | next {run:DiffRun} {runs:List DiffRun} {t u:List ProcessEvent} {r:Result Unit}
  (write:ArmedWrite (address+UInt64.ofNat run.offset) run.after t (.ok ()))
  (rest:RunsWritten address runs u r) : RunsWritten address (run::runs) (t++u) r

lemma writeRuns_exec {runs:List DiffRun} (h:(s.writeRuns runs).Exec t r) :
 RunsWritten s.address runs t r := by
 induction runs generalizing t with
 | nil =>
  obtain ⟨rfl,rfl⟩:=h.of_pure
  exact .done
 | cons _ _ ih =>
  obtain ⟨u,written,v,rfl,hu,hv⟩:=h.of_bind
  have write:=armedWrite_exec hu
  cases written with
  | error e =>
   obtain ⟨rfl,rfl⟩:=hv.of_pure
   rw [List.append_nil]
   exact .stopped write
  | ok => exact .next write (ih hv)

/-- The calls with which an attempt starts: armed, the right process, and the live view. -/
def preflight (s : ProcessSession) (live : List UInt8) : List ProcessEvent :=
 [⟨.writesArmed,true⟩,⟨.isOpen,true⟩,⟨.processId,s.pid⟩,⟨s.viewRead, .ok live⟩]

inductive ApplyExit (s:ProcessSession) :
 List ProcessEvent→Result Unit→ProcessSession→Prop where
 | stopped {armed:Bool} {checks closing:List ProcessEvent} {closed:Result Unit}
  {s':ProcessSession} (e:Error) (plain:Plain checks)
  (unmatched:⟨s.viewRead, .ok s.baseline⟩ ∉ checks)
  (closes:Disarming armed closing closed) (report:Reported s s') :
  ApplyExit s (⟨.writesArmed,armed⟩::(checks++closing)) (.error e) s'
 | failed {writes closing last:List ProcessEvent} {written closed:Result Unit}
  {s':ProcessSession} (e:Error) (loaded:s.hasBuffer=true) (bound:s.pid≠0)
  (writing:RunsWritten s.address s.diffRuns writes written)
  (closes:Disarming true closing closed) (plain:Plain last)
  (report:Reported s.stageApply s') :
  ApplyExit s (s.preflight s.baseline++(writes++(closing++last))) (.error e) s'
 | verified {writes:List ProcessEvent} (loaded:s.hasBuffer=true) (bound:s.pid≠0)
  (writing:RunsWritten s.address s.diffRuns writes (.ok ())) :
  ApplyExit s (s.preflight s.baseline ++
   (writes++[⟨.setWritesArmed false, .ok ()⟩,⟨s.viewRead, .ok s.working⟩])) (.ok ())
   { s.stageApply.settled s.working with rollbackAllowsPartial := false }

/-- The shared part of both operations, after the writes `writes` have ended in `written`. -/
inductive Attempted (s:ProcessSession) (writes:List ProcessEvent) (written:Result Unit)
 (verify:List UInt8→Result Unit×ProcessSession) :
 List ProcessEvent→Result Unit→ProcessSession→Prop where
 | stopped {closing last:List ProcessEvent} {closed:Result Unit} {s':ProcessSession}
  (e:Error) (closes:Disarming true closing closed) (plain:Plain last)
  (report:Reported s s')
  (cause:written=.ok ()→Broken s (closing++last)) :
  Attempted s writes written verify (writes++(closing++last)) (.error e) s'
 | read (readback:List UInt8) (length:readback.length=s.working.length)
  (complete:written=.ok ()) :
  Attempted s writes written verify
   (writes++[⟨.setWritesArmed false, .ok ()⟩,⟨s.viewRead, .ok readback⟩])
   (verify readback).1 (verify readback).2

lemma attempt_exec {writing:ProcessM (Result Unit)}
 {verify:List UInt8→Result Unit×ProcessSession} {guard:ProcessWriteArmGuard}
 (loaded:s.hasBuffer=true) (size:s.working.length ≤ kMaximumViewSize.toNat)
 (h:(s.attempt { armed := true } writing verify).Exec t ((r,s'),guard))
 (hd:guard.destroy.Exec u ()) :
 ∃ writes written,writing.Exec writes written ∧
  Attempted s writes written verify (t++u) r s' := by
 have broke (state:ProcessMemorySessionState) (h:state≠.clean ∧ state≠.dirty) :
  Reported s { s with state } := .mk _ _ _ (.inr h)
 obtain ⟨writes,written,v,rfl,hw,hv⟩:=h.of_bind
 refine ⟨writes,written,hw,?_⟩
 rw [List.append_assoc]
 cases written with
 | error e =>
  obtain ⟨_,e',closes,rfl,report⟩:=finish_stopped (broke _ ⟨by simp,by simp⟩) hv hd
  have exit:=@Attempted.stopped s writes (.error e) verify _ _ _ _ e' closes plain_nil report
   (by simp)
  rwa [List.append_nil] at exit
 | ok =>
  obtain ⟨x,⟨_,guard'⟩,y,rfl,hx,hy⟩:=hv.of_bind
  rcases disarm_exec hx with ⟨e,rfl,-,still,rfl⟩|⟨rfl,off,closes⟩
  · obtain ⟨rfl,same⟩:=hy.of_pure
    cases same
    obtain ⟨again,rfl⟩:=destroy_armed_exec still hd
    have exit:=@Attempted.stopped s writes (.ok ()) verify _ _ _ _ e (.failed e again) plain_nil
     (broke .error ⟨by simp,by simp⟩) (fun _ => .head _ (by simp [Working]))
    exact exit
  · obtain ⟨z,readback,w,rfl,hz,hw⟩:=hy.of_bind
    have read:=readExact_exec loaded size hz
    cases readback with
    | error e =>
     obtain ⟨rfl,same⟩:=hw.of_pure
     cases same
     obtain rfl := destroy_disarmed_exec off hd
     have exit:=@Attempted.stopped s writes (.ok ()) verify _ _ _ _ e closes read.plain
      (broke .verificationFailed ⟨by simp,by simp⟩)
      (fun _=>(read.broken size).mono fun _ mem=>List.mem_append_right _ mem)
     simpa using exit
    | ok readback =>
     obtain ⟨rfl,same⟩:=hw.of_pure
     cases read with
     | read _ length =>
     cases closes
     obtain rfl : guard=guard' := congrArg Prod.snd same
     have verdict:(r,s')=verify readback:=congrArg Prod.fst same
     obtain rfl := destroy_disarmed_exec off hd
     have exit:=@Attempted.read s writes (.ok ()) verify readback length rfl
     rw [←verdict] at exit
     simpa using exit

lemma verifyApply_same (s:ProcessSession) : s.verifyApply s.working =
 (.ok (),{ s.settled s.working with rollbackAllowsPartial := false }) := by
 have none:differingBytes s.working s.working=[]:=(differingBytes_eq_nil rfl).2 rfl
 simp [verifyApply,none]

lemma verifyApply_differs {readback:List UInt8} (length:readback.length=s.working.length)
 (differs:readback≠s.working) :
 ∃ e mismatches,s.verifyApply readback =
  (.error e,{ s with mismatches,state := .verificationFailed }) := by
 have mismatch:differingBytes readback s.working≠[]:=fun none =>
  differs ((differingBytes_eq_nil length).1 none)
 exact ⟨_,_,if_pos mismatch⟩

lemma ApplyExit.of_attempted {writes:List ProcessEvent} {written:Result Unit}
 (loaded:s.hasBuffer=true) (bound:s.pid≠0)
 (writing:RunsWritten s.address s.diffRuns writes written)
 (h:Attempted s.stageApply writes written s.stageApply.verifyApply t r s') :
 ApplyExit s (s.preflight s.baseline++t) r s' := by
 cases h with
 | stopped e closes plain report => exact .failed e loaded bound writing closes plain report
 | read readback length complete =>
  subst complete
  by_cases same:readback=s.working
  · subst same
    rw [show s.stageApply.verifyApply s.working=_ from verifyApply_same s.stageApply]
    exact .verified loaded bound writing
  · obtain ⟨e,mismatches,verdict⟩:=verifyApply_differs length same
    rw [verdict]
    have plain:Plain [⟨s.viewRead, .ok readback⟩]:=plain_nil.cons ⟨rfl,by simp [viewRead]⟩
    have exit:=ApplyExit.failed e loaded bound writing .disarmed plain
     (Reported.mk [] mismatches .verificationFailed
      (.inr ⟨by simp,by simp⟩))
    exact exit

lemma apply_exit (inv:Invariant s) (h:s.applyAndVerify.Exec t (r,s')) :
 ApplyExit s t r s' := by
 obtain ⟨armed,u,rfl,hu⟩:=h.of_ask
 obtain ⟨_,guard,closing,rfl,hb,hd⟩:=withGuard_exec hu
 have stopped {checks done:List ProcessEvent} {begun:ProcessSession} {e:Error}
  (plain:Plain checks) (unmatched:⟨s.viewRead, .ok s.baseline⟩ ∉ checks)
  (report:Reported s begun)
  (hf:(begun.finish { armed } (.error e)).Exec done ((r,s'),guard)) :
  ApplyExit s (⟨.writesArmed,armed⟩::(checks++(done++closing))) r s' := by
  obtain ⟨_,e',closes,rfl,report⟩:=finish_stopped report hf hd
  exact .stopped e' plain unmatched closes report
 split at hb
 · exact stopped plain_nil (by simp) (.refl s) hb
 · rename_i ready
   simp only [not_or,Bool.not_eq_true',Bool.not_eq_false] at ready
   cases armed with
   | false => exact stopped plain_nil (by simp) (.refl s) hb
   | true =>
    obtain ⟨v,target,w,rfl,hv,hw⟩:=hb.of_bind
    have check:=validateTarget_exec hv
    rw [List.append_assoc]
    cases target with
    | error e => exact stopped check.plain (check.unread _) (.refl s) hw
    | ok =>
     obtain ⟨x,live,y,rfl,hx,hy⟩:=hw.of_bind
     have read:=readExact_exec ready.1 inv.size hx
     have plain:=check.plain.append read.plain
     rw [List.append_assoc,←List.append_assoc]
     cases live with
     | error e =>
      have unmatched:=check.unmatched read inv.baselineLength (by simp)
      exact stopped plain unmatched (.mk _ _ _ (.inr ⟨by simp,by simp⟩)) hy
     | ok live =>
      dsimp only at hy
      split at hy
      · rename_i conflict
        have unmatched:=check.unmatched read inv.baselineLength fun same=>by
         cases same
         exact conflict ((differingBytes_eq_nil rfl).2 rfl)
        exact stopped plain unmatched (.mk _ _ _ (.inr ⟨by simp,by simp⟩)) hy
      · rename_i same
        cases check with
        | valid loaded bound =>
        cases read with
        | read _ length =>
        obtain rfl : live=s.baseline :=
         (differingBytes_eq_nil (length.trans inv.baselineLength.symm)).1 (not_not.1 same)
        split at hy
        · rename_i empty
          have writing:RunsWritten s.address s.diffRuns [] (.ok ()):=by
           rw [List.isEmpty_iff.1 (show s.diffRuns.isEmpty=true from empty)]
           exact .done
          have report : Reported s.stageApply { s.stageApply with state := .error } :=
           .mk _ _ _ (.inr ⟨by simp,by simp⟩)
          obtain ⟨_,e,closes,rfl,report⟩:=finish_stopped report hy hd
          have exit:=ApplyExit.failed e loaded bound writing closes plain_nil report
          rwa [List.append_nil] at exit
        · obtain ⟨_,_,hw,attempted⟩:=attempt_exec
           (s := s.stageApply) loaded inv.size hy hd
          have writing:=writeRuns_exec hw
          exact .of_attempted loaded bound writing attempted

def Accepts (s : ProcessSession) (saved live : List UInt8) : Prop :=
 ∀ i < s.working.length,s.rollbackAccepts saved live i=true

/-- The conflicts that `Rollback` lists are the bytes it does not accept. -/
lemma Invariant.accepts_iff (inv:Invariant s) (saved live:List UInt8) :
 (List.range s.baseline.length).filter (fun index => !s.rollbackAccepts saved live index)=[] ↔
  Accepts s saved live := by
 simp [List.filter_eq_nil_iff,inv.baselineLength,Accepts]

inductive RollbackExit (s:ProcessSession) :
 List ProcessEvent→Result Unit→ProcessSession→Prop where
 | stopped {armed:Bool} {checks closing:List ProcessEvent} {closed:Result Unit}
  {s':ProcessSession} (e:Error) (plain:Plain checks)
  (closes:Disarming armed closing closed) (report:Reported s s')
  (cause:s.rollbackBytes=none ∨ Broken s (⟨.writesArmed,armed⟩::checks) ∨
   ∃ saved live,s.rollbackBytes=some saved ∧ ⟨s.viewRead, .ok live⟩∈checks ∧
    ¬ Accepts s saved live) :
  RollbackExit s (⟨.writesArmed,armed⟩::(checks++closing)) (.error e) s'
 | failed {saved live:List UInt8} {write closing last:List ProcessEvent}
  {written closed:Result Unit} {s':ProcessSession} (e:Error)
  (held:s.rollbackBytes=some saved) (length:live.length=s.working.length)
  (accepted:Accepts s saved live) (writing:ArmedWrite s.address saved write written)
  (closes:Disarming true closing closed) (plain:Plain last)
  (report:Reported (s.stageRollback live) s')
  (cause:Broken s (write++(closing++last)) ∨
   ∃ readback,⟨s.viewRead, .ok readback⟩∈last ∧ readback≠saved) :
  RollbackExit s (s.preflight live++(write++(closing++last))) (.error e) s'
 | verified {saved live:List UInt8} {write:List ProcessEvent}
  (held:s.rollbackBytes=some saved) (length:live.length=s.working.length)
  (accepted:Accepts s saved live) (writing:ArmedWrite s.address saved write (.ok ())) :
  RollbackExit s (s.preflight live ++
   (write++[⟨.setWritesArmed false, .ok ()⟩,⟨s.viewRead, .ok saved⟩])) (.ok ())
   { (s.stageRollback live).settled saved with
     rollbackBytes := none
     rollbackExpected := none
     rollbackAllowsPartial := false }

lemma ArmedWrite.broken {address:UInt64} {data:List UInt8} {e:Error}
 (h:ArmedWrite address data t (.error e)) : Broken s t := by
 cases h with
 | refused => exact .head _ (by simp [Working])
 | failed written closed e cause =>
  by_contra works
  have answered (event:ProcessEvent) (mem:event∈_) : Working s event :=
   not_not.1 fun broken=>works ⟨event,mem,broken⟩
  have shut:closed=.ok ():=answered ⟨.setWritesArmed false,closed⟩ (by simp)
  obtain ⟨count,same,full⟩:=answered ⟨.write address data,written⟩ (by simp)
  exact cause shut count same full

lemma verifyRollback_same (s:ProcessSession) (saved:List UInt8) :
 s.verifyRollback saved saved =
  (.ok (),{ s.settled saved with
   rollbackBytes := none
   rollbackExpected := none
   rollbackAllowsPartial := false }) := by
 have none:differingBytes saved saved=[]:=(differingBytes_eq_nil rfl).2 rfl
 simp [verifyRollback,none]

lemma verifyRollback_differs {saved readback:List UInt8}
 (length:readback.length=saved.length) (differs:readback≠saved) :
 ∃ e mismatches,s.verifyRollback saved readback =
  (.error e,{ s with mismatches,state := .verificationFailed }) := by
 have mismatch:differingBytes readback saved≠[]:=fun none =>
  differs ((differingBytes_eq_nil length).1 none)
 exact ⟨_,_,if_pos mismatch⟩

lemma RollbackExit.of_attempted {saved live:List UInt8} {write:List ProcessEvent}
 {written:Result Unit} (held:s.rollbackBytes=some saved)
 (size:saved.length=s.working.length) (length:live.length=s.working.length)
 (accepted:Accepts s saved live) (writing:ArmedWrite s.address saved write written)
 (h:Attempted (s.stageRollback live) write written
  ((s.stageRollback live).verifyRollback saved) t r s') :
 RollbackExit s (s.preflight live++t) r s' := by
 cases h with
 | @stopped _ _ _ _ e closes plain report cause =>
  refine .failed e held length accepted writing closes plain report (.inl ?_)
  cases written with
  | ok => exact (cause rfl).mono fun _ mem=>List.mem_append_right _ mem
  | error e =>
   have broken:Broken s write:=ArmedWrite.broken writing
   exact broken.mono fun _ mem=>List.mem_append_left _ mem
 | read readback hlength complete =>
  subst complete
  by_cases same:readback=saved
  · subst same
    rw [verifyRollback_same]
    exact .verified held length accepted writing
  · obtain ⟨e,mismatches,verdict⟩:=verifyRollback_differs
     (hlength.trans size.symm) same
    rw [verdict]
    have plain:Plain [⟨s.viewRead, .ok readback⟩]:=plain_nil.cons ⟨rfl,by simp [viewRead]⟩
    exact RollbackExit.failed e held length accepted writing .disarmed plain
     (Reported.mk [] mismatches .verificationFailed
      (.inr ⟨by simp,by simp⟩)) (.inr ⟨readback,List.mem_singleton.2 rfl,same⟩)

lemma rollback_exit (inv:Invariant s) (h:s.rollback.Exec t (r,s')) :
 RollbackExit s t r s' := by
 obtain ⟨armed,u,rfl,hu⟩:=h.of_ask
 obtain ⟨_,guard,closing,rfl,hb,hd⟩:=withGuard_exec hu
 have stopped {checks done:List ProcessEvent} {begun:ProcessSession} {e:Error}
  (plain:Plain checks) (report:Reported s begun)
  (cause:s.rollbackBytes=none ∨ Broken s (⟨.writesArmed,armed⟩::checks) ∨
   ∃ saved live,s.rollbackBytes=some saved ∧ ⟨s.viewRead, .ok live⟩∈checks ∧
    ¬Accepts s saved live)
  (hf:(begun.finish { armed } (.error e)).Exec done ((r,s'),guard)) :
  RollbackExit s (⟨.writesArmed,armed⟩::(checks++(done++closing))) r s' := by
  obtain ⟨_,e',closes,rfl,report⟩:=finish_stopped report hf hd
  exact .stopped e' plain closes report cause
 have later {checks:List ProcessEvent} (broken:Broken s checks) :
  Broken s (⟨.writesArmed,armed⟩::checks) :=
  broken.mono fun _ mem=>List.mem_cons_of_mem _ mem
 split at hb
 · rename_i held
   exact stopped plain_nil (.refl s) (.inl held) hb
 · rename_i saved held
   obtain ⟨loaded,bound,_⟩:=inv.bound (by rw [held];rfl)
   have savedLength:=inv.savedLength saved held
   cases armed with
   | false => exact stopped plain_nil (.refl s) (.inr (.inl (.head _ (by simp [Working])))) hb
   | true =>
    obtain ⟨v,target,w,rfl,hv,hw⟩:=hb.of_bind
    have check:=validateTarget_exec hv
    rw [List.append_assoc]
    cases target with
    | error e =>
     exact stopped check.plain (.refl s) (.inr (.inl (later (check.broken loaded bound)))) hw
    | ok =>
     obtain ⟨x,live,y,rfl,hx,hy⟩:=hw.of_bind
     have read:=readExact_exec loaded
      inv.size hx
     have plain:=check.plain.append read.plain
     rw [List.append_assoc,←List.append_assoc]
     cases live with
     | error e =>
      refine stopped plain (.mk _ _ _ (.inr ⟨by simp,by simp⟩)) (.inr (.inl (later ?_))) hy
      have broken:Broken s x:=read.broken inv.size
      exact broken.mono fun _ mem=>List.mem_append_right _ mem
     | ok live =>
      have seen:⟨s.viewRead, .ok live⟩∈v++x:=by
       cases read
       exact List.mem_append_right _ (List.mem_singleton.2 rfl)
      have length:live.length=s.working.length:=by
       cases read
       assumption
      dsimp only at hy
      split at hy
      · rename_i sizes
        refine absurd sizes (not_or.2 ⟨?_,fun unequal => ?_⟩)
        · exact not_not.2 (savedLength.trans inv.baselineLength.symm)
        · obtain ⟨expected,present,differs⟩:=Option.any_eq_true _ _ |>.1 unequal
          exact of_decide_eq_true differs
           ((inv.expectedLength expected present).trans inv.baselineLength.symm)
      · split at hy
        · rename_i conflicts
          have rejected:¬Accepts s saved live:=fun accepted =>
           conflicts ((inv.accepts_iff saved live).2 accepted)
          exact stopped plain (.mk _ _ _ (.inr ⟨by simp,by simp⟩))
           (.inr (.inr ⟨saved,live,held,seen,rejected⟩)) hy
        · rename_i agreed
          have accepted : Accepts s saved live :=
           (inv.accepts_iff saved live).1 (not_not.1 agreed)
          cases check with
          | valid =>
          cases read with
          | read =>
          obtain ⟨_,_,hw,attempted⟩:=attempt_exec
           (s := s.stageRollback live) loaded inv.size hy hd
          exact .of_attempted held savedLength length accepted (armedWrite_exec hw) attempted

end KDbg.ProcessSession
