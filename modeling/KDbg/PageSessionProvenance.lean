import KDbg.PageSessionInvariant
set_option autoImplicit false
/-! Where the baseline comes from, and what a failed transaction leaves. -/
namespace KDbg.PageSession
open Interaction

/-- The step answers a full read or a verified read-back with this page. -/
def Returned (x : PageStep) (page : Page) : Prop :=
 match x.op with
 | .load target => ∃ bytes,∃ full : bytes.length=kPhysicalPageSize,
  ⟨pageRead target, .ok bytes⟩∈x.trace ∧ pageOfBytes bytes full=page
 | .reloadPreservingRollback => ∃ target bytes,∃ full : bytes.length=kPhysicalPageSize,
  x.before.target=some target ∧
   ⟨pageRead target, .ok bytes⟩∈x.trace ∧ pageOfBytes bytes full=page
 | .applyAndVerify => ∃ address result,
  ⟨.compareWritePhysicalPage address x.before.baseline x.before.working, .ok result⟩∈x.trace ∧
   Verified result x.before.working ∧ result.readback=page
 | .rollbackBaseline => ∃ address expected snapshot result,
  x.before.rollbackSnapshot=some snapshot ∧
   ⟨.compareWritePhysicalPage address expected snapshot, .ok result⟩∈x.trace ∧
   Verified result snapshot ∧ result.readback=page
 | _ => False

/-- The step unloads the page: a load begins, an invalidation, or a reported disconnect. -/
def Unloads (x : PageStep) : Prop :=
 match x.op with
 | .load _ | .invalidate => True
 | .reloadPreservingRollback | .applyAndVerify | .rollbackBaseline =>
  ∃ e : Error,e.code=.backendDisconnected ∧ x.result=.error e
 | _ => False

lemma pageVerdict_eq_ok {bytes:Result (List UInt8)} {page:Page}
 (read:pageVerdict bytes=.ok page) :
 ∃ full,∃ length : full.length=kPhysicalPageSize,
  bytes=.ok full ∧ pageOfBytes full length=page := by
 cases bytes with
 | error => cases read
 | ok full =>
  unfold pageVerdict at read
  dsimp only at read
  split at read
  · rename_i length
    exact ⟨full,length,rfl,Except.ok.inj read⟩
  · cases read

def BaselineStep (x : PageStep) : Prop :=
 x.after.baseline=x.before.baseline ∨
  (Unloads x ∧ x.after.target=none ∧ x.after.baseline=zeroPage) ∨
  Returned x x.after.baseline

variable {s s':PageSession} {t:List BackendEvent}

lemma FailedWith.baselineStep {begun:PageSession} {e:Error} {state:PageSessionState}
 {op:Op} (h:FailedWith begun e state s') (begins:begun.baseline=s.baseline)
 (unloads:e.code=.backendDisconnected→Unloads ⟨op,s,t, .error e,s'⟩) :
 BaselineStep ⟨op,s,t, .error e,s'⟩ := by
 cases h with
 | disconnected code => exact .inr (.inl ⟨unloads code,rfl,rfl⟩)
 | connected => exact .inl begins

variable {r:Result Unit}

lemma ApplyExit.baselineStep (h:ApplyExit s t r s') :
 BaselineStep ⟨.applyAndVerify,s,t,r,s'⟩ := by
 cases h with
 | refused => exact .inl rfl
 | rejected _ _ e _ failed | gateRefused _ _ _ _ e _ failed =>
  exact failed.baselineStep rfl fun code=>⟨e,code,rfl⟩
 | transacted _ _ verdict _ _ _ _ settled =>
  cases settled with
  | lost => exact .inl rfl
  | unverified =>
   exact .inl (recordApply_kept _ _).2.1
  | verified result verdict =>
   exact .inr (.inr ⟨_,result,mem_transactionTrace ..,verdict,rfl⟩)

lemma RollbackExit.baselineStep (h:RollbackExit s t r s') :
 BaselineStep ⟨.rollbackBaseline,s,t,r,s'⟩ := by
 cases h with
 | refused => exact .inl rfl
 | rejected _ _ e _ failed | gateRefused _ _ _ _ e _ failed =>
  exact failed.baselineStep rfl fun code=>⟨e,code,rfl⟩
 | transacted ready _ verdict _ _ _ _ settled =>
  cases settled with
  | lost | unverified => exact .inl rfl
  | verified result verdict =>
   exact .inr (.inr ⟨_,_,_,result,ready.snapshot,mem_transactionTrace ..,verdict,
    verdict.2.2⟩)

lemma ReloadExit.baselineStep (h:ReloadExit s t r s') :
 BaselineStep ⟨.reloadPreservingRollback,s,t,r,s'⟩ := by
 cases h with
 | refused => exact .inl rfl
 | rejected _ _ e _ failed | unread _ _ _ e _ _ failed =>
  exact failed.baselineStep rfl fun code=>⟨e,code,rfl⟩
 | @observed target ready ranges _ page _ read _ _ settled =>
  obtain ⟨full,length,rfl,hpage⟩:=pageVerdict_eq_ok read
  have returned (r:Result Unit) (s':PageSession) :
   Returned ⟨.reloadPreservingRollback,s,
    [⟨.getPhysicalRanges,ranges⟩,⟨pageRead target, .ok full⟩],r,s'⟩ page :=
   ⟨target,full,length,ready.loaded,by simp,hpage⟩
  cases settled with
  | restored | bound | confirmed => exact .inr (.inr (returned _ _))
  | mismatched => exact .inl rfl

lemma LoadExit.baselineStep {target:PhysicalWriteTarget} (h:LoadExit s target t r s') :
 BaselineStep ⟨.load target,s,t,r,s'⟩ := by
 cases h with
 | inconsistent | rejected | unread => exact .inr (.inl ⟨trivial,rfl,rfl⟩)
 | loaded _ _ _ _ read =>
  obtain ⟨full,length,rfl,hpage⟩:=pageVerdict_eq_ok read
  exact .inr (.inr ⟨full,length,by simp,hpage⟩)

lemma StepExit.baselineStep {op:Op} (h:StepExit s op t r s') :
 BaselineStep ⟨op,s,t,r,s'⟩ := by
 cases h with
 | load exit | reload exit | apply exit | rollback exit => exact exit.baselineStep
 | invalidate => exact .inr (.inl ⟨trivial,rfl,rfl⟩)
 | edit _ edited =>
  cases edited <;> exact .inl rfl
 | revertAll =>
  refine .inl ?_
  unfold PageSession.revertAll
  split <;> rfl
 | unlock _ _ unlocking =>
  cases unlocking <;> exact .inl rfl

lemma PageOutcome.kept {e:Error} (h:PageOutcome s t (.error e) s') :
 (e.code=.backendDisconnected ∧ s'=s.invalidate) ∨ Kept s s' := by
 cases h with
 | refused => exact .inr (.refl s)
 | disconnected e code => exact .inl ⟨code,rfl⟩
 | failed e _ kept => exact .inr kept.toKept

/-- Provenance of the baseline along a run, and failure atomicity of both transactions. -/
theorem run_baseline_provenance {h : List PageStep} {s : PageSession} (run : machine.Run h s)
 {x : PageStep} (mem : x∈h) :
 BaselineStep x ∧
  (x.op=.applyAndVerify ∨ x.op=.rollbackBaseline →
   ∀ e : Error,x.result=.error e →
    (e.code=.backendDisconnected ∧ x.after=x.before.invalidate) ∨
     Kept x.before x.after) := by
 obtain ⟨-,exit⟩ := run_stepExit run mem
 refine ⟨exit.baselineStep,?_⟩
 obtain ⟨_,s,t,r,_⟩ := x
 rintro (rfl | rfl) e rfl
 · cases exit with
   | edit edits => cases edits
   | unlock _ retyped => cases retyped
   | apply exit => exact exit.pageOutcome.kept
 · cases exit with
   | edit edits => cases edits
   | unlock _ retyped => cases retyped
   | rollback exit => exact exit.pageOutcome.kept

def failedApply : PageStep :=
 applyStep sampleUnlocked (.ok { outcome := .failure }) [⟨.setWriteEnabled false, .ok ()⟩] (.ok ())

lemma failedApply_run : machine.Run
 ([loadStep {} zeroPage,editStep sampleLoaded 1,unlockStep sampleEdited]++[failedApply])
 failedApply.after :=
 sampleUnlocked_run.snoc failedApply rfl (applyStep_valid sampleUnlocked_ready _ .closed)

theorem failedApply_provenance : failedApply.result.isOk=false ∧ BaselineStep failedApply ∧
 ∀ e : Error,failedApply.result=.error e →
  (e.code=.backendDisconnected ∧ failedApply.after=failedApply.before.invalidate) ∨
   Kept failedApply.before failedApply.after := by
 obtain ⟨baseline,kept⟩ := run_baseline_provenance failedApply_run List.mem_concat_self
 refine ⟨?_,baseline,kept (.inl rfl)⟩
 simp [failedApply,applyStep,settleApply,verifyApply,Result.isOk]

end KDbg.PageSession
