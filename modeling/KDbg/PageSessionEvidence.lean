import KDbg.PageSessionRollbackPoint
set_option autoImplicit false
/-!
What complete evidence documents. The six pages are filled on failing paths as
well, so they witness the pages that were exchanged, not the success of the
operations that exchanged them.
-/
namespace KDbg.PageSession
open Interaction

def Clears (x : PageStep) : Prop :=
 match x.op with
 | .load _ | .invalidate => True
 | .applyAndVerify => x.trace≠[]
 | .reloadPreservingRollback | .rollbackBaseline => x.after.target=none
 | _ => False

def RolledBack (x : PageStep) : Prop := x.op=.rollbackBaseline ∧ x.result=.ok ()

def Reloads (x : PageStep) (page : Page) : Prop :=
 x.op=.reloadPreservingRollback ∧ ∃ target bytes,∃ full : bytes.length=kPhysicalPageSize,
  ⟨pageRead target, .ok bytes⟩∈x.trace ∧ pageOfBytes bytes full=page

/-- A rollback whose compare/write to `desired` was answered with this read-back. -/
def WritesBack (x : PageStep) (desired readback : Page) : Prop :=
 x.op=.rollbackBaseline ∧ ∃ address expected result,
  ⟨.compareWritePhysicalPage address expected desired, .ok result⟩∈x.trace ∧
   result.readback=readback

/-- An apply whose compare/write was answered, with the two pages it named. -/
def Applies (x : PageStep) (result : PhysicalPageCompareWriteResult) : Prop :=
 x.op=.applyAndVerify ∧ ∃ address,
  ⟨.compareWritePhysicalPage address x.before.baseline x.before.working, .ok result⟩∈x.trace

/-- The evidence belongs to the apply `a`, and `later` is what has happened since. -/
structure Cycle (s : PageSession) (a : PageStep) (later : List PageStep) : Prop where
 calm : ∀ z∈later,¬ Clears z
 differ : a.before.working≠a.before.baseline
 baseline : s.evidence.baseline=some a.before.baseline
 expectedAfter : s.evidence.expectedAfter=some a.before.working
 transaction : ∃ result,Applies a result ∧ s.evidence.readback=some result.readback ∧
  s.evidence.preflight =
   some (if result.outcome=.conflict then result.readback else a.before.baseline)
 point : ∀ page,s.rollbackSnapshot=some page → page=a.before.baseline
 unrestored : s.rollbackSnapshot.isSome=true → ∀ z∈later,¬ RolledBack z
 reload : ∀ page,s.evidence.independentReload=some page → ∃ early x late,
  later=early++x::late ∧ Reloads x page ∧ ∀ z∈early,¬ RolledBack z
 rollback : ∀ page,s.evidence.rollback=some page →
  ∃ x∈later,WritesBack x a.before.baseline page

/-- A step that leaves a cycle in place and adds at most one page to it. -/
structure Continues (x : PageStep) : Prop where
 calm : ¬ Clears x
 baseline : x.after.evidence.baseline=x.before.evidence.baseline
 preflight : x.after.evidence.preflight=x.before.evidence.preflight
 expectedAfter : x.after.evidence.expectedAfter=x.before.evidence.expectedAfter
 readback : x.after.evidence.readback=x.before.evidence.readback
 point : ∀ page,x.after.rollbackSnapshot=some page → x.before.rollbackSnapshot=some page
 restores : x.after.rollbackSnapshot.isSome=true → ¬ RolledBack x
 reload : ∀ page,x.after.evidence.independentReload=some page →
  x.before.evidence.independentReload=some page ∨
   (Reloads x page ∧ x.before.rollbackSnapshot.isSome=true)
 rollback : ∀ page,x.after.evidence.rollback=some page →
  x.before.evidence.rollback=some page ∨
   ∃ snapshot,x.before.rollbackSnapshot=some snapshot ∧ WritesBack x snapshot page

lemma Cycle.continues {x a:PageStep} {later:List PageStep} (cycle:Cycle x.before a later)
 (step:Continues x) : Cycle x.after a (later++[x]) where
 calm := by
  intro z mem
  rcases List.mem_append.1 mem with mem|mem
  · exact cycle.calm z mem
  · rw [List.mem_singleton.1 mem]
    exact step.calm
 differ := cycle.differ
 baseline := step.baseline.trans cycle.baseline
 expectedAfter := step.expectedAfter.trans cycle.expectedAfter
 transaction := by
  obtain ⟨result,applies,readback,preflight⟩:=cycle.transaction
  exact ⟨result,applies,step.readback.trans readback,step.preflight.trans preflight⟩
 point := fun page held=>cycle.point page (step.point page held)
 unrestored := by
  intro held z mem
  obtain ⟨page,hpage⟩:=Option.isSome_iff_exists.1 held
  rcases List.mem_append.1 mem with mem|mem
  · exact cycle.unrestored (by rw [step.point page hpage];rfl) z mem
  · rw [List.mem_singleton.1 mem]
    exact step.restores held
 reload := by
  intro page present
  rcases step.reload page present with present|⟨reloads,held⟩
  · obtain ⟨early,r,late,rfl,reloads,unrestored⟩:=cycle.reload page present
    exact ⟨early,r,late++[x],by simp,reloads,unrestored⟩
  · exact ⟨later,x,[],rfl,reloads,cycle.unrestored held⟩
 rollback := by
  intro page present
  rcases step.rollback page present with present|⟨snapshot,held,writes⟩
  · obtain ⟨r,mem,writes⟩:=cycle.rollback page present
    exact ⟨r,by simp [mem],writes⟩
  · rw [cycle.point snapshot held] at writes
    exact ⟨x,by simp,writes⟩

inductive EvidenceStep (x:PageStep) : Prop where
 | cleared (absent:x.after.evidence.readback=none)
 | opened (cycle:Cycle x.after x [])
 | continued (step:Continues x)

lemma Continues.of_same {x:PageStep} (calm:¬Clears x) (kept:¬RolledBack x)
 (evidence:x.after.evidence=x.before.evidence)
 (point:x.after.rollbackSnapshot=x.before.rollbackSnapshot) : Continues x :=
 ⟨calm,by rw [evidence],by rw [evidence],by rw [evidence],by rw [evidence],
  fun _ held=>by rw [←point,held],fun _=>kept,
  fun _ present => .inl (by rw [←evidence,present]),
  fun _ present => .inl (by rw [←evidence,present])⟩

/-- An answered transaction opens a cycle of its own. -/
lemma Cycle.opened {a:PageStep} {result:PhysicalPageCompareWriteResult}
 (applies:Applies a result) (differ:a.before.working≠a.before.baseline)
 (evidence:a.after.evidence =
  ({ a.before.beginApply.stageApply with state := .writing }.recordApply result).evidence)
 (point:a.after.rollbackSnapshot =
  ({ a.before.beginApply.stageApply with state := .writing }.recordApply
   result).rollbackSnapshot) : Cycle a.after a [] := by
 rw [recordApply_evidence] at evidence
 rw [recordApply_rollbackSnapshot] at point
 refine ⟨by simp,differ,by rw [evidence];rfl,by rw [evidence];rfl,
  ⟨result,applies,by rw [evidence],by rw [evidence];rfl⟩,fun _ held => ?_,by simp,
  fun _ present => ?_,fun _ present => ?_⟩
 · rw [point] at held
   split at held
   · cases held
   · exact (Option.some.inj held).symm
 · rw [evidence] at present
   cases present
 · rw [evidence] at present
   cases present

variable {s s':PageSession} {t:List BackendEvent}

lemma ApplyExit.evidenceStep {r:Result Unit} (h:ApplyExit s t r s') (inv:Invariant s) :
 EvidenceStep ⟨.applyAndVerify,s,t,r,s'⟩ := by
 cases h with
 | refused =>
  exact .continued (.of_same (by simp [Clears]) (by simp [RolledBack]) rfl rfl)
 | rejected _ _ e _ failed | gateRefused _ _ _ _ e _ failed => cases failed <;> exact .cleared rfl
 | transacted ready _ _ _ _ _ _ settled =>
  have differ:s.working≠s.baseline:=by
   obtain ⟨i,hi⟩:=(isDirty_eq_true s).1 ready.dirty
   exact fun same=>(inv.dirty_iff i).1 hi (congrFun same i).symm
  cases settled with
  | lost => exact .cleared rfl
  | unverified | verified =>
   exact .opened (.opened ⟨rfl,_,mem_transactionTrace ..⟩ differ rfl rfl)

/-- A failed step of a rollback or a reload keeps the cycle, less the page it had reset. -/
lemma FailedWith.evidenceStep {begun:PageSession} {e:Error} {state:PageSessionState}
 {op:Op} (h:FailedWith begun e state s')
 (continues:Continues ⟨op,s,t, .error e,{ begun with state := state }⟩) :
 EvidenceStep ⟨op,s,t, .error e,s'⟩ := by
 cases h with
 | disconnected => exact .cleared rfl
 | connected => exact .continued continues

/-- A refused operation changes nothing; without a page there is no evidence to keep. -/
lemma Invariant.evidenceStep_refused (inv:Invariant s) {op:Op} {e:Error}
 (calm:s.target≠none → ¬Clears ⟨op,s,t, .error e,s⟩) :
 EvidenceStep ⟨op,s,t, .error e,s⟩ := by
 by_cases unloaded:s.target=none
 · refine .cleared ?_
   rw [(inv.blank unloaded).evidence]
 · exact .continued (.of_same (calm unloaded) (by simp [RolledBack]) rfl rfl)

lemma RollbackExit.evidenceStep {r:Result Unit} (h:RollbackExit s t r s') (inv:Invariant s)
 : EvidenceStep ⟨.rollbackBaseline,s,t,r,s'⟩ := by
 have failed {target:PhysicalWriteTarget} {snapshot expected:Page} (t:List BackendEvent)
  (e:Error) (ready:RollbackReady s target snapshot expected) :
  Continues ⟨.rollbackBaseline,s,t, .error e,{ s.beginRollback with state := .error }⟩ :=
  ⟨by simp [Clears,beginRollback,lockWrite,ready.loaded],rfl,rfl,rfl,rfl,
   fun _ held=>held,by simp [RolledBack],fun _ present => .inl present,
   fun _ present=>by cases present⟩
 cases h with
 | refused => exact inv.evidenceStep_refused id
 | rejected ready _ e _ failure => exact failure.evidenceStep (failed _ e ready)
 | gateRefused ready _ _ _ e _ failure =>
  exact failure.evidenceStep (failed _ e ready)
 | transacted ready _ _ _ _ _ _ settled =>
  have calm:s.target≠none:=by simp [ready.loaded]
  cases settled with
  | lost =>
   exact .continued ⟨calm,rfl,rfl,rfl,rfl,fun _ held=>held,by simp [RolledBack],
    fun _ present => .inl present,fun _ present=>by cases present⟩
  | unverified result =>
   refine .continued ⟨calm,rfl,rfl,rfl,rfl,fun _ held=>held,by simp [RolledBack],
    fun _ present => .inl present,fun _ present => .inr ⟨_,ready.snapshot,rfl,_,_,
     result,mem_transactionTrace ..,Option.some.inj present⟩⟩
  | verified result =>
   refine .continued ⟨calm,rfl,rfl,rfl,rfl,fun _ held => ?_,fun held => ?_,
    fun _ present => .inl present,fun _ present => .inr ⟨_,ready.snapshot,rfl,_,_,
     result,mem_transactionTrace ..,Option.some.inj present⟩⟩
   · cases held
   · cases held

lemma ReloadExit.evidenceStep {r:Result Unit} (h:ReloadExit s t r s') (inv:Invariant s) :
 EvidenceStep ⟨.reloadPreservingRollback,s,t,r,s'⟩ := by
 have failed {target:PhysicalWriteTarget} (t:List BackendEvent) (e:Error)
  (state:PageSessionState) (ready:ReloadReady s target) :
  Continues
   ⟨.reloadPreservingRollback,s,t, .error e,{ s.beginReload with state := state }⟩ :=
  ⟨by simp [Clears,beginReload,lockWrite,ready.loaded],rfl,rfl,rfl,rfl,
   fun _ held=>held,by simp [RolledBack],fun _ present=>(by cases present),
   fun _ present => .inl present⟩
 cases h with
 | refused => exact inv.evidenceStep_refused id
 | rejected ready _ e _ failure => exact failure.evidenceStep (failed _ e _ ready)
 | unread ready _ _ e _ _ failure =>
  exact failure.evidenceStep (failed _ e _ ready)
 | @observed target ready ranges _ page _ read r s' settled =>
  have calm:s.target≠none:=by simp [ready.loaded]
  obtain ⟨full,length,rfl,hpage⟩:=pageVerdict_eq_ok read
  have reloads (page':Page) (present:some page=some page') :
   Reloads ⟨.reloadPreservingRollback,s,
    [⟨.getPhysicalRanges,ranges⟩,⟨pageRead target, .ok full⟩],r,s'⟩ page' :=
   ⟨rfl,target,full,length,by simp,hpage.trans (Option.some.inj present)⟩
  cases settled with
  | restored =>
   exact .continued ⟨calm,rfl,rfl,rfl,rfl,fun _ held=>(by cases held),
    by simp,fun page' present => .inr ⟨reloads page' present,ready.snapshot⟩,
    fun _ present => .inl present⟩
  | bound | mismatched | confirmed =>
   exact .continued ⟨calm,rfl,rfl,rfl,rfl,fun _ held=>held,by simp [RolledBack],
    fun page' present => .inr ⟨reloads page' present,ready.snapshot⟩,
    fun _ present => .inl present⟩

lemma StepExit.evidenceStep {op:Op} {r:Result Unit} (h:StepExit s op t r s')
 (inv:Invariant s) : EvidenceStep ⟨op,s,t,r,s'⟩ := by
 cases h with
 | load exit => cases exit <;> exact .cleared rfl
 | reload exit | apply exit | rollback exit => exact exit.evidenceStep inv
 | invalidate => exact .cleared rfl
 | edit edits edited =>
  have calm:¬Clears ⟨op,s,[],r,s'⟩ ∧ ¬RolledBack ⟨op,s,[],r,s'⟩:=by
   cases op <;> simp_all [Clears,RolledBack,Op.edits]
  cases edited <;> exact .continued (.of_same calm.1 calm.2 rfl rfl)
 | revertAll =>
  refine .continued (.of_same id (by simp [RolledBack]) ?_ ?_)
  · simp only [PageSession.revertAll,lockWrite]
    split <;> rfl
  · simp only [PageSession.revertAll,lockWrite]
    split <;> rfl
 | unlock _ _ unlocking =>
  have calm:¬Clears ⟨op,s,[],r,s'⟩ ∧ ¬RolledBack ⟨op,s,[],r,s'⟩:=by
   cases op <;> simp_all [Clears,RolledBack,Op.retypedPfn?]
  cases unlocking <;> exact .continued (.of_same calm.1 calm.2 rfl rfl)

lemma run_cycle {h:List PageStep} (run:machine.Run h s) :
 s.evidence.readback=none ∨ ∃ past a later,h=past++a::later ∧ Cycle s a later := by
 refine run.history_invariant (fun h s=>s.evidence.readback=none ∨
  ∃ past a later,h=past++a::later ∧ Cycle s a later) (.inl rfl) ?_
 intro past x before valid cycle
 have inv:=run_invariant before
 cases (step_exit x valid inv).evidenceStep inv with
 | cleared absent => exact .inl absent
 | opened cycle => exact .inr ⟨past,x,[],rfl,cycle⟩
 | continued step =>
  rcases cycle with absent|⟨first,a,later,rfl,cycle⟩
  · exact .inl (step.readback.trans absent)
  · exact .inr ⟨first,a,later++[x],by simp,cycle.continues step⟩

lemma complete_iff (e:PhysicalPageEvidence) : e.complete=true ↔
 ∃ before after,e.baseline=some before ∧ e.preflight=some before ∧
  e.expectedAfter=some after ∧ e.readback=some after ∧
  e.independentReload=some after ∧ e.rollback=some before := by
 obtain ⟨_,_,_,_,_,_⟩:=e
 unfold PhysicalPageEvidence.complete
 split
 · rename_i b p a rb ir ro hb hp ha hrb hir hro
   subst hb hp ha hrb hir hro
   simp only [Bool.and_eq_true,decide_eq_true_eq,Option.some.injEq]
   constructor
   · rintro ⟨⟨⟨rfl,rfl⟩,rfl⟩,rfl⟩
     exact ⟨_,_,rfl,rfl,rfl,rfl,rfl,rfl⟩
   · rintro ⟨_,_,rfl,rfl,rfl,rfl,rfl,rfl⟩
     exact ⟨⟨⟨rfl,rfl⟩,rfl⟩,rfl⟩
 · rename_i absent
   constructor
   · rintro ⟨⟩
   · rintro ⟨_,_,hb,hp,ha,hrb,hir,hro⟩
     exact (absent _ _ _ _ _ _ hb hp ha hrb hir hro).elim

/-- Complete evidence names the pages of one cycle: an apply whose answer read back the page it
 wrote, a reload that read the same page, and a rollback whose answer read back the page the
 apply had started from. Their success does not follow; a reload after a successful rollback
 cannot be part of it. -/
theorem run_complete_evidence {h : List PageStep} {s : PageSession} (run : machine.Run h s)
 (complete : s.evidence.complete=true) :
 ∃ past a early x late,h=past++a::(early++x::late) ∧
  s.evidence.baseline=some a.before.baseline ∧
  s.evidence.expectedAfter=some a.before.working ∧
  (∃ result,Applies a result ∧ result.outcome≠.conflict ∧
   result.readback=a.before.working) ∧
  Reloads x a.before.working ∧
  (∃ y∈early++x::late,WritesBack y a.before.baseline a.before.baseline) ∧
  (∀ z∈early,¬ RolledBack z) ∧
  ∀ z∈early++x::late,¬ Clears z := by
 obtain ⟨before,after,hb,hp,ha,hrb,hir,hro⟩ := (complete_iff _).1 complete
 rcases run_cycle run with absent | ⟨past,a,_,rfl,cycle⟩
 · cases absent.symm.trans hrb
 · obtain rfl : a.before.baseline=before := Option.some.inj (cycle.baseline.symm.trans hb)
   obtain rfl : a.before.working=after := Option.some.inj (cycle.expectedAfter.symm.trans ha)
   obtain ⟨result,applies,readback,preflight⟩ := cycle.transaction
   have reads : result.readback=a.before.working := Option.some.inj (readback.symm.trans hrb)
   have agreed : result.outcome≠.conflict := by
    intro conflict
    rw [if_pos conflict,reads] at preflight
    exact cycle.differ (Option.some.inj (preflight.symm.trans hp))
   obtain ⟨early,x,late,rfl,reloads,unrestored⟩ := cycle.reload _ hir
   exact ⟨past,a,early,x,late,rfl,cycle.baseline,cycle.expectedAfter,
    ⟨result,applies,agreed,reads⟩,reloads,cycle.rollback _ hro,unrestored,cycle.calm⟩

section Sample

lemma reloadStep_evidence (s:PageSession) (page:Page) :
 (reloadStep s page).after.evidence={ s.evidence with independentReload := some page } := by
 have settled:=observeReload_observed { s.beginReload with state := .verifying } rfl page
 change ReloadObserved _ page (reloadStep s page).result (reloadStep s page).after at settled
 generalize (reloadStep s page).result=r,(reloadStep s page).after=s' at settled ⊢
 cases settled <;> rfl

lemma reloadStep_mismatch {page:Page} (recovery:s.recoveryObservationRequired=false)
 (changed:page≠s.baseline) : (reloadStep s page).result.isOk=false := by
 simp [reloadStep,observeReload,beginReload,lockWrite,recovery,changed,Result.isOk]

def transferredPage (page : Page) : PhysicalPageCompareWriteResult :=
 { outcome := .applied,transferred := UInt32.ofNat kPhysicalPageSize,readback := page }

def openGate : List BackendEvent :=
 [⟨.setWriteEnabled false, .error (makeError .ioFailure "gate")⟩,⟨.setWriteEnabled false, .ok ()⟩]

lemma openGate_closing : WriteGateGuard.Closing openGate (.error (makeError .ioFailure "gate")) :=
 .failed _ _

/-- The transaction of the sample apply succeeds, but the gate does not close at once. -/
def unclosedApply : PageStep :=
 applyStep sampleUnlocked (.ok (transferredPage sampleUnlocked.working)) openGate
  (.error (makeError .ioFailure "gate"))

def unclosedUnlock : PageStep := unlockRollbackStep unclosedApply.after

def unclosedRollback : PageStep :=
 rollbackStep unclosedUnlock.after zeroPage sampleUnlocked.working
  (.ok (transferredPage zeroPage)) openGate (.error (makeError .ioFailure "gate"))

def unclosedRevert : PageStep := revertAllStep unclosedRollback.after

def unclosedReload : PageStep := reloadStep unclosedRevert.after sampleUnlocked.working

def unclosedHistory : List PageStep :=
 [loadStep {} zeroPage,editStep sampleLoaded 1,unlockStep sampleEdited,unclosedApply,
  unclosedUnlock,unclosedRollback,unclosedRevert,unclosedReload]

lemma unclosedHistory_run : machine.Run unclosedHistory unclosedReload.after := by
 have applied:=sampleUnlocked_run.snoc unclosedApply rfl
  (applyStep_valid sampleUnlocked_ready _ openGate_closing)
 have unlocked:=applied.snoc unclosedUnlock rfl (unlockRollbackStep_valid rfl rfl rfl)
 have rolled:=unlocked.snoc unclosedRollback rfl
  (rollbackStep_valid ⟨rfl,rfl,rfl,rfl⟩ _ openGate_closing)
 have reverted:=rolled.snoc unclosedRevert rfl (revertAllStep_valid _)
 refine reverted.snoc unclosedReload rfl (reloadStep_valid ⟨rfl,fun dirty => ?_,rfl,rfl⟩ _)
 obtain ⟨i,hi⟩:=(isDirty_eq_true _).1 dirty
 cases hi

lemma unclosedReload_evidence : unclosedReload.after.evidence.complete=true := by
 rw [complete_iff]
 refine ⟨zeroPage,sampleUnlocked.working,?_⟩
 rw [unclosedReload,reloadStep_evidence]
 exact ⟨rfl,rfl,rfl,rfl,rfl,rfl⟩

theorem unclosedHistory_documents : ∃ past a early x late,
 unclosedHistory=past++a::(early++x::late) ∧
  unclosedReload.after.evidence.baseline=some a.before.baseline ∧
  unclosedReload.after.evidence.expectedAfter=some a.before.working ∧
  (∃ result,Applies a result ∧ result.outcome≠.conflict ∧
   result.readback=a.before.working) ∧
  Reloads x a.before.working ∧
  (∃ y∈early++x::late,WritesBack y a.before.baseline a.before.baseline) ∧
  (∀ z∈early,¬ RolledBack z) ∧
  ∀ z∈early++x::late,¬ Clears z :=
 run_complete_evidence unclosedHistory_run unclosedReload_evidence

/-- Complete evidence without any success: the gate stays open after the apply and after the
 rollback, and the reload comes last and reports a mismatch. -/
theorem unclosedHistory_complete : machine.Run unclosedHistory unclosedReload.after ∧
 unclosedReload.after.evidence.complete=true ∧
 ∀ x∈unclosedHistory,x.op=.applyAndVerify ∨ x.op=.reloadPreservingRollback ∨
  x.op=.rollbackBaseline → x.result.isOk=false := by
 refine ⟨unclosedHistory_run,unclosedReload_evidence,?_⟩
 intro x mem op
 simp only [unclosedHistory,List.mem_cons,List.not_mem_nil,or_false] at mem
 rcases mem with rfl | rfl | rfl | rfl | rfl | rfl | rfl | rfl
 · simp [loadStep] at op
 · simp [editStep] at op
 · simp [unlockStep] at op
 · rfl
 · simp [unclosedUnlock,unlockRollbackStep] at op
 · rfl
 · simp [unclosedRevert,revertAllStep] at op
 · refine reloadStep_mismatch rfl fun same => ?_
   exact absurd (congrFun same (⟨0,by decide⟩ : Fin kPhysicalPageSize)) (by decide)

end Sample

end KDbg.PageSession
