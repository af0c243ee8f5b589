import KDbg.PageSessionUnlock
set_option autoImplicit false
/-!
How long a rollback point lasts. A point is outstanding from the write that may
have damaged the page until it is released; an apply that is retried while the
session still holds a point is where the code gives points up.
-/
namespace KDbg.PageSession
open Interaction

/-- An apply whose compare/write against this page was not answered with a conflict. -/
def Wrote (x : PageStep) (page : Page) : Prop :=
 x.op=.applyAndVerify ∧ ∃ (address : UInt64) (desired : Page)
  (answer : Result PhysicalPageCompareWriteResult),
  ⟨.compareWritePhysicalPage address page desired,answer⟩∈x.trace ∧
   ∀ result,answer=.ok result → result.outcome≠.conflict

/-- The step ends the need for the point: a rollback or a later apply succeeds, the page is
 replaced or unloaded, or a reload reads this very page. -/
def Releases (x : PageStep) (page : Page) : Prop :=
 match x.op with
 | .load _ | .invalidate => True
 | .applyAndVerify | .rollbackBaseline => x.result=.ok () ∨ x.after.target=none
 | .reloadPreservingRollback => x.after.target=none ∨
  ∃ target bytes,∃ full : bytes.length=kPhysicalPageSize,
   ⟨pageRead target, .ok bytes⟩∈x.trace ∧ pageOfBytes bytes full=page
 | _ => False

def Outstanding (h : List PageStep) (page : Page) : Prop :=
 ∃ a,Since (fun z => ¬ Releases z page) h a ∧ Wrote a page

/-- A retried apply that gives up the point the session holds: its gate is refused, its
 transaction conflicts, or it fails with another page as its own point. -/
def Discards (x : PageStep) : Prop :=
 x.op=.applyAndVerify ∧ x.after.target≠none ∧ x.result≠.ok () ∧
  ∃ page,x.before.rollbackSnapshot=some page ∧
   ((∃ e,⟨.setWriteEnabled true, .error e⟩∈x.trace) ∨
    ∃ (address : UInt64) (expected desired : Page)
     (answer : Result PhysicalPageCompareWriteResult),
     ⟨.compareWritePhysicalPage address expected desired,answer⟩∈x.trace ∧
      ((∃ result,answer=.ok result ∧ result.outcome=.conflict) ∨
       x.before.baseline≠page))

variable {s s':PageSession} {page:Page}

lemma FailedWith.retains {begun:PageSession} {e:Error} {state:PageSessionState}
 (h:FailedWith begun e state s') (held:begun.rollbackSnapshot=some page)
 (loaded:s'.target≠none) : s'.rollbackSnapshot=some page := by
 cases h with
 | disconnected => exact (loaded rfl).elim
 | connected => exact held

variable {t:List BackendEvent} {r:Result Unit}

lemma ApplyExit.retains (h:ApplyExit s t r s') (held:s.rollbackSnapshot=some page)
 (needed:¬Releases ⟨.applyAndVerify,s,t,r,s'⟩ page)
 (careful:¬Discards ⟨.applyAndVerify,s,t,r,s'⟩) : s'.rollbackSnapshot=some page := by
 have loaded:s'.target≠none:=fun hn=>needed (.inr hn)
 have unsuccessful:r≠.ok ():=fun hr=>needed (.inl hr)
 have kept (address:UInt64) (expected desired:Page)
  (answer:Result PhysicalPageCompareWriteResult)
  (mem:⟨.compareWritePhysicalPage address expected desired,answer⟩∈t) :
  (∀result,answer=.ok result → result.outcome≠.conflict) ∧ s.baseline=page := by
  constructor
  · exact fun result hr conflict=>careful ⟨rfl,loaded,unsuccessful,page,held,
     .inr ⟨address,expected,desired,answer,mem, .inl ⟨result,hr,conflict⟩⟩⟩
  · by_contra hne
    exact careful ⟨rfl,loaded,unsuccessful,page,held,
     .inr ⟨address,expected,desired,answer,mem, .inr hne⟩⟩
 cases h with
 | refused => exact held
 | rejected _ _ e _ failed => exact failed.retains held loaded
 | gateRefused _ _ _ _ e opening =>
  refine (careful ⟨rfl,loaded,unsuccessful,page,held, .inl ?_⟩).elim
  cases opening with
  | refused e => exact ⟨e,by simp⟩
 | transacted _ _ _ answer _ _ _ settled =>
  obtain ⟨agreed,same⟩:=kept _ _ _ answer (mem_transactionTrace ..)
  cases settled with
  | lost => exact congrArg some same
  | unverified result =>
   refine (recordApply_rollbackSnapshot _ _).trans ((if_neg (agreed result rfl)).trans ?_)
   exact congrArg some same
  | verified => exact (unsuccessful rfl).elim

lemma RollbackExit.retains (h:RollbackExit s t r s') (held:s.rollbackSnapshot=some page)
 (needed:¬Releases ⟨.rollbackBaseline,s,t,r,s'⟩ page) :
 s'.rollbackSnapshot=some page := by
 have loaded:s'.target≠none:=fun hn=>needed (.inr hn)
 cases h with
 | refused => exact held
 | rejected _ _ e _ failed | gateRefused _ _ _ _ e _ failed => exact failed.retains held loaded
 | transacted _ _ _ _ _ _ _ settled =>
  cases settled with
  | lost | unverified => exact held
  | verified => exact (needed (.inl rfl)).elim

lemma ReloadExit.retains (h:ReloadExit s t r s') (held:s.rollbackSnapshot=some page)
 (needed:¬Releases ⟨.reloadPreservingRollback,s,t,r,s'⟩ page) :
 s'.rollbackSnapshot=some page := by
 have loaded:s'.target≠none:=fun hn=>needed (.inl hn)
 cases h with
 | refused => exact held
 | rejected _ _ e _ failed | unread _ _ _ e _ _ failed => exact failed.retains held loaded
 | @observed target _ _ _ live _ read _ _ settled =>
  obtain ⟨full,length,rfl,hlive⟩:=pageVerdict_eq_ok read
  cases settled with
  | restored _ same =>
   obtain rfl : page=live := Option.some.inj (held.symm.trans same)
   exact (needed (.inr ⟨target,full,length,by simp,hlive⟩)).elim
  | bound | mismatched | confirmed => exact held

lemma StepExit.retains {op:Op} (h:StepExit s op t r s')
 (held:s.rollbackSnapshot=some page) (needed:¬Releases ⟨op,s,t,r,s'⟩ page)
 (careful:¬Discards ⟨op,s,t,r,s'⟩) : s'.rollbackSnapshot=some page := by
 cases h with
 | load | invalidate => exact (needed trivial).elim
 | reload exit | rollback exit => exact exit.retains held needed
 | edit _ edited => cases edited <;> exact held
 | revertAll =>
  unfold PageSession.revertAll
  split <;> exact held
 | unlock _ _ unlocking => cases unlocking <;> exact held
 | apply exit => exact exit.retains held needed careful

lemma StepExit.saves_of_wrote {op:Op} (h:StepExit s op t r s')
 (wrote:Wrote ⟨op,s,t,r,s'⟩ page) : s'.rollbackSnapshot=some page := by
 obtain ⟨rfl,_,_,_,mem,agreed⟩:=wrote
 obtain ⟨k,hk⟩:=List.mem_iff_getElem?.1 mem
 cases h with
 | edit edits => cases edits
 | unlock _ retyped => cases retyped
 | apply exit =>
  cases exit with
  | refused => simp at mem
  | rejected =>
   refine (Quiet.not_write ?_ hk rfl).elim
   simp [Quiet,BackendCall.isCompareWrite]
  | gateRefused _ _ _ _ e opening =>
   refine (Quiet.not_write ?_ hk rfl).elim
   simpa [Quiet,BackendCall.isCompareWrite] using opening_quiet opening
  | transacted _ _ _ _ _ _ closes settled =>
   obtain ⟨-,event⟩:=transactionTrace_write (closing_quiet closes) hk rfl
   cases event
   cases settled with
   | lost => rfl
   | unverified result | verified result =>
    exact (recordApply_rollbackSnapshot _ _).trans (if_neg (agreed result rfl))

/-- As long as no step gives a point up, every outstanding point is the one the session holds. -/
theorem run_keeps_rollback_point {h : List PageStep} {s : PageSession} (run : machine.Run h s)
 (careful : ∀ x∈h,¬ Discards x) (page : Page) (outstanding : Outstanding h page) :
 s.rollbackSnapshot=some page := by
 refine run.history_invariant (fun h s=>(∀ x∈h,¬ Discards x) →
  ∀ page,Outstanding h page → s.rollbackSnapshot=some page) ?_ ?_ careful page outstanding
 · rintro-_ ⟨a,since,-⟩
   exact absurd since.mem (by simp)
 · rintro _ x before valid kept careful page ⟨a,since,wrote⟩
   have exit := step_exit x valid (run_invariant before)
   rcases since.of_snoc with rfl | ⟨since,needed⟩
   · exact exit.saves_of_wrote wrote
   · have held := kept (fun y hy=>careful y (by simp [hy])) page ⟨a,since,wrote⟩
     exact exit.retains held needed (careful x (by simp))

theorem failedApply_keeps_point : Outstanding
 ([loadStep {} zeroPage,editStep sampleLoaded 1,unlockStep sampleEdited]++[failedApply])
 zeroPage ∧ failedApply.after.rollbackSnapshot=some zeroPage := by
 have outstanding : Outstanding ([loadStep {} zeroPage,editStep sampleLoaded 1,
  unlockStep sampleEdited]++[failedApply]) zeroPage :=
  ⟨failedApply, .here _ _ _,rfl,0x10000,_,_,mem_transactionTrace ..,fun _ hr=>by
   cases hr
   simp⟩
 refine ⟨outstanding,run_keeps_rollback_point failedApply_run ?_ zeroPage outstanding⟩
 rintro x mem ⟨op,-,-,_,held,-⟩
 simp only [List.cons_append,List.nil_append,List.mem_cons,List.not_mem_nil,or_false] at mem
 rcases mem with rfl | rfl | rfl | rfl
 · cases op
 · cases op
 · cases op
 · cases held

def damagingApply : PageStep :=
 applyStep sampleUnlocked (.ok { outcome := .failure,readback := sampleUnlocked.working })
  [⟨.setWriteEnabled false, .ok ()⟩] (.ok ())

def refusedRetry : PageStep :=
 applyRefusedStep (unlockStep damagingApply.after).after (makeError .ioFailure "gate")

lemma damagingApply_after : damagingApply.after.target=some sampleTarget ∧
 damagingApply.after.dirty=sampleUnlocked.dirty := by
 constructor
 · rfl
 · simp [damagingApply,applyStep,settleApply,verifyApply,beginApply,stageApply,lockWrite]

lemma refusedRetry_after : refusedRetry.result.isOk=false ∧
 refusedRetry.after.target=some sampleTarget ∧
 refusedRetry.after.rollbackSnapshot=none := by
 have code : (makeError .ioFailure "gate").code≠.backendDisconnected := by simp [makeError]
 have failed : refusedRetry.result=_ ∧ refusedRetry.after=_ :=
  ⟨congrArg Prod.fst (if_neg code),congrArg Prod.snd (if_neg code)⟩
 exact ⟨rfl,damagingApply_after.1,rfl⟩

lemma refusedRetry_run : machine.Run
 ([loadStep {} zeroPage,editStep sampleLoaded 1,unlockStep sampleEdited,damagingApply,
  unlockStep damagingApply.after,refusedRetry]) refusedRetry.after := by
 have dirty:damagingApply.after.isDirty=true:=by
  exact sampleUnlocked_ready.dirty
 have applied:=sampleUnlocked_run.snoc damagingApply rfl
  (applyStep_valid sampleUnlocked_ready _ .closed)
 have unlocked:=applied.snoc (unlockStep damagingApply.after) rfl
  (unlockStep_valid damagingApply_after.1 dirty)
 exact unlocked.snoc refusedRetry rfl
  (applyRefusedStep_valid (unlockStep_ready damagingApply_after.1 dirty) _)

/-- A failed apply has damaged the page; its retry writes nothing and drops the only copy of
 the page as it was before. -/
theorem refusedRetry_loses_point : machine.Run
 [loadStep {} zeroPage,editStep sampleLoaded 1,unlockStep sampleEdited,damagingApply,
  unlockStep damagingApply.after,refusedRetry] refusedRetry.after ∧
 Outstanding [loadStep {} zeroPage,editStep sampleLoaded 1,unlockStep sampleEdited,
  damagingApply,unlockStep damagingApply.after,refusedRetry] zeroPage ∧
 refusedRetry.after.rollbackSnapshot≠some zeroPage := by
 refine ⟨refusedRetry_run,⟨damagingApply,⟨[loadStep {} zeroPage,editStep sampleLoaded 1,
  unlockStep sampleEdited],[unlockStep damagingApply.after,refusedRetry],rfl,?_⟩,rfl,
  0x10000,_,_,mem_transactionTrace ..,fun _ hr => ?_⟩,?_⟩
 · intro z mem
   simp only [List.mem_cons,List.not_mem_nil,or_false] at mem
   rcases mem with rfl | rfl
   · exact id
   · rintro (succeeded | unloaded)
     · have failed := refusedRetry_after.1
       rw [succeeded] at failed
       cases failed
     · cases refusedRetry_after.2.1.symm.trans unloaded
 · cases hr
   simp
 · rw [refusedRetry_after.2.2]
   simp

/-- A held point with no observed page bound to it is waiting for an observation. -/
def RecoveryPending (s : PageSession) : Prop :=
 s.rollbackSnapshot.isSome=true → s.rollbackExpected=none →
  s.recoveryObservationRequired=true

/-- A retried apply that drops a pending observation and then fails its range check. -/
def Strands (x : PageStep) : Prop :=
 x.op=.applyAndVerify ∧ x.before.recoveryObservationRequired=true ∧
  ∃ target ranges e,x.before.target=some target ∧ ⟨.getPhysicalRanges,ranges⟩∈x.trace ∧
   rangeVerdict target ranges=.error e ∧ e.code≠.backendDisconnected

lemma FailedWith.recoveryPending {begun:PageSession} {e:Error} {state:PageSessionState}
 (h:FailedWith begun e state s') (pending:RecoveryPending begun) : RecoveryPending s' := by
 cases h with
 | disconnected => exact fun held=>by cases held
 | connected => exact pending

lemma ApplyExit.recoveryPending (h:ApplyExit s t r s') (pending:RecoveryPending s)
 (careful:¬Strands ⟨.applyAndVerify,s,t,r,s'⟩) : RecoveryPending s' := by
 cases h with
 | refused => exact pending
 | @rejected target ready ranges e verdict _ failed =>
  cases failed with
  | disconnected => exact fun held=>by cases held
  | connected code =>
   intro held unbound
   exact (careful ⟨rfl,pending held unbound,target,ranges,e,ready.loaded,by simp,verdict,
    code⟩).elim
 | gateRefused _ _ _ _ e _ failed =>
  exact failed.recoveryPending fun held=>by cases held
 | transacted _ _ verdict _ _ _ _ settled =>
  cases settled with
  | lost => exact fun _ _=>rfl
  | unverified result =>
   intro held unbound
   by_cases conflict:result.outcome=.conflict
   · simp [recordApply_rollbackSnapshot,conflict] at held
   · simp [recordApply_rollbackExpected,conflict] at unbound
  | verified _ verdict =>
   intro _ unbound
   simp [applied,recordApply_rollbackExpected,verdict.1] at unbound

lemma RollbackExit.recoveryPending (h:RollbackExit s t r s') (pending:RecoveryPending s) :
 RecoveryPending s' := by
 cases h with
 | refused => exact pending
 | rejected _ _ e _ failed => exact failed.recoveryPending pending
 | gateRefused _ _ _ _ e _ failed =>
  exact failed.recoveryPending pending
 | transacted ready _ _ _ _ _ _ settled =>
  cases settled with
  | lost => exact fun _ _=>rfl
  | unverified result =>
   intro _ unbound
   have bound:=ready.expected
   by_cases conflict:result.outcome=.conflict
   · simp [conflict,beginRollback,lockWrite,bound] at unbound
   · simp [conflict] at unbound
  | verified => exact fun held=>by cases held

lemma ReloadExit.recoveryPending (h:ReloadExit s t r s') (pending:RecoveryPending s) :
 RecoveryPending s' := by
 cases h with
 | refused => exact pending
 | rejected _ _ e _ failed | unread _ _ _ e _ _ failed => exact failed.recoveryPending pending
 | observed _ _ _ _ _ _ settled =>
  have absent (recovery:s.recoveryObservationRequired=false) (held:_) (unbound:_) :
   False := Bool.false_ne_true (recovery.symm.trans (pending held unbound))
  cases settled with
  | restored => exact fun held=>by cases held
  | bound => exact fun _ unbound=>by cases unbound
  | mismatched recovery =>
   exact fun held unbound=>(absent recovery held unbound).elim
  | confirmed recovery => exact fun held unbound=>(absent recovery held unbound).elim

lemma StepExit.recoveryPending {op:Op} (h:StepExit s op t r s') (pending:RecoveryPending s)
 (careful:¬Strands ⟨op,s,t,r,s'⟩) : RecoveryPending s' := by
 cases h with
 | load exit => cases exit <;> exact fun held=>by cases held
 | reload exit | rollback exit => exact exit.recoveryPending pending
 | invalidate => exact fun held=>by cases held
 | edit _ edited => cases edited <;> exact pending
 | revertAll =>
  unfold PageSession.revertAll
  split <;> exact pending
 | unlock _ _ unlocking => cases unlocking <;> exact pending
 | apply exit => exact exit.recoveryPending pending careful

lemma run_recoveryPending {h:List PageStep} (run:machine.Run h s)
 (careful:∀x∈h,¬Strands x) : RecoveryPending s := by
 refine run.history_invariant (fun h s=>(∀x∈h,¬Strands x)→RecoveryPending s) ?_ ?_ careful
 · exact fun _ held=>by cases held
 · intro _ x before valid pending careful
   have exit:=step_exit x valid (run_invariant before)
   exact exit.recoveryPending (pending fun y hy=>careful y (by simp [hy])) (careful x (by simp))

/-- Every range report of the trace covers the page, and every read returns all of it. -/
def WorkingIO (target : PhysicalWriteTarget) (t : List BackendEvent) : Prop :=
 (∀ ranges,⟨.getPhysicalRanges,ranges⟩∈t → rangeVerdict target ranges=.ok ()) ∧
  ∀ bytes,⟨pageRead target,bytes⟩∈t → ∃ page,pageVerdict bytes=.ok page

lemma reload_recovers (inv:Invariant s) (held:s.rollbackSnapshot=some page)
 (recovery:s.recoveryObservationRequired=true) :
 ∃ target,s.target=some target ∧
  ∀t r s',s.reloadPreservingRollback.Exec t (r,s') → WorkingIO target t →
   r=.ok () ∧ ∃ bytes live,⟨pageRead target,bytes⟩∈t ∧ pageVerdict bytes=.ok live ∧
    (s'.canRollback=true ∨ live=page) := by
 have loaded:s.target≠none:=fun hn=>by
  rw [(inv.blank hn).rollbackSnapshot] at held
  cases held
 obtain ⟨target,loaded⟩:=Option.ne_none_iff_exists'.1 loaded
 have ready : ReloadReady s target :=
  ⟨loaded,fun _=>recovery,by rw [held];rfl,inv.operationActive⟩
 refine ⟨target,loaded,fun t r s' exec working => ?_⟩
 obtain ⟨ranged,full⟩:=working
 cases reload_exit exec with
 | refused e guard => exact (guard target ready).elim
 | @rejected target' ready' ranges e verdict _ _ =>
  obtain rfl : target'=target := Option.some.inj (ready'.loaded.symm.trans loaded)
  cases verdict.symm.trans (ranged ranges (by simp))
 | @unread target' ready' _ bytes e _ read _ _ =>
  obtain rfl : target'=target := Option.some.inj (ready'.loaded.symm.trans loaded)
  obtain ⟨_,hlive⟩:=full bytes (by simp)
  cases read.symm.trans hlive
 | @observed target' ready' _ bytes live _ read _ _ settled =>
  obtain rfl : target'=target := Option.some.inj (ready'.loaded.symm.trans loaded)
  suffices settles : r=.ok () ∧ (s'.canRollback=true ∨ live=page) from
   ⟨settles.1,bytes,live,by simp,read,settles.2⟩
  cases settled with
  | restored _ same => exact ⟨rfl, .inr (Option.some.inj (same.symm.trans held))⟩
  | bound =>
   simp [canRollback,observed,beginReload,lockWrite,held]
  | mismatched settled | confirmed settled => cases recovery.symm.trans settled

/-- A lost answer keeps a way back as long as no retry drops the pending observation. -/
theorem run_recovery_path {h : List PageStep} {s : PageSession} (run : machine.Run h s)
 (careful : ∀ x∈h,¬ Strands x) {page : Page} (held : s.rollbackSnapshot=some page)
 (unbound : s.rollbackExpected=none) :
 s.recoveryObservationRequired=true ∧ ∃ target,s.target=some target ∧
  ∀ t r s',s.reloadPreservingRollback.Exec t (r,s') → WorkingIO target t →
   r=.ok () ∧ ∃ bytes live,⟨pageRead target,bytes⟩∈t ∧ pageVerdict bytes=.ok live ∧
    (s'.canRollback=true ∨ live=page) := by
 have recovery := run_recoveryPending run careful (by rw [held]; rfl) unbound
 exact ⟨recovery,reload_recovers (run_invariant run) held recovery⟩

def lostApply : PageStep :=
 applyStep sampleUnlocked (.error (makeError .ioFailure "lost")) [⟨.setWriteEnabled false, .ok ()⟩]
  (.ok ())

lemma lostApply_run : machine.Run
 [loadStep {} zeroPage,editStep sampleLoaded 1,unlockStep sampleEdited,lostApply]
 lostApply.after :=
 sampleUnlocked_run.snoc lostApply rfl (applyStep_valid sampleUnlocked_ready _ .closed)

theorem lostApply_recovery_path : lostApply.after.recoveryObservationRequired=true ∧
 ∃ target,lostApply.after.target=some target ∧
  ∀ t r s',lostApply.after.reloadPreservingRollback.Exec t (r,s') → WorkingIO target t →
   r=.ok () ∧ ∃ bytes live,⟨pageRead target,bytes⟩∈t ∧ pageVerdict bytes=.ok live ∧
    (s'.canRollback=true ∨ live=zeroPage) := by
 refine run_recovery_path lostApply_run ?_ rfl rfl
 rintro x mem ⟨op,recovery,-⟩
 simp only [List.mem_cons,List.not_mem_nil,or_false] at mem
 rcases mem with rfl | rfl | rfl | rfl
 · cases op
 · cases op
 · cases op
 · cases recovery

def rejectedRetry : PageStep :=
 applyRejectedStep (unlockStep lostApply.after).after (makeError .ioFailure "ranges")

/-- After the retry the pre-apply page is held, nothing is bound to it, no observation is
 pending, and every reload is refused. -/
theorem rejectedRetry_strands : machine.Run
 [loadStep {} zeroPage,editStep sampleLoaded 1,unlockStep sampleEdited,lostApply,
  unlockStep lostApply.after,rejectedRetry] rejectedRetry.after ∧
 rejectedRetry.after.rollbackSnapshot=some zeroPage ∧
 rejectedRetry.after.rollbackExpected=none ∧
 rejectedRetry.after.recoveryObservationRequired=false ∧
 ∀ t r s',rejectedRetry.after.reloadPreservingRollback.Exec t (r,s') →
  r.isOk=false ∧ t=[] ∧ s'=rejectedRetry.after := by
 have dirty : lostApply.after.isDirty=true := by
  have same : lostApply.after.dirty=sampleUnlocked.dirty := rfl
  exact sampleUnlocked_ready.dirty
 have unlocked := lostApply_run.snoc (unlockStep lostApply.after) rfl
  (unlockStep_valid rfl dirty)
 have run := unlocked.snoc rejectedRetry rfl
  (applyRejectedStep_valid (unlockStep_ready rfl dirty) _)
 have same : rejectedRetry.after.dirty=lostApply.after.dirty := by
  rfl
 have idle : rejectedRetry.after.recoveryObservationRequired=false := by
  rfl
 refine ⟨run,by rfl,by rfl,idle,
  fun t r _ exec => ?_⟩
 have stranded (target : PhysicalWriteTarget) : ¬ ReloadReady rejectedRetry.after target := by
  intro ready
  have staged := ready.staged (by rw [isDirty_congr same,dirty])
  cases idle.symm.trans staged
 cases reload_exit exec with
 | refused => exact ⟨rfl,rfl,rfl⟩
 | rejected ready | unread ready | observed ready => exact (stranded _ ready).elim

end KDbg.PageSession
