import KDbg.PageSessionProvenance
set_option autoImplicit false
/-!
The history of the rollback pair: which transaction saved the pre-apply page,
and which step last observed the page that a rollback will expect.
-/
namespace KDbg.PageSession
open Interaction

def Quiet (t : List BackendEvent) : Prop := ∀ event∈t,event.call.isCompareWrite=false

variable {t:List BackendEvent} {r:Result Unit}

lemma opening_quiet (h:WriteGateGuard.Opening t r) : Quiet t := by
 cases h <;> simp [Quiet,BackendCall.isCompareWrite]

lemma closing_quiet (h:WriteGateGuard.Closing t r) : Quiet t := by
 cases h <;> simp [Quiet,BackendCall.isCompareWrite]

lemma transactionTrace_write {target:PhysicalWriteTarget} {expected desired:Page}
 {ranges:Result (List PhysicalRange)} {answer:Result PhysicalPageCompareWriteResult}
 {closing:List BackendEvent} (quiet:Quiet closing) {k:ℕ} {event:BackendEvent}
 (hk:(transactionTrace target expected desired ranges answer closing)[k]?=some event)
 (write:event.call.isCompareWrite=true) :
 k=2 ∧ event=⟨.compareWritePhysicalPage target.address.physicalAddress expected desired,
  answer⟩ := by
 unfold transactionTrace at hk
 match k with
 | 0 =>
  obtain rfl := Option.some.inj hk
  cases write
 | 1 =>
  obtain rfl := Option.some.inj hk
  cases write
 | 2 =>
  obtain rfl := Option.some.inj hk
  exact ⟨rfl,rfl⟩
 | k+3 =>
  rw [quiet event (List.mem_of_getElem? hk)] at write
  cases write

def Writes (x : PageStep) : Prop := ∃ event∈x.trace,event.call.isCompareWrite=true

/-- The step observes a complete page for the rollback: a transaction answer other than a
 conflict, or the page a pending recovery is bound to. -/
inductive Observes (x:PageStep) (page:Page) : Prop where
 | transaction (address:UInt64) (expected desired:Page)
  (result:PhysicalPageCompareWriteResult)
  (mem:⟨.compareWritePhysicalPage address expected desired, .ok result⟩∈x.trace)
  (outcome:result.outcome≠.conflict) (readback:result.readback=page)
 | recovery (target:PhysicalWriteTarget) (bytes:List UInt8)
  (full:bytes.length=kPhysicalPageSize) (op:x.op=.reloadPreservingRollback)
  (pending:x.before.recoveryObservationRequired=true) (succeeded:x.result=.ok ())
  (mem:⟨pageRead target, .ok bytes⟩∈x.trace) (read:pageOfBytes bytes full=page)

lemma not_observes {x:PageStep} (quiet:Quiet x.trace)
 (settled:x.op=.reloadPreservingRollback → x.before.recoveryObservationRequired=true →
  x.result≠.ok ()) (page:Page) : ¬Observes x page := by
 intro observes
 cases observes with
 | transaction _ _ _ _ mem => cases quiet _ mem
 | recovery _ _ _ op pending succeeded =>
  exact settled op pending succeeded

abbrev ExpectedStep (x : PageStep) : Prop := Machine.FieldStep rollbackExpected Observes x

variable {s s':PageSession}

section
variable {begun:PageSession} {e:Error} {state:PageSessionState} {op:Op} {h:List PageStep}

lemma FailedWith.expectedStep (h:FailedWith begun e state s')
 (begins:begun.rollbackExpected=s.rollbackExpected)
 (blind:∀page,¬Observes ⟨op,s,t, .error e,s'⟩ page) :
 ExpectedStep ⟨op,s,t, .error e,s'⟩ := by
 cases h with
 | disconnected => exact .dropped rfl
 | connected => exact .kept begins blind

lemma ApplyExit.expectedStep (h:ApplyExit s t r s') :
 ExpectedStep ⟨.applyAndVerify,s,t,r,s'⟩ := by
 cases h with
 | refused => exact .kept rfl (not_observes (by simp [Quiet]) (by simp))
 | rejected _ _ e _ failed =>
  exact failed.expectedStep rfl
   (not_observes (by simp [Quiet,BackendCall.isCompareWrite]) (by simp))
 | gateRefused _ _ _ _ e _ failed =>
  cases failed <;> exact .dropped rfl
 | transacted _ _ verdict _ _ _ _ settled =>
  cases settled with
  | lost => exact .dropped rfl
  | unverified result =>
   by_cases conflict:result.outcome=.conflict
   · exact .dropped ((recordApply_rollbackExpected _ _).trans (if_pos conflict))
   · exact .set result.readback ((recordApply_rollbackExpected _ _).trans (if_neg conflict))
      (.transaction _ _ _ result (mem_transactionTrace ..) conflict rfl)
  | verified result verdict =>
   have conflict:result.outcome≠.conflict:=by simp [verdict.1]
   exact .set result.readback ((recordApply_rollbackExpected _ _).trans (if_neg conflict))
    (.transaction _ _ _ result (mem_transactionTrace ..) conflict rfl)

lemma not_observes_conflict {target:PhysicalWriteTarget} {expected desired:Page}
 {ranges:Result (List PhysicalRange)} {result:PhysicalPageCompareWriteResult}
 {closing:List BackendEvent} (quiet:Quiet closing) (conflict:result.outcome=.conflict)
 (page:Page) :
 ¬Observes ⟨.rollbackBaseline,s,
  transactionTrace target expected desired ranges (.ok result) closing,r,s'⟩ page := by
 intro observes
 cases observes with
 | transaction _ _ _ _ mem outcome =>
  obtain ⟨k,hk⟩:=List.mem_iff_getElem?.1 mem
  obtain ⟨-,event⟩:=transactionTrace_write quiet hk rfl
  cases event
  exact outcome conflict
 | recovery _ _ _ op => cases op

lemma RollbackExit.expectedStep (h:RollbackExit s t r s') :
 ExpectedStep ⟨.rollbackBaseline,s,t,r,s'⟩ := by
 cases h with
 | refused => exact .kept rfl (not_observes (by simp [Quiet]) (by simp))
 | rejected _ _ e _ failed =>
  exact failed.expectedStep rfl
   (not_observes (by simp [Quiet,BackendCall.isCompareWrite]) (by simp))
 | gateRefused _ _ _ _ e opening failed =>
  refine failed.expectedStep rfl (not_observes ?_ (by simp))
  simpa [Quiet,BackendCall.isCompareWrite] using opening_quiet opening
 | transacted _ _ _ _ _ _ closes settled =>
  cases settled with
  | lost | verified => exact .dropped rfl
  | unverified result =>
   by_cases conflict:result.outcome=.conflict
   · exact .kept (if_pos conflict) (not_observes_conflict (closing_quiet closes) conflict)
   · exact .set result.readback (if_neg conflict)
      (.transaction _ _ _ result (mem_transactionTrace ..) conflict rfl)

lemma ReloadExit.expectedStep (h:ReloadExit s t r s') :
 ExpectedStep ⟨.reloadPreservingRollback,s,t,r,s'⟩ := by
 cases h with
 | refused => exact .kept rfl (not_observes (by simp [Quiet]) (by simp))
 | rejected _ _ e _ failed =>
  exact failed.expectedStep rfl
   (not_observes (by simp [Quiet,BackendCall.isCompareWrite]) (by simp))
 | unread _ _ _ e _ _ failed =>
  exact failed.expectedStep rfl
   (not_observes (by simp [Quiet,BackendCall.isCompareWrite,pageRead]) (by simp))
 | @observed target _ ranges bytes page _ read _ _ settled =>
  have quiet:Quiet [⟨.getPhysicalRanges,ranges⟩,⟨pageRead target,bytes⟩]:=by
   simp [Quiet,BackendCall.isCompareWrite,pageRead]
  obtain ⟨full,length,rfl,hpage⟩:=pageVerdict_eq_ok read
  cases settled with
  | restored => exact .dropped rfl
  | bound recovery =>
   exact .set page rfl (.recovery target full length rfl recovery rfl (by simp) hpage)
  | mismatched recovery | confirmed recovery =>
   exact .kept rfl (not_observes quiet fun _ pending=>absurd (recovery.symm.trans pending)
    Bool.false_ne_true)

lemma StepExit.expectedStep (h:StepExit s op t r s') : ExpectedStep ⟨op,s,t,r,s'⟩ := by
 cases h with
 | load exit =>
  refine .dropped ?_
  cases exit <;> rfl
 | reload exit | apply exit | rollback exit => exact exit.expectedStep
 | invalidate => exact .dropped rfl
 | edit edits edited =>
  refine .kept ?_ (not_observes (by simp [Quiet]) ?_)
  · cases edited <;> rfl
  · rintro rfl
    cases edits
 | revertAll =>
  refine .kept ?_ (not_observes (by simp [Quiet]) (by simp))
  unfold PageSession.revertAll
  split <;> rfl
 | unlock _ retyped unlocking =>
  refine .kept ?_ (not_observes (by simp [Quiet]) ?_)
  · cases unlocking <;> rfl
  · rintro rfl
    cases retyped

/-- The page a rollback expects is the one last observed for it. -/
lemma run_expected_observed (run:machine.Run h s) (page:Page)
 (present:s.rollbackExpected=some page) :
 ∃ o,Since (fun z => ∀page,¬Observes z page) h o ∧ Observes o page :=
 run.latest rfl
  (fun _ x before valid=>(step_exit x valid (run_invariant before)).expectedStep) page present

/-- The step is an apply that issues its compare/write against this baseline. -/
def Saves (x : PageStep) (page : Page) : Prop :=
 x.op=.applyAndVerify ∧ Writes x ∧ x.before.baseline=page

abbrev SnapshotStep (x : PageStep) : Prop := Machine.FieldStep rollbackSnapshot Saves x

lemma not_saves {x:PageStep} (idle:x.op=.applyAndVerify→Quiet x.trace) (page:Page) :
 ¬Saves x page := by
 rintro ⟨op,⟨event,mem,write⟩,-⟩
 rw [idle op event mem] at write
 cases write

lemma saves_transactionTrace (target:PhysicalWriteTarget) (desired:Page)
 (ranges:Result (List PhysicalRange)) (answer:Result PhysicalPageCompareWriteResult)
 (closing:List BackendEvent) :
 Saves ⟨.applyAndVerify,s,transactionTrace target s.baseline desired ranges answer closing,
  r,s'⟩ s.baseline :=
 ⟨rfl,⟨_,mem_transactionTrace ..,rfl⟩,rfl⟩

lemma FailedWith.snapshotStep (h:FailedWith begun e state s')
 (begins:begun.rollbackSnapshot=s.rollbackSnapshot)
 (idle:∀page,¬Saves ⟨op,s,t, .error e,s'⟩ page) :
 SnapshotStep ⟨op,s,t, .error e,s'⟩ := by
 cases h with
 | disconnected => exact .dropped rfl
 | connected => exact .kept begins idle

lemma ApplyExit.snapshotStep (h:ApplyExit s t r s') :
 SnapshotStep ⟨.applyAndVerify,s,t,r,s'⟩ := by
 cases h with
 | refused => exact .kept rfl (not_saves (by simp [Quiet]))
 | rejected _ _ e _ failed =>
  exact failed.snapshotStep rfl (not_saves (by simp [Quiet,BackendCall.isCompareWrite]))
 | gateRefused _ _ _ _ e _ failed =>
  cases failed <;> exact .dropped rfl
 | transacted _ _ verdict _ _ _ _ settled =>
  cases settled with
  | lost => exact .set s.baseline rfl (saves_transactionTrace ..)
  | unverified result =>
   by_cases conflict:result.outcome=.conflict
   · exact .dropped ((recordApply_rollbackSnapshot _ _).trans (if_pos conflict))
   · exact .set s.baseline ((recordApply_rollbackSnapshot _ _).trans (if_neg conflict))
      (saves_transactionTrace ..)
  | verified result verdict =>
   have conflict:result.outcome≠.conflict:=by simp [verdict.1]
   exact .set s.baseline ((recordApply_rollbackSnapshot _ _).trans (if_neg conflict))
    (saves_transactionTrace ..)

lemma RollbackExit.snapshotStep (h:RollbackExit s t r s') :
 SnapshotStep ⟨.rollbackBaseline,s,t,r,s'⟩ := by
 have idle:=not_saves (x := ⟨.rollbackBaseline,s,t,r,s'⟩) (by simp)
 cases h with
 | refused => exact .kept rfl idle
 | rejected _ _ e _ failed | gateRefused _ _ _ _ e _ failed => exact failed.snapshotStep rfl idle
 | transacted _ _ _ _ _ _ _ settled =>
  cases settled with
  | lost => exact .kept rfl idle
  | unverified =>
   exact .kept rfl idle
  | verified => exact .dropped rfl

lemma ReloadExit.snapshotStep (h:ReloadExit s t r s') :
 SnapshotStep ⟨.reloadPreservingRollback,s,t,r,s'⟩ := by
 have idle:=not_saves (x := ⟨.reloadPreservingRollback,s,t,r,s'⟩) (by simp)
 cases h with
 | refused => exact .kept rfl idle
 | rejected _ _ e _ failed | unread _ _ _ e _ _ failed => exact failed.snapshotStep rfl idle
 | observed _ _ _ _ _ _ settled =>
  cases settled with
  | restored => exact .dropped rfl
  | bound | mismatched | confirmed => exact .kept rfl idle

lemma StepExit.snapshotStep (h:StepExit s op t r s') : SnapshotStep ⟨op,s,t,r,s'⟩ := by
 cases h with
 | load exit =>
  refine .dropped ?_
  cases exit <;> rfl
 | reload exit | apply exit | rollback exit => exact exit.snapshotStep
 | invalidate => exact .dropped rfl
 | edit _ edited =>
  refine .kept ?_ (not_saves (by simp [Quiet]))
  cases edited <;> rfl
 | revertAll =>
  refine .kept ?_ (not_saves (by simp))
  unfold PageSession.revertAll
  split <;> rfl
 | unlock _ _ unlocking =>
  refine .kept ?_ (not_saves (by simp [Quiet]))
  cases unlocking <;> rfl

/-- The saved page is the baseline with which the last transacting apply began. -/
lemma run_snapshot_saved (run:machine.Run h s) (page:Page)
 (present:s.rollbackSnapshot=some page) :
 ∃ a,Since (fun z => ∀page,¬Saves z page) h a ∧ Saves a page :=
 run.latest rfl
  (fun _ x before valid=>(step_exit x valid (run_invariant before)).snapshotStep) page present

end

end KDbg.PageSession
