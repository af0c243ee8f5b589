import KDbg.PageSession
set_option autoImplicit false
/-! How the parts of the session that follow a backend answer settle. -/
namespace KDbg.PageSession
open Interaction

/-- Baseline, working copy, dirty bits and both histories are exactly as they were. -/
structure Kept (s s' : PageSession) : Prop where
 baseline : s'.baseline=s.baseline
 working : s'.working=s.working
 dirty : s'.dirty=s.dirty
 undoStack : s'.undoStack=s.undoStack
 redoStack : s'.redoStack=s.redoStack

lemma Kept.refl (s:PageSession) : Kept s s := ⟨rfl,rfl,rfl,rfl,rfl⟩

def failureState (state : PageSessionState) : Prop :=
 state=.error ∨ state=.conflict ∨ state=.verificationFailed

/-- A backend operation that failed after it consumed the unlock. -/
structure Failed (s s' : PageSession) : Prop extends Kept s s' where
 target : s'.target=s.target
 locked : s'.writeUnlocked=false
 state : failureState s'.state

/-- The session adopts a complete page as baseline and working copy. -/
structure Adopted (s s' : PageSession) (page : Page) : Prop where
 baseline : s'.baseline=page
 working : s'.working=page
 dirty : s'.dirty=fun _=>false
 undoStack : s'.undoStack=[]
 redoStack : s'.redoStack=[]
 target : s'.target=s.target
 locked : s'.writeUnlocked=false
 state : s'.state=.clean

/-- A transaction answer that reports the complete requested page. -/
def Verified (result : PhysicalPageCompareWriteResult) (page : Page) : Prop :=
 result.outcome=.applied ∧ result.transferred=UInt32.ofNat kPhysicalPageSize ∧
  result.readback=page

inductive FailedWith (s:PageSession) (e:Error) (state:PageSessionState) :
 PageSession→Prop where
 | disconnected (code:e.code=.backendDisconnected) : FailedWith s e state s.invalidate
 | connected (code:e.code≠.backendDisconnected) :
  FailedWith s e state { s with state := state }

lemma failWith_cases {s s':PageSession} {e:Error} {state:PageSessionState}
 {r:Result Unit} (h:(r,s')=s.failWith e state) :
 r=.error e ∧ FailedWith s e state s' := by
 unfold failWith at h
 split at h
 · rename_i code
   cases h
   exact ⟨rfl, .disconnected code⟩
 · rename_i code
   cases h
   exact ⟨rfl, .connected code⟩

section Recorded
variable (s:PageSession) (result:PhysicalPageCompareWriteResult)

@[simp] lemma recordApply_kept :
 (s.recordApply result).target=s.target ∧ (s.recordApply result).baseline=s.baseline ∧
 (s.recordApply result).working=s.working ∧ (s.recordApply result).dirty=s.dirty ∧
 (s.recordApply result).undoStack=s.undoStack ∧ (s.recordApply result).redoStack=s.redoStack ∧
 (s.recordApply result).writeUnlocked=s.writeUnlocked ∧
 (s.recordApply result).lastMismatches=s.lastMismatches ∧
 (s.recordApply result).recoveryObservationRequired=false := by
 unfold recordApply;split <;> simp

lemma recordApply_rollbackSnapshot : (s.recordApply result).rollbackSnapshot =
 if result.outcome=.conflict then none else s.rollbackSnapshot := by
 unfold recordApply;split <;> rfl

lemma recordApply_rollbackExpected : (s.recordApply result).rollbackExpected =
 if result.outcome=.conflict then s.rollbackExpected else some result.readback := by
 unfold recordApply;split <;> rfl

lemma recordApply_evidence : (s.recordApply result).evidence={ s.evidence with
 readback := some result.readback
 preflight := some (if result.outcome=.conflict then result.readback else s.baseline) } := by
 unfold recordApply;split <;> rfl

end Recorded

def applied (s : PageSession) (result : PhysicalPageCompareWriteResult) : PageSession :=
 { s.recordApply result with
   baseline := result.readback
   working := result.readback
   dirty := fun _=>false
   undoStack := []
   redoStack := []
   lastApplyVerified := true
   revision := (s.recordApply result).revision+1
   state := .clean }

/-- The three ways in which an answered transaction of `ApplyAndVerify` settles. -/
inductive ApplySettled (s:PageSession) : Result PhysicalPageCompareWriteResult→Result Unit →
 Result Unit→PageSession→Prop where
 | lost (e r:Error) (closed:Result Unit) : ApplySettled s (.error e) closed (.error r)
  { s with
    rollbackExpected := none
    recoveryObservationRequired := true
    state := .verificationFailed }
 | unverified (result:PhysicalPageCompareWriteResult) (closed:Result Unit) (r:Error)
  (conflicts mismatches:List ℕ) (state:PageSessionState) (failure:failureState state)
  (verdict:¬ (closed=.ok () ∧ Verified result s.working)) :
  ApplySettled s (.ok result) closed (.error r) { s.recordApply result with
   lastConflicts := conflicts,lastMismatches := mismatches,state := state }
 | verified (result:PhysicalPageCompareWriteResult) (verdict:Verified result s.working) :
  ApplySettled s (.ok result) (.ok ()) (.ok ()) (s.applied result)

lemma settleApply_settled (s:PageSession) (mismatches:s.lastMismatches=[])
 (answer:Result PhysicalPageCompareWriteResult) (closed:Result Unit) :
 ApplySettled { s with state := .writing } answer closed (s.settleApply answer closed).1
  (s.settleApply answer closed).2 := by
 cases answer with
 | error e =>
  cases closed with
  | error c => exact .lost e c _
  | ok => exact .lost e e _
 | ok result =>
  cases closed with
  | error c => exact .unverified result _ c _ _ _ (.inl rfl) (by simp)
  | ok =>
   simp only [settleApply,verifyApply]
   split
   · rename_i hc
     exact .unverified result _ _ _ _ _ (.inr (.inl rfl)) (by simp [Verified,hc])
   · split
     · rename_i hbad
       refine .unverified result _ _ _ _ _ (.inr (.inr rfl)) ?_
       simp only [recordApply_kept,mismatches,List.nil_append,
        ne_eq,differingOffsets_eq_nil] at hbad
       simp only [Verified]
       tauto
     · rename_i hgood
       simp only [recordApply_kept,mismatches,List.nil_append,
        ne_eq,differingOffsets_eq_nil,not_or,not_not] at hgood
       have exit:=ApplySettled.verified (s := { s with state := .writing }) result hgood
       have hm:differingOffsets result.readback s.working=[]:=by simpa using hgood.2.2
       unfold applied at exit
       simpa [hm] using exit

def rolledBack (s : PageSession) (snapshot : Page) (result : PhysicalPageCompareWriteResult) :
 PageSession :=
 { s with
   evidence := { s.evidence with rollback := some result.readback }
   baseline := snapshot
   working := snapshot
   rollbackSnapshot := none
   rollbackExpected := none
   recoveryObservationRequired := false
   dirty := fun _=>false
   lastConflicts := []
   lastMismatches := []
   undoStack := []
   redoStack := []
   lastApplyVerified := false
   revision := s.revision+1
   state := .clean }

/-- The three ways in which an answered transaction of `RollbackBaseline` settles. -/
inductive RollbackSettled (s:PageSession) (snapshot:Page) :
 Result PhysicalPageCompareWriteResult→Result Unit→Result Unit→PageSession→Prop where
 | lost (e r:Error) (closed:Result Unit) : RollbackSettled s snapshot (.error e) closed
  (.error r) { s with
   rollbackExpected := none
   recoveryObservationRequired := true
   state := .verificationFailed }
 | unverified (result:PhysicalPageCompareWriteResult) (closed:Result Unit) (r:Error)
  (conflicts mismatches:List ℕ) (state:PageSessionState) (failure:failureState state)
  (verdict:¬ (closed=.ok () ∧ Verified result snapshot)) :
  RollbackSettled s snapshot (.ok result) closed (.error r) { s with
   evidence := { s.evidence with rollback := some result.readback }
   rollbackExpected :=
    if result.outcome=.conflict then s.rollbackExpected else some result.readback
   lastConflicts := conflicts
   lastMismatches := mismatches
   state := state }
 | verified (result:PhysicalPageCompareWriteResult) (verdict:Verified result snapshot) :
  RollbackSettled s snapshot (.ok result) (.ok ()) (.ok ()) (s.rolledBack snapshot result)

lemma settleRollback_settled (s:PageSession) (mismatches:s.lastMismatches=[])
 (snapshot expected:Page) (answer:Result PhysicalPageCompareWriteResult)
 (closed:Result Unit) :
 RollbackSettled { s with state := .writing } snapshot answer closed
  (s.settleRollback snapshot expected answer closed).1
  (s.settleRollback snapshot expected answer closed).2 := by
 cases answer with
 | error e =>
  cases closed with
  | error c => exact .lost e c _
  | ok => exact .lost e e _
 | ok result =>
  by_cases hc:result.outcome=.conflict
  · have exit (closed:Result Unit) (r:Error) (conflicts:List ℕ)
     (state:PageSessionState) (failure:failureState state) :=
     @RollbackSettled.unverified { s with state := .writing } snapshot
      result closed r conflicts s.lastMismatches state failure (by simp [Verified,hc])
    cases closed with
    | error c =>
     simpa [settleRollback,recordRollback,hc] using
      exit (.error c) c s.lastConflicts .error (.inl rfl)
    | ok =>
     simp only [settleRollback,recordRollback,verifyRollback,hc,if_true]
     have settled:=exit (.ok ())
     simp only [hc,if_true] at settled
     exact settled _ _ _ (.inr (.inl rfl))
  · cases closed with
    | error c =>
     have exit:=@RollbackSettled.unverified { s with state := .writing } snapshot
      result (.error c) c s.lastConflicts s.lastMismatches .error (.inl rfl) (by simp)
     simpa [settleRollback,recordRollback,hc] using exit
    | ok =>
     have hcond : (result.outcome≠.applied ∨
      result.transferred≠UInt32.ofNat kPhysicalPageSize ∨
      s.lastMismatches++differingOffsets result.readback snapshot≠[]) ↔
      ¬Verified result snapshot := by
      simp only [mismatches,List.nil_append,ne_eq,differingOffsets_eq_nil,Verified]
      tauto
     simp only [settleRollback,recordRollback,verifyRollback,hc,if_false]
     split
     · rename_i hbad
       have exit (r:Error) := @RollbackSettled.unverified { s with state := .writing } snapshot
        result (.ok ()) r s.lastConflicts
        (s.lastMismatches++differingOffsets result.readback snapshot) .verificationFailed
        (.inr (.inr rfl)) fun verdict=>hcond.1 hbad verdict.2
       simp only [hc,if_false] at exit
       exact exit _
     · rename_i hgood
       exact .verified result (not_not.1 fun hbad=>hgood (hcond.2 hbad))

def observed (s : PageSession) (page : Page) : PageSession :=
 { s with
   evidence := { s.evidence with independentReload := some page }
   recoveryObservationRequired := false
   baseline := page
   working := page
   dirty := fun _=>false
   undoStack := []
   redoStack := []
   revision := s.revision+1
   state := .clean }

/-- What a reload makes of the page it has read. -/
inductive ReloadObserved (s:PageSession) (page:Page) : Result Unit→PageSession→Prop where
 | restored (recovery:s.recoveryObservationRequired=true)
  (same:s.rollbackSnapshot=some page) : ReloadObserved s page (.ok ())
   { s.observed page with rollbackSnapshot := none,rollbackExpected := none }
 | bound (recovery:s.recoveryObservationRequired=true)
  (changed:s.rollbackSnapshot≠some page) : ReloadObserved s page (.ok ())
   { s.observed page with rollbackExpected := some page }
 | mismatched (recovery:s.recoveryObservationRequired=false) (e:Error)
  (changed:page≠s.baseline) : ReloadObserved s page (.error e) { s with
   evidence := { s.evidence with independentReload := some page }
   recoveryObservationRequired := false
   lastMismatches := differingOffsets page s.baseline
   state := .verificationFailed }
 | confirmed (recovery:s.recoveryObservationRequired=false) (same:page=s.baseline) :
  ReloadObserved s page (.ok ()) (s.observed page)

lemma observeReload_observed (s:PageSession) (mismatches:s.lastMismatches=[])
 (page:Page) :
 ReloadObserved s page (s.observeReload page).1 (s.observeReload page).2 := by
 unfold observeReload
 cases recovery:s.recoveryObservationRequired with
 | true =>
  simp only [if_true]
  split
  · rename_i same
    exact .restored recovery same
  · rename_i changed
    exact .bound recovery changed
 | false =>
  simp only [Bool.false_eq_true,if_false,mismatches,List.nil_append,ne_eq,
   differingOffsets_eq_nil]
  split
  · rename_i changed
    exact .mismatched recovery _ changed
  · rename_i same
    have exit:=@ReloadObserved.confirmed s page recovery (not_not.1 same)
    have hm:differingOffsets page s.baseline=[]:=by simpa using same
    simpa [observed,mismatches,hm] using exit

end KDbg.PageSession
