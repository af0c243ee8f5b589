import KDbg.PageSessionExits
set_option autoImplicit false
/-!
The backend operations from the side of the environment: answers that let them
pass, and the steps these give on one fixed target.
-/
namespace KDbg.PageSession
open Interaction

variable {closing:List BackendEvent}

section Answered
variable {s:PageSession} {target:PhysicalWriteTarget} {ranges:Result (List PhysicalRange)}

section
variable {bytes:Result (List UInt8)} {page:Page}

lemma load_exec (consistent:target.isConsistent=true)
 (verdict:rangeVerdict target ranges=.ok ()) (read:pageVerdict bytes=.ok page) :
 (s.load target).Exec [⟨.getPhysicalRanges,ranges⟩,⟨pageRead target,bytes⟩]
  (.ok (),s.loadedPage target page) := by
 have address:target.address.isConsistent=true:=by
  by_contra h
  simp [PhysicalWriteTarget.isConsistent,h] at consistent
 unfold load
 simp only [address,consistent,Bool.not_true,Bool.false_eq_true,if_false]
 refine (Prog.exec_bind _ _ _ _).2
  ⟨[_],_,[_],rfl,(validatePageRange_exec rfl).2 ⟨ranges,rfl,rfl⟩,?_⟩
 rw [verdict]
 refine (Prog.exec_bind _ _ _ _).2
  ⟨[_],_,[],rfl,(readExactPage_exec rfl).2 ⟨bytes,rfl,rfl⟩,?_⟩
 rw [read]
 exact .ret _

lemma reload_exec (ready:ReloadReady s target) (verdict:rangeVerdict target ranges=.ok ())
 (read:pageVerdict bytes=.ok page) :
 s.reloadPreservingRollback.Exec [⟨.getPhysicalRanges,ranges⟩,⟨pageRead target,bytes⟩]
  ({ s.beginReload with state := .verifying }.observeReload page) := by
 have loaded:=ready.loaded
 have snapshot:s.rollbackSnapshot≠none:=Option.isSome_iff_ne_none.1 ready.snapshot
 have staged:¬(s.isDirty && !s.recoveryObservationRequired)=true:=by
  have := ready.staged
  cases hd:s.isDirty <;> simp_all
 unfold reloadPreservingRollback
 simp only [loaded,staged,snapshot,ready.idle,Option.isNone_some,Option.isNone_iff_eq_none,
  Bool.false_eq_true,if_false]
 refine (Prog.exec_bind _ _ _ _).2
  ⟨[_],_,[_],rfl,
   (validatePageRange_exec loaded).2 ⟨ranges,rfl,rfl⟩,?_⟩
 rw [verdict]
 refine (Prog.exec_bind _ _ _ _).2
  ⟨[_],_,[],rfl,(readExactPage_exec loaded).2 ⟨bytes,rfl,rfl⟩,?_⟩
 rw [read]
 exact .ret _

end

lemma apply_rejected (ready:ApplyReady s target) {e:Error}
 (verdict:rangeVerdict target ranges=.error e) :
 s.applyAndVerify.Exec [⟨.getPhysicalRanges,ranges⟩] (s.beginApply.failWith e .error) := by
 have loaded:=ready.loaded
 unfold applyAndVerify
 simp only [loaded,ready.dirty,ready.unlocked,Bool.not_true,Bool.false_eq_true,if_false]
 refine (Prog.exec_bind _ _ _ _).2
  ⟨[_],_,[],rfl,(validatePageRange_exec loaded).2 ⟨ranges,rfl,rfl⟩,?_⟩
 rw [verdict]
 exact .ret _

lemma apply_gateRefused (ready:ApplyReady s target)
 (verdict:rangeVerdict target ranges=.ok ()) (e:Error) :
 s.applyAndVerify.Exec [⟨.getPhysicalRanges,ranges⟩,⟨.setWriteEnabled true, .error e⟩,
  ⟨.setWriteEnabled false, .ok ()⟩]
  ({ s.beginApply.stageApply with rollbackSnapshot := none }.failWith e .error) := by
 have loaded:=ready.loaded
 unfold applyAndVerify
 simp only [loaded,ready.dirty,ready.unlocked,Bool.not_true,Bool.false_eq_true,if_false]
 refine (Prog.exec_bind _ _ _ _).2
  ⟨[_],_,[_,_],rfl,
   (validatePageRange_exec loaded).2 ⟨ranges,rfl,rfl⟩,?_⟩
 rw [verdict]
 exact WriteGateGuard.transact_refused e

lemma apply_exec (ready:ApplyReady s target) (verdict:rangeVerdict target ranges=.ok ())
 (answer:Result PhysicalPageCompareWriteResult) {closed:Result Unit}
 (closes:WriteGateGuard.Closing closing closed) :
 s.applyAndVerify.Exec (transactionTrace target s.baseline s.working ranges answer closing)
  (s.beginApply.stageApply.settleApply answer closed) := by
 have loaded:=ready.loaded
 unfold applyAndVerify
 simp only [loaded,ready.dirty,ready.unlocked,Bool.not_true,Bool.false_eq_true,if_false]
 refine (Prog.exec_bind _ _ _ _).2
  ⟨[_],_,_,rfl,(validatePageRange_exec loaded).2 ⟨ranges,rfl,rfl⟩,?_⟩
 rw [verdict]
 exact WriteGateGuard.transact_opened closes

lemma rollback_exec {snapshot expected:Page} (ready:RollbackReady s target snapshot expected)
 (verdict:rangeVerdict target ranges=.ok ()) (answer:Result PhysicalPageCompareWriteResult)
 {closed:Result Unit} (closes:WriteGateGuard.Closing closing closed) :
 s.rollbackBaseline.Exec (transactionTrace target expected snapshot ranges answer closing)
  (s.beginRollback.settleRollback snapshot expected answer closed) := by
 have loaded:=ready.loaded
 unfold rollbackBaseline
 simp only [loaded,ready.snapshot,ready.expected,ready.unlocked,Bool.not_true,
  Bool.false_eq_true,if_false]
 refine (Prog.exec_bind _ _ _ _).2
  ⟨[_],_,_,rfl,
   (validatePageRange_exec loaded).2 ⟨ranges,rfl,rfl⟩,?_⟩
 rw [verdict]
 exact WriteGateGuard.transact_opened closes

end Answered

section
variable {s:PageSession} {expected snapshot:Page}

lemma pageVerdict_ofFn (page:Page) : pageVerdict (.ok (List.ofFn page))=.ok page := by
 have same:pageOfBytes (List.ofFn page) List.length_ofFn=page:=by
  funext i
  simp [pageOfBytes]
 unfold pageVerdict
 dsimp only
 rw [dif_pos List.length_ofFn,same]

def sampleTarget : PhysicalWriteTarget := .ofRawPfn { pfn := 0x10,physicalAddress := 0x10000 }

def sampleRanges : Result (List PhysicalRange) := .ok [{ base := 0,length := 0x100000 }]

lemma sampleTarget_isConsistent : sampleTarget.isConsistent=true := by decide

lemma sampleRanges_verdict : rangeVerdict sampleTarget sampleRanges=.ok () := by
 unfold rangeVerdict sampleRanges
 exact if_pos (by decide)

def loadStep (s : PageSession) (page : Page) : PageStep where
 op := .load sampleTarget
 before := s
 trace := [⟨.getPhysicalRanges,sampleRanges⟩,⟨pageRead sampleTarget, .ok (List.ofFn page)⟩]
 result := .ok ()
 after := s.loadedPage sampleTarget page

lemma loadStep_valid (s:PageSession) (page:Page) : machine.Valid (loadStep s page) :=
 load_exec sampleTarget_isConsistent sampleRanges_verdict (pageVerdict_ofFn page)

def editStep (s : PageSession) (value : UInt8) : PageStep where
 op := .editByte .grown 0 value
 before := s
 trace := []
 result := .ok ()
 after := (s.recordEdit ⟨0,s.working ⟨0,by decide⟩,value⟩).stageByte ⟨0,by decide⟩ value

lemma editStep_valid {value:UInt8} (loaded:s.target=some sampleTarget)
 (idle:s.operationActive=false) (changed:s.working ⟨0,by decide⟩≠value) :
 machine.Valid (editStep s value) := by
 have edited:s.editByte .grown 0 value=(.ok (),(editStep s value).after):=by
  simp only [editByte,applyLocalEdit,loaded,idle,changed,Option.isNone_some,
   Bool.false_eq_true,if_false,if_true]
  exact dif_pos (by decide)
 change (pure (s.editByte .grown 0 value) : BackendM _).Exec [] _
 rw [edited]
 exact .ret _

def unlockStep (s : PageSession) : PageStep where
 op := .unlockForOneApply 0x10
 before := s
 trace := []
 result := .ok ()
 after := { s with writeUnlocked := true }

lemma unlockStep_valid (loaded:s.target=some sampleTarget) (dirty:s.isDirty=true) :
 machine.Valid (unlockStep s) := by
 have unlocked:s.unlockForOneApply 0x10=(.ok (),(unlockStep s).after):=by
  have retyped:¬(0x10 : UInt64)≠sampleTarget.address.pfn:=by decide
  simp only [unlockForOneApply,loaded,dirty,retyped,Bool.not_true,Bool.false_eq_true,
   if_false,unlockStep]
 change (pure (s.unlockForOneApply 0x10) : BackendM _).Exec [] _
 rw [unlocked]
 exact .ret _

lemma unlockStep_ready (loaded:s.target=some sampleTarget) (dirty:s.isDirty=true) :
 ApplyReady (unlockStep s).after sampleTarget := by
 refine ⟨loaded,?_,rfl⟩
 exact dirty

def applyStep (s : PageSession) (answer : Result PhysicalPageCompareWriteResult)
 (closing : List BackendEvent) (closed : Result Unit) : PageStep where
 op := .applyAndVerify
 before := s
 trace := transactionTrace sampleTarget s.baseline s.working sampleRanges answer closing
 result := (s.beginApply.stageApply.settleApply answer closed).1
 after := (s.beginApply.stageApply.settleApply answer closed).2

lemma applyStep_valid (ready:ApplyReady s sampleTarget)
 (answer:Result PhysicalPageCompareWriteResult) {closed:Result Unit}
 (closes:WriteGateGuard.Closing closing closed) :
 machine.Valid (applyStep s answer closing closed) :=
 apply_exec ready sampleRanges_verdict answer closes

def applyRefusedStep (s : PageSession) (e : Error) : PageStep where
 op := .applyAndVerify
 before := s
 trace := [⟨.getPhysicalRanges,sampleRanges⟩,⟨.setWriteEnabled true, .error e⟩,
  ⟨.setWriteEnabled false, .ok ()⟩]
 result := ({ s.beginApply.stageApply with rollbackSnapshot := none }.failWith e .error).1
 after := ({ s.beginApply.stageApply with rollbackSnapshot := none }.failWith e .error).2

lemma applyRefusedStep_valid (ready:ApplyReady s sampleTarget) (e:Error) :
 machine.Valid (applyRefusedStep s e) :=
 apply_gateRefused ready sampleRanges_verdict e

def applyRejectedStep (s : PageSession) (e : Error) : PageStep where
 op := .applyAndVerify
 before := s
 trace := [⟨.getPhysicalRanges, .error e⟩]
 result := (s.beginApply.failWith e .error).1
 after := (s.beginApply.failWith e .error).2

lemma applyRejectedStep_valid (ready:ApplyReady s sampleTarget) (e:Error) :
 machine.Valid (applyRejectedStep s e) :=
 apply_rejected ready rfl

def unlockRollbackStep (s : PageSession) : PageStep where
 op := .unlockForRollback 0x10
 before := s
 trace := []
 result := .ok ()
 after := { s with writeUnlocked := true }

lemma unlockRollbackStep_valid (loaded:s.target=some sampleTarget)
 (saved:s.rollbackSnapshot=some snapshot) (observed:s.rollbackExpected=some expected) :
 machine.Valid (unlockRollbackStep s) := by
 have unlocked:s.unlockForRollback 0x10=(.ok (),(unlockRollbackStep s).after):=by
  have retyped:¬(0x10 : UInt64)≠sampleTarget.address.pfn:=by decide
  simp only [unlockForRollback,loaded,saved,observed,retyped,if_false,unlockRollbackStep]
 change (pure (s.unlockForRollback 0x10) : BackendM _).Exec [] _
 rw [unlocked]
 exact .ret _

def revertAllStep (s : PageSession) : PageStep where
 op := .revertAll
 before := s
 trace := []
 result := .ok ()
 after := s.revertAll

lemma revertAllStep_valid (s:PageSession) : machine.Valid (revertAllStep s) :=
 .ret _

def rollbackStep (s : PageSession) (snapshot expected : Page)
 (answer : Result PhysicalPageCompareWriteResult) (closing : List BackendEvent)
 (closed : Result Unit) : PageStep where
 op := .rollbackBaseline
 before := s
 trace := transactionTrace sampleTarget expected snapshot sampleRanges answer closing
 result := (s.beginRollback.settleRollback snapshot expected answer closed).1
 after := (s.beginRollback.settleRollback snapshot expected answer closed).2

lemma rollbackStep_valid (ready:RollbackReady s sampleTarget snapshot expected)
 (answer:Result PhysicalPageCompareWriteResult) {closed:Result Unit}
 (closes:WriteGateGuard.Closing closing closed) :
 machine.Valid (rollbackStep s snapshot expected answer closing closed) :=
 rollback_exec ready sampleRanges_verdict answer closes

def reloadStep (s : PageSession) (page : Page) : PageStep where
 op := .reloadPreservingRollback
 before := s
 trace := [⟨.getPhysicalRanges,sampleRanges⟩,⟨pageRead sampleTarget, .ok (List.ofFn page)⟩]
 result := ({ s.beginReload with state := .verifying }.observeReload page).1
 after := ({ s.beginReload with state := .verifying }.observeReload page).2

lemma reloadStep_valid (ready:ReloadReady s sampleTarget) (page:Page) :
 machine.Valid (reloadStep s page) :=
 reload_exec ready sampleRanges_verdict (pageVerdict_ofFn page)

end

end KDbg.PageSession
