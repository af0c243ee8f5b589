import KDbg.ProcessSessionExits
set_option autoImplicit false
/-! What one step of a process session can do, and the invariant over runs. -/
namespace KDbg.ProcessSession
open Interaction ProcessWriteArmGuard

inductive LoadExit (address:UInt64) (length:UInt32) :
 List ProcessEvent→Result Unit→ProcessSession→Prop where
 | failed {t:List ProcessEvent} (e:Error) (plain:Plain t) :
  LoadExit address length t (.error e) { state := .error }
 | loaded (attached pid:UInt32) (bytes:List UInt8) (nonzero:address≠0)
  (nonempty:bytes≠[]) (full:bytes.length=length.toNat)
  (size:bytes.length ≤ kMaximumViewSize.toNat)
  (room:address.toNat+bytes.length≤2^64) :
  LoadExit address length [⟨.isOpen,true⟩,⟨.processId,attached⟩,
   ⟨.read address length, .ok bytes⟩,⟨.processId,pid⟩] (.ok ())
   (loadedView pid address bytes)

lemma load_room {address:UInt64} {length:UInt32} (nonzero:length≠0)
 (fits:¬address > maxUInt64-(length-1).toUInt64) :
 address.toNat+length.toNat≤2^64 := by
 have last:(length-1).toNat=length.toNat-1:=by
  refine UInt32.toNat_sub_of_le _ _ (UInt32.le_iff_toNat_le.2 ?_)
  have positive:length.toNat≠0:=fun zero=>nonzero (UInt32.toNat_inj.1 zero)
  simpa using Nat.one_le_iff_ne_zero.2 positive
 have bound:=UInt64.le_iff_toNat_le.1 (UInt64.not_lt.1 fits)
 have small:=length.toNat_lt
 rw [toNat_maxUInt64_sub,UInt32.toNat_toUInt64] at bound
 omega

variable {s s':ProcessSession} {t:List ProcessEvent} {r:Result Unit}

lemma load_exit {address:UInt64} {length:UInt32} (h:(s.load address length).Exec t (r,s'))
 : LoadExit address length t r s' := by
 obtain ⟨isOpen,u,rfl,hu⟩:=h.of_ask
 have opened:Plain [⟨.isOpen,isOpen⟩]:=plain_nil.cons ⟨rfl,by simp⟩
 cases isOpen with
 | false =>
  obtain ⟨rfl,rfl,rfl⟩:=hu.of_pure_prod
  exact .failed _ opened
 | true =>
  obtain ⟨attached,v,rfl,hv⟩:=hu.of_ask
  have identified : Plain [⟨.isOpen,true⟩,⟨.processId,attached⟩] :=
   (plain_nil.cons ⟨rfl,by simp⟩).cons ⟨rfl,by simp⟩
  split at hv
  · obtain ⟨rfl,rfl,rfl⟩:=hv.of_pure_prod
    exact .failed _ identified
  · split at hv
    · obtain ⟨rfl,rfl,rfl⟩:=hv.of_pure_prod
      exact .failed _ identified
    · rename_i valid
      simp only [not_or] at valid
      obtain ⟨nonzero,nonempty,small,fits⟩:=valid
      obtain ⟨answer,w,rfl,hw⟩:=hv.of_ask
      have read : Plain [⟨.isOpen,true⟩,⟨.processId,attached⟩,
       ⟨.read address length,answer⟩] :=
       identified.append (plain_nil.cons ⟨rfl,by simp⟩)
      cases answer with
      | error =>
       obtain ⟨rfl,rfl,rfl⟩:=hw.of_pure_prod
       exact .failed _ read
      | ok bytes =>
       dsimp only at hw
       split at hw
       · obtain ⟨rfl,rfl,rfl⟩:=hw.of_pure_prod
         exact .failed _ read
       · rename_i full
         have full:=not_not.1 full
         obtain ⟨pid,x,rfl,hx⟩:=hw.of_ask
         obtain ⟨rfl,rfl,rfl⟩:=hx.of_pure_prod
         refine .loaded attached pid bytes nonzero ?_ full ?_ ?_
         · rintro rfl
           exact nonempty (UInt32.toNat_inj.1 full.symm)
         · rw [full]
           exact UInt32.le_iff_toNat_le.1 (UInt32.not_lt.1 small)
         · rw [full]
           exact load_room nonempty fits

lemma LoadExit.invariant {address:UInt64} {length:UInt32} (h:LoadExit address length t r s')
 : Invariant s' := by
 cases h with
 | failed => exact invariant_blank (by simp)
 | loaded _ pid bytes nonzero nonempty _ size room =>
  have settled : Settled (loadedView pid address bytes) bytes :=
   ⟨rfl,rfl,rfl,rfl,rfl,rfl,rfl⟩
  exact settled.invariant (.none rfl rfl) (by simp [hasBuffer,loadedView,nonzero,nonempty])
   size room

lemma Invariant.reported (inv:Invariant s) (h:Reported s s') : Invariant s' := by
 cases h with
 | mk _ _ _ h =>
  refine { inv with clean := fun hs => ?_,staged := fun hs => ?_,blank := fun hb => ?_ }
  · rcases h with same|failure
    · exact inv.clean (same ▸ hs)
    · exact absurd hs failure.1
  · rcases h with same|failure
    · exact inv.staged (same ▸ hs)
    · exact absurd hs failure.2
  · obtain ⟨h₁,h₂,h₃,h₄,h₅,h₆,h₇⟩:=inv.blank hb
    exact ⟨h₁,h₂,h₃,h₄,h₅,h₆,h₇⟩

lemma Invariant.stageApply (inv:Invariant s) (loaded:s.hasBuffer=true) (bound:s.pid≠0) :
 Invariant s.stageApply := by
 have fits:RollbackFits s.stageApply:=by
  refine ⟨fun _ h => ?_,fun _ h => ?_,fun _=>⟨loaded,bound,rfl⟩,fun _ h => ?_⟩
  · cases h
    exact inv.baselineLength
  · cases h
    rfl
  · cases h
 exact { inv with
  savedLength := fits.savedLength
  expectedLength := fits.expectedLength
  bound := fits.bound
  verified := fits.verified
  blank := fun unloaded=>by
   cases loaded.symm.trans unloaded }

lemma Invariant.stageRollback (inv:Invariant s) {saved live:List UInt8}
 (held:s.rollbackBytes=some saved) (length:live.length=s.working.length) :
 Invariant (s.stageRollback live) := by
 obtain ⟨loaded,bound,-⟩:=inv.bound (by rw [held];rfl)
 have fits:RollbackFits (s.stageRollback live):=by
  refine ⟨inv.savedLength,fun _ h => ?_,fun _=>⟨loaded,bound,rfl⟩,fun _ h => ?_⟩
  · cases h
    exact length
  · cases h
 exact { inv with
  savedLength := fits.savedLength
  expectedLength := fits.expectedLength
  bound := fits.bound
  verified := fits.verified
  blank := fun unloaded=>by
   cases loaded.symm.trans unloaded }

lemma ApplyExit.invariant (inv:Invariant s) (h:ApplyExit s t r s') : Invariant s' := by
 cases h with
 | stopped e _ _ _ report => exact inv.reported report
 | failed e loaded bound _ _ _ report =>
  exact (inv.stageApply loaded bound).reported report
 | verified loaded bound =>
  obtain ⟨h₁,h₂,h₃,h₄,h₅,h₆,h₇⟩:=settled_settled s.stageApply
   (show s.stageApply.dirty.length=s.working.length from inv.dirtyLength)
  refine Settled.invariant ⟨h₁,h₂,h₃,h₄,h₅,h₆,h₇⟩ ⟨fun _ h => ?_,fun _ h => ?_,
   fun _=>⟨loaded,bound,rfl⟩,fun _ _=>rfl⟩ loaded inv.size inv.room
  · cases h
    exact inv.baselineLength
  · cases h
    rfl

lemma RollbackExit.invariant (inv:Invariant s) (h:RollbackExit s t r s') : Invariant s' := by
 cases h with
 | stopped e _ _ report => exact inv.reported report
 | failed e held length _ _ _ _ report =>
  exact (inv.stageRollback held length).reported report
 | @verified saved live _ held length _ _ =>
  have size:=inv.savedLength saved held
  obtain ⟨loaded,-,-⟩:=inv.bound (by rw [held];rfl)
  obtain ⟨h₁,h₂,h₃,h₄,h₅,h₆,h₇⟩:=settled_settled (s.stageRollback live)
   (show s.dirty.length=saved.length by rw [inv.dirtyLength,size])
  refine Settled.invariant ⟨h₁,h₂,h₃,h₄,h₅,h₆,h₇⟩ (.none rfl rfl) ?_
   (size ▸ inv.size) (size ▸ inv.room)
  rw [←loaded]
  exact hasBuffer_congr rfl size

def Op.isLocal : Op→Bool
 | .editByte .. | .revertByte .. | .undo .. | .redo .. => true
 | _ => false

inductive StepExit (s:ProcessSession) :
 Op→List ProcessEvent→Result Unit→ProcessSession→Prop where
 | load {address:UInt64} {length:UInt32} {t:List ProcessEvent} {r:Result Unit}
  {s':ProcessSession} (exit:LoadExit address length t r s') :
  StepExit s (.load address length) t r s'
 | reset : StepExit s .reset [] (.ok ()) {}
 | edit {op:Op} {r:Result Unit} {s':ProcessSession} (isLocal:op.isLocal=true)
  (edited:Edited s r s') : StepExit s op [] r s'
 | revertAll : StepExit s .revertAll [] (.ok ()) s.revertAll
 | apply {t:List ProcessEvent} {r:Result Unit} {s':ProcessSession}
  (exit:ApplyExit s t r s') : StepExit s .applyAndVerify t r s'
 | rollback {t:List ProcessEvent} {r:Result Unit} {s':ProcessSession}
  (exit:RollbackExit s t r s') : StepExit s .rollback t r s'

lemma step_exit (x:ProcessStep) (valid:machine.Valid x) (inv:Invariant x.before) :
 StepExit x.before x.op x.trace x.result x.after := by
 obtain ⟨op,s,t,r,s'⟩:=x
 change (exec op s).Exec t (r,s') at valid
 cases op with
 | load => exact .load (load_exit valid)
 | reset =>
  obtain ⟨rfl,rfl,rfl⟩:=valid.of_pure_prod
  exact .reset
 | editByte =>
  obtain ⟨rfl,rfl,rfl⟩:=valid.of_pure_prod
  exact .edit rfl (applyLocalEdit_recorded _ _ _ _)
 | revertByte =>
  obtain ⟨rfl,rfl,rfl⟩:=valid.of_pure_prod
  exact .edit rfl (revertByte_edited _ _ _)
 | undo =>
  obtain ⟨rfl,rfl,rfl⟩:=valid.of_pure_prod
  exact .edit rfl (undo_edited inv _)
 | redo =>
  obtain ⟨rfl,rfl,rfl⟩:=valid.of_pure_prod
  exact .edit rfl (redo_edited inv _)
 | revertAll =>
  obtain ⟨rfl,rfl,rfl⟩:=valid.of_pure_prod
  exact .revertAll
 | applyAndVerify => exact .apply (apply_exit inv valid)
 | rollback => exact .rollback (rollback_exit inv valid)

lemma StepExit.invariant {op:Op} (inv:Invariant s) (h:StepExit s op t r s') :
 Invariant s' := by
 cases h with
 | load exit => exact exit.invariant
 | reset => exact invariant_blank (by simp)
 | edit _ edited => exact inv.edited edited
 | revertAll => exact inv.revertAll
 | apply exit | rollback exit => exact exit.invariant inv

lemma run_invariant {h:List ProcessStep} (run:machine.Run h s) :
 Invariant s :=
 run.invariant Invariant (invariant_blank (by simp)) fun x valid inv =>
  (step_exit x valid inv).invariant inv

/-- Two bytes of process 7 are loaded, the first is edited, its write is answered with an error
 although it has taken effect, and a rollback restores it. -/
def sampleView : ProcessSession := loadedView 7 0x1000 [1,2]

def sampleLoad : ProcessStep where
 op := .load 0x1000 2
 before := {}
 trace := [⟨.isOpen,true⟩,⟨.processId,(7 : UInt32)⟩,⟨.read 0x1000 2, .ok [1,2]⟩,
  ⟨.processId,(7 : UInt32)⟩]
 result := .ok ()
 after := sampleView

def sampleEdit : ProcessStep where
 op := .editByte .grown 0 9
 before := sampleView
 trace := []
 result := .ok ()
 after := (sampleView.editByte .grown 0 9).2

def lostWrite : Error := makeError .ioFailure "lost"

def sampleApply : ProcessStep where
 op := .applyAndVerify
 before := sampleEdit.after
 trace := [⟨.writesArmed,true⟩,⟨.isOpen,true⟩,⟨.processId,(7 : UInt32)⟩,
  ⟨.read 0x1000 2, .ok [1,2]⟩,⟨.setWritesArmed true, .ok ()⟩,
  ⟨.write 0x1000 [9], .error lostWrite⟩,⟨.setWritesArmed false, .ok ()⟩,
  ⟨.setWritesArmed false, .ok ()⟩]
 result := .error lostWrite
 after := { sampleEdit.after.stageApply with state := .error }

def sampleRollback : ProcessStep where
 op := .rollback
 before := sampleApply.after
 trace := [⟨.writesArmed,true⟩,⟨.isOpen,true⟩,⟨.processId,(7 : UInt32)⟩,
  ⟨.read 0x1000 2, .ok [9,2]⟩,⟨.setWritesArmed true, .ok ()⟩,
  ⟨.write 0x1000 [1,2], .ok 2⟩,⟨.setWritesArmed false, .ok ()⟩,
  ⟨.setWritesArmed false, .ok ()⟩,⟨.read 0x1000 2, .ok [1,2]⟩]
 result := .ok ()
 after := sampleView

lemma sampleLoad_valid : machine.Valid sampleLoad :=
 .call _ (.call _ (.call _ (.call _ (.ret _))))

lemma sampleApply_valid : machine.Valid sampleApply :=
 .call _ (.call _ (.call _ (.call _ (.call _ (.call _ (.call _ (.call _ (.ret _))))))))

lemma sampleRollback_valid : machine.Valid sampleRollback :=
 .call _ (.call _ (.call _ (.call _ (.call _ (.call _ (.call _ (.call _ (.call _ (.ret _)))))))))

lemma sampleEdit_run : machine.Run [sampleLoad,sampleEdit] sampleEdit.after :=
 (Machine.Run.nil.snoc sampleLoad rfl sampleLoad_valid).snoc sampleEdit rfl (.ret _)

lemma sampleApply_run : machine.Run [sampleLoad,sampleEdit,sampleApply] sampleApply.after :=
 sampleEdit_run.snoc sampleApply rfl sampleApply_valid

end KDbg.ProcessSession
