import KDbg.ProcessSessionSteps
set_option autoImplicit false
/-! What a caller may rely on in every state that a process session returns in. -/
namespace KDbg.ProcessSession
open Interaction ProcessWriteArmGuard

/-- The view with its dirty bits, histories and rollback images, or no view and nothing of one. -/
structure ViewConsistent (s : ProcessSession) : Prop where
 baselineLength : s.baseline.length=s.working.length
 dirtyLength : s.dirty.length=s.working.length
 dirty_iff : ∀ i < s.working.length,s.dirty[i]?=some true ↔ s.baseline[i]?≠s.working[i]?
 dirtyCount : s.dirtyCount=s.dirty.count true
 depth : s.undoStack.length+s.redoStack.length ≤ kMaxEditHistory
 clean : s.state=.clean → ∀ i < s.working.length,s.baseline[i]?=s.working[i]?
 staged : s.state=.dirty → ∃ i < s.working.length,s.baseline[i]?≠s.working[i]?
 savedLength : ∀ saved,s.rollbackBytes=some saved → saved.length=s.working.length
 expectedLength : ∀ expected,s.rollbackExpected=some expected →
  expected.length=s.working.length
 unloaded : s.hasBuffer=false → s={ state := s.state }

variable {s s':ProcessSession}

section
variable {r:Result Unit} {t:List ProcessEvent}

lemma Invariant.isDirty_iff (inv:Invariant s) :
 s.isDirty=true ↔ ∃ i < s.working.length,s.baseline[i]?≠s.working[i]? := by
 have counted:s.isDirty=true ↔ true∈s.dirty:=by
  rw [isDirty,bne_iff_ne,inv.dirtyCount,ne_eq,List.count_eq_zero,not_not]
 rw [counted,List.mem_iff_getElem?]
 constructor
 · rintro ⟨i,set⟩
   have inside:i < s.working.length:=by
    rw [←inv.dirtyLength]
    exact (List.getElem?_eq_some_iff.1 set).1
   exact ⟨i,inside,(inv.dirty_iff i inside).1 set⟩
 · rintro ⟨i,inside,differs⟩
   exact ⟨i,(inv.dirty_iff i inside).2 differs⟩

lemma finish_state {guard after:ProcessWriteArmGuard} {outcome:Result Unit}
 {u:List ProcessEvent} (h:(s.finish guard outcome).Exec t ((r,s'),after))
 (hd:after.destroy.Exec u ()) : s'={ s with state := s'.state } := by
 obtain ⟨_,-,(⟨-,-,rfl⟩ | ⟨e,-,-,rfl⟩)⟩:=finish_exec h hd <;> rfl

lemma applyAndVerify_unloaded (unloaded:s.hasBuffer=false)
 (h:s.applyAndVerify.Exec t (r,s')) : s'={ s with state := s'.state } := by
 obtain ⟨_,u,rfl,hu⟩:=h.of_ask
 obtain ⟨_,_,_,rfl,hb,hd⟩:=withGuard_exec hu
 rw [if_pos (by simp [unloaded])] at hb
 exact finish_state hb hd

lemma rollback_unloaded (none:s.rollbackBytes=none) (h:s.rollback.Exec t (r,s')) :
 s'={ s with state := s'.state } := by
 obtain ⟨_,u,rfl,hu⟩:=h.of_ask
 obtain ⟨_,_,_,rfl,hb,hd⟩:=withGuard_exec hu
 simp only [none] at hb
 exact finish_state hb hd

/-- Only `Load` and `Reset` take a view away or bring one. -/
lemma StepExit.hasBuffer {op:Op} (h:StepExit s op t r s') (inv:Invariant s) :
 (∃ address length,op=.load address length) ∨ op=.reset ∨
  s'.hasBuffer=s.hasBuffer := by
 cases h with
 | @load address length _ _ _ _ => exact .inl ⟨address,length,rfl⟩
 | reset => exact .inr (.inl rfl)
 | edit _ edited =>
  right;right
  cases edited with
  | refused | unchanged => rfl
  | staged => exact hasBuffer_congr rfl (by simp)
 | revertAll =>
  right;right
  unfold ProcessSession.revertAll
  split
  · rfl
  · exact hasBuffer_congr rfl inv.baselineLength
 | apply exit =>
  right;right
  cases exit with
  | stopped e _ _ _ report | failed e _ _ _ _ _ report =>
   cases report
   exact hasBuffer_congr rfl rfl
  | verified => exact hasBuffer_congr rfl rfl
 | rollback exit =>
  right;right
  cases exit with
  | stopped e _ _ report | failed e _ _ _ _ _ _ report =>
   cases report
   exact hasBuffer_congr rfl rfl
  | verified held => exact hasBuffer_congr rfl (inv.savedLength _ held)

end

lemma step_unloaded (x:ProcessStep) (valid:machine.Valid x) (inv:Invariant x.before)
 (before:x.before.hasBuffer=false → x.before={ state := x.before.state })
 (unloaded:x.after.hasBuffer=false) : x.after={ state := x.after.state } := by
 have exit:=step_exit x valid inv
 obtain ⟨op,s,t,r,s'⟩:=x
 change s.hasBuffer=false → s={ state := s.state } at before
 change StepExit s op t r s' at exit
 change s'={ state := s'.state }
 -- an operation on a session without a view leaves everything but the state
 have same (kept:s'.hasBuffer=s.hasBuffer)
  (idle:s.hasBuffer=false → s'={ s with state := s'.state }) :
  s'={ state := s'.state } := by
  have none:=kept.symm.trans unloaded
  rw [idle none,before none]
 rcases exit.hasBuffer inv with ⟨_,_,rfl⟩|rfl|kept
 · cases exit with
   | load exit =>
    cases exit with
    | failed => rfl
    | loaded _ _ _ nonzero nonempty =>
     simp [ProcessSession.hasBuffer,loadedView,nonzero,nonempty] at unloaded
   | edit isLocal => cases isLocal
 · cases exit with
   | reset => rfl
   | edit isLocal => cases isLocal
 · refine same kept fun none => ?_
   cases exit with
   | load exit =>
    have blank:=before none
    cases exit with
    | failed => rw [blank]
    | loaded _ _ _ nonzero nonempty =>
     simp [ProcessSession.hasBuffer,loadedView,nonzero,nonempty] at unloaded
   | reset => rw [before none]
   | edit _ edited =>
    cases edited with
    | refused | unchanged => rfl
    | staged i _ _ loaded =>
     cases none.symm.trans loaded
   | revertAll =>
    rw [ProcessSession.revertAll,if_pos (by simp [none])]
   | apply => exact applyAndVerify_unloaded none valid
   | rollback => exact rollback_unloaded (inv.blank none).rollbackBytes valid

lemma run_unloaded {h:List ProcessStep} (run:machine.Run h s) (unloaded:s.hasBuffer=false)
 : s={ state := s.state } := by
 refine run.history_invariant (fun _ s=>s.hasBuffer=false → s={ state := s.state })
  (fun _=>rfl) ?_ unloaded
 intro _ x before valid blank
 exact step_unloaded x valid (run_invariant before) blank

/-- In every state in which an operation returns, for every answer of the process memory. -/
theorem run_viewConsistent {h : List ProcessStep} {s : ProcessSession} (run : machine.Run h s) :
 ViewConsistent s := by
 have inv := run_invariant run
 refine ⟨inv.baselineLength,inv.dirtyLength,inv.dirty_iff,inv.dirtyCount,inv.depth,?_,?_,
  inv.savedLength,inv.expectedLength,run_unloaded run⟩
 · intro clean i inside
   by_contra differs
   have set := inv.isDirty_iff.2 ⟨i,inside,differs⟩
   rw [inv.clean clean] at set
   cases set
 · intro staged
   exact inv.isDirty_iff.1 (inv.staged staged)

theorem sampleApply_viewConsistent :
 sampleApply.after.rollbackBytes=some [1,2] ∧ ViewConsistent sampleApply.after :=
 ⟨rfl,run_viewConsistent sampleApply_run⟩

end KDbg.ProcessSession
