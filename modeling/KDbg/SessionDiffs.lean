import KDbg.PageSessionInvariant
import KDbg.ProcessSessionSteps
set_option autoImplicit false
/-! What a session reports as the difference between its baseline and its working copy. -/
namespace KDbg
open Interaction

/-- In every state that either kind of session reaches. -/
theorem reachable_diffRuns_exact :
 (∀ h s,PageSession.machine.Run h s→ExactRuns (List.ofFn s.dirty) (List.ofFn s.baseline)
  (List.ofFn s.working) s.diffRuns) ∧
 ∀ h s,ProcessSession.machine.Run h s→ExactRuns s.dirty s.baseline s.working s.diffRuns := by
 constructor
 · intro h s run
   have inv := PageSession.run_invariant run
   refine diffRuns_exact (by simp) (by simp) fun i set => ?_
   by_cases inside : i < kPhysicalPageSize
   · have same := mt (inv.dirty_iff ⟨i,inside⟩).2
     simpa [List.getElem?_ofFn,inside] using same (by simpa [List.getElem?_ofFn,inside] using set)
   · simp [inside]
 · intro h s run
   have inv := ProcessSession.run_invariant run
   refine diffRuns_exact inv.baselineLength inv.dirtyLength fun i set => ?_
   by_cases inside : i < s.working.length
   · exact not_not.1 (mt (inv.dirty_iff i inside).2 set)
   · have short := inv.baselineLength
     rw [List.getElem?_eq_none (by omega),List.getElem?_eq_none (by omega)]

namespace ProcessSession

def gapLoad : ProcessStep where
 op := .load 0x1000 3
 before := {}
 trace := [⟨.isOpen,true⟩,⟨.processId,(7 : UInt32)⟩,⟨.read 0x1000 3, .ok [1,2,3]⟩,
  ⟨.processId,(7 : UInt32)⟩]
 result := .ok ()
 after := loadedView 7 0x1000 [1,2,3]

def gapEdit (s : ProcessSession) (offset : ℕ) (value : UInt8) : ProcessStep where
 op := .editByte .grown offset value
 before := s
 trace := []
 result := .ok ()
 after := (s.editByte .grown offset value).2

/-- The first and the last of three bytes are edited. -/
def gapView : ProcessSession := (gapEdit (gapEdit gapLoad.after 0 9).after 2 7).after

lemma gapView_run : machine.Run
 [gapLoad,gapEdit gapLoad.after 0 9,gapEdit (gapEdit gapLoad.after 0 9).after 2 7] gapView := by
 have valid:machine.Valid gapLoad:=.call _ (.call _ (.call _ (.call _ (.ret _))))
 have loaded:=Machine.Run.nil.snoc gapLoad rfl valid
 have first:=loaded.snoc (gapEdit gapLoad.after 0 9) rfl (.ret _)
 exact first.snoc (gapEdit (gapEdit gapLoad.after 0 9).after 2 7) rfl (.ret _)

end ProcessSession

theorem sampleRuns_exact :
 ExactRuns (List.ofFn PageSession.sampleUnlocked.dirty)
  (List.ofFn PageSession.sampleUnlocked.baseline)
  (List.ofFn PageSession.sampleUnlocked.working) PageSession.sampleUnlocked.diffRuns ∧
 ExactRuns [true,false,true] [1,2,3] [9,2,7] [⟨0,[1],[9]⟩,⟨2,[3],[7]⟩] :=
 ⟨reachable_diffRuns_exact.1 _ _ PageSession.sampleUnlocked_run,
  reachable_diffRuns_exact.2 _ _ ProcessSession.gapView_run⟩

end KDbg
