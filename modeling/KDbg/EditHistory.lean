import KDbg.PageSessionInvariant
import KDbg.ProcessSessionSteps
set_option autoImplicit false
/-!
Undo and redo are inverse to each other in both sessions, and the undo stack
leads back to the baseline as long as it holds every edit made since the working
copy was last in step with it.
-/
namespace KDbg
open Interaction EditLog

namespace PageSession

def journal (s : PageSession) : Journal UInt8 :=
 ⟨pageCells s.working,s.undoStack,s.redoStack⟩

/-- The session after an undo whose redo entry could be stored. -/
def undoNext (s : PageSession) : PageSession := (s.undo .grown).2

def redoNext (s : PageSession) : PageSession := (s.redo .grown).2

lemma journal_stageByte (s:PageSession) (i:Fin kPhysicalPageSize) (value:UInt8) :
 journal (s.stageByte i value) =
  ⟨Function.update (pageCells s.working) i (some value),s.undoStack,s.redoStack⟩ :=
 Journal.ext (pageCells_update s.working i value) rfl rfl

variable {s s':PageSession}

section
variable {allocation:Allocation} {r:Result Unit} {h:List PageStep} {baseline:Page}

lemma journal_undoNext (inv:Invariant s) :
 s.undoNext.journal=s.journal.undone ∧ s.undoNext.baseline=s.baseline := by
 cases top:s.undoStack with
 | nil => simp only [undoNext,undo,journal,Journal.undone,top,and_self]
 | cons =>
  obtain ⟨i,hi,-,undone⟩:=undo_grown inv top
  rw [undoNext,undone,journal_stageByte,hi]
  simp only [journal,Journal.undone,top,stageByte_baseline,and_self]

lemma journal_redoNext (inv:Invariant s) :
 s.redoNext.journal=s.journal.redone ∧ s.redoNext.baseline=s.baseline := by
 cases top:s.redoStack with
 | nil => simp only [redoNext,redo,journal,Journal.redone,top,and_self]
 | cons =>
  obtain ⟨i,hi,-,redone⟩:=redo_grown inv top
  rw [redoNext,redone,journal_stageByte,hi]
  simp only [journal,Journal.redone,top,stageByte_baseline,and_self]

lemma starved_eq (s:PageSession) (starved:allocation≠.grown) :
 (s.undo allocation).2=s ∧ (s.redo allocation).2=s := by
 unfold undo redo
 cases allocation with
 | grown => exact absurd rfl starved
 | badAlloc | lengthError => constructor <;> split <;> rfl

/-- The steps after which nothing is staged. -/
def settles (x : PageStep) : Bool :=
 match x.op with
 | .load _ | .revertAll => true
 | .reloadPreservingRollback | .applyAndVerify | .rollbackBaseline => x.result.isOk
 | _ => false

def effective (x : PageStep) : Bool :=
 match x.op with
 | .editByte .. | .revertByte .. => decide (x.after.working≠x.before.working)
 | _ => false

def editsSince (h : List PageStep) : ℕ := since settles effective h

lemma PageOutcome.moves {t:List BackendEvent} (h:PageOutcome s t r s') :
 Moves kMaxEditHistory s.journal (pageCells s.baseline)
  r.isOk false s'.journal (pageCells s'.baseline) := by
 cases h with
 | refused => exact .kept
 | disconnected => exact .emptied _ _
 | failed e _ kept =>
  rw [journal.eq_1 s',kept.working,kept.undoStack,kept.redoStack,kept.baseline]
  exact .kept
 | adopted _ _ adopted =>
  rw [journal.eq_1 s',adopted.working,adopted.undoStack,adopted.redoStack,adopted.baseline]
  exact .emptied _ _

lemma Edited.moves (h:Edited s r s') :
 Moves kMaxEditHistory s.journal (pageCells s.baseline) false
  (decide (s'.working≠s.working)) s'.journal (pageCells s'.baseline) := by
 cases h with
 | refused | unchanged => simpa using Moves.kept
 | @staged _ _ i value _ changed journal =>
  have differs:Function.update s.working i value≠s.working:=fun same =>
   changed (by rw [←same,Function.update_self])
  rw [journal_stageByte,stageByte_working,decide_eq_true differs]
  exact .changed (pageCells_val s.working i) journal

lemma revertAll_moves (inv:Invariant s) :
 Moves kMaxEditHistory s.journal (pageCells s.baseline) true false s.revertAll.journal
  (pageCells s.revertAll.baseline) := by
 unfold revertAll
 split
 · rename_i unloaded
   have blank:=inv.blank (by simpa using unloaded)
   rw [journal.eq_1 s,blank.undoStack,blank.redoStack,blank.working,blank.baseline]
   exact .emptied true _
 · exact .emptied true _

lemma Unlocking.moves {pfn:UInt64} (h:Unlocking s pfn r s') :
 Moves kMaxEditHistory s.journal (pageCells s.baseline) false false
  s'.journal (pageCells s'.baseline) := by
 cases h <;> exact .kept

lemma step_moves (x:PageStep) (valid:machine.Valid x) (inv:Invariant x.before) :
 Moves kMaxEditHistory x.before.journal (pageCells x.before.baseline) (settles x) (effective x)
  x.after.journal (pageCells x.after.baseline) := by
 obtain ⟨op,s,t,r,s'⟩:=x
 change (exec op s).Exec t (r,s') at valid
 cases op with
 | load =>
  cases load_exit valid <;> exact .emptied true _
 | reloadPreservingRollback => exact (reload_exit valid).pageOutcome.moves
 | invalidate =>
  obtain ⟨rfl,rfl,rfl⟩:=valid.of_pure_prod
  exact .emptied false _
 | editByte allocation offset value =>
  obtain ⟨rfl,rfl,rfl⟩:=valid.of_pure_prod
  exact (applyLocalEdit_recorded s allocation offset value).moves
 | revertByte allocation offset =>
  obtain ⟨rfl,rfl,rfl⟩:=valid.of_pure_prod
  exact (revertByte_edited s allocation offset).moves
 | undo allocation =>
  obtain ⟨rfl,rfl,rfl⟩:=valid.of_pure_prod
  rcases eq_or_ne allocation .grown with rfl|starved
  · obtain ⟨moved,same⟩:=journal_undoNext inv
    change Moves _ _ _ false false s.undoNext.journal (pageCells s.undoNext.baseline)
    rw [moved,same]
    exact .undone
  · rw [(starved_eq s starved).1]
    exact .kept
 | redo allocation =>
  obtain ⟨rfl,rfl,rfl⟩:=valid.of_pure_prod
  rcases eq_or_ne allocation .grown with rfl|starved
  · obtain ⟨moved,same⟩:=journal_redoNext inv
    change Moves _ _ _ false false s.redoNext.journal (pageCells s.redoNext.baseline)
    rw [moved,same]
    exact .redone
  · rw [(starved_eq s starved).2]
    exact .kept
 | revertAll =>
  obtain ⟨rfl,rfl,rfl⟩:=valid.of_pure_prod
  exact revertAll_moves inv
 | unlockForOneApply pfn =>
  obtain ⟨rfl,rfl,rfl⟩:=valid.of_pure_prod
  exact (unlockForOneApply_unlocking s pfn).moves
 | unlockForRollback pfn =>
  obtain ⟨rfl,rfl,rfl⟩:=valid.of_pure_prod
  exact (unlockForRollback_unlocking s pfn).moves
 | applyAndVerify => exact (apply_exit valid).pageOutcome.moves
 | rollbackBaseline => exact (rollback_exit valid).pageOutcome.moves

lemma run_leadsBack (run:machine.Run h s) :
 LeadsBack kMaxEditHistory (editsSince h) s.journal (pageCells s.baseline) := by
 refine run.history_invariant (fun h s=>LeadsBack kMaxEditHistory (editsSince h) s.journal
  (pageCells s.baseline)) (fun _=>⟨rfl,Nat.zero_le _⟩) ?_
 intro _ x before valid leads
 have inv:=run_invariant before
 rw [editsSince,since_snoc]
 exact leads.moves inv.redoes (step_moves x valid inv)

structure SameEdits (s s' : PageSession) : Prop where
 working : s'.working=s.working
 dirty : s'.dirty=s.dirty
 undoStack : s'.undoStack=s.undoStack
 redoStack : s'.redoStack=s.redoStack

/-- What a caller may rely on when it moves along the edit history of the session that `h` has
 led to. -/
structure HistoryExact (h : List PageStep) (s : PageSession) : Prop where
 undo_succeeds : s.undoStack≠[]→(s.undo .grown).1=.ok ()
 redo_succeeds : s.redoStack≠[]→(s.redo .grown).1=.ok ()
 inverse : ∀ k ≤ s.undoStack.length,SameEdits s (redoNext^[k] (undoNext^[k] s))
 exhausts : editsSince h ≤ kMaxEditHistory →
  (undoNext^[s.undoStack.length] s).undoStack=[] ∧
   (undoNext^[s.undoStack.length] s).working=s.baseline ∧
   (undoNext^[s.undoStack.length] s).baseline=s.baseline

lemma pageCells_inj {page page':Page} (same:pageCells page=pageCells page') :
 page=page' := by
 funext i
 simpa using congrFun same i

lemma Invariant.undoNext (h:Invariant s ∧ s.baseline=baseline) :
 (Invariant s.undoNext ∧ s.undoNext.baseline=baseline) ∧
  s.undoNext.journal=s.journal.undone := by
 obtain ⟨moved,same⟩:=journal_undoNext h.1
 exact ⟨⟨h.1.edited (undo_edited h.1 .grown).1,same.trans h.2⟩,moved⟩

lemma Invariant.redoNext (h:Invariant s ∧ s.baseline=baseline) :
 (Invariant s.redoNext ∧ s.redoNext.baseline=baseline) ∧
  s.redoNext.journal=s.journal.redone := by
 obtain ⟨moved,same⟩:=journal_redoNext h.1
 exact ⟨⟨h.1.edited (redo_edited h.1 .grown).1,same.trans h.2⟩,moved⟩

lemma Invariant.sameEdits (inv:Invariant s) (inv':Invariant s')
 (baseline:s'.baseline=s.baseline) (same:s'.journal=s.journal) : SameEdits s s' := by
 have working:s'.working=s.working:=pageCells_inj (congrArg Journal.cells same)
 refine ⟨working,?_,congrArg Journal.undo same,congrArg Journal.redo same⟩
 funext i
 rw [Bool.eq_iff_iff,inv'.dirty_iff,inv.dirty_iff,baseline,working]

lemma run_historyExact (run:machine.Run h s) : HistoryExact h s := by
 have inv:=run_invariant run
 have undos (k:ℕ) := Journal.view_iterate (fun x=>Invariant x ∧ x.baseline=s.baseline)
  journal (fun _=>Invariant.undoNext) ⟨inv,rfl⟩ k
 refine ⟨fun top => ?_,fun top => ?_,fun k within => ?_,fun few => ?_⟩
 · obtain ⟨_,_,top⟩:=List.exists_cons_of_ne_nil top
   obtain ⟨i,-,-,undone⟩:=undo_grown inv top
   rw [undone]
 · obtain ⟨_,_,top⟩:=List.exists_cons_of_ne_nil top
   obtain ⟨i,-,-,redone⟩:=redo_grown inv top
   rw [redone]
 · obtain ⟨held,view⟩:=undos k
   obtain ⟨held,view'⟩:=Journal.view_iterate
    (fun x=>Invariant x ∧ x.baseline=s.baseline) journal (fun _=>Invariant.redoNext) held k
   rw [view,Journal.redone_undone_iterate inv.undoes within] at view'
   exact inv.sameEdits held.1 held.2 view'
 · obtain ⟨held,view⟩:=undos s.undoStack.length
   obtain ⟨empty,cells⟩:=Journal.undone_iterate_length s.journal
   rw [show s.journal.undo.length=s.undoStack.length from rfl,←view] at empty cells
   exact ⟨empty,pageCells_inj (cells.trans (run_leadsBack run few).1),held.2⟩

end

end PageSession
namespace ProcessSession

def cells (bytes : List UInt8) : ℕ→Option UInt8 := fun i=>bytes[i]?

def journal (s : ProcessSession) : Journal UInt8 :=
 ⟨cells s.working,s.undoStack,s.redoStack⟩

def undoNext (s : ProcessSession) : ProcessSession := (s.undo .grown).2

def redoNext (s : ProcessSession) : ProcessSession := (s.redo .grown).2

lemma journal_stageByte (s:ProcessSession) {i:ℕ} {before:UInt8}
 (held:s.working[i]?=some before) (value:UInt8) :
 journal (s.stageByte i value) =
  ⟨Function.update (cells s.working) i (some value),s.undoStack,s.redoStack⟩ :=
 Journal.ext (cells_set (List.getElem?_eq_some_iff.1 held).1 value) rfl rfl

variable {s s':ProcessSession}

section
variable {allocation:Allocation} {r:Result Unit} {t:List ProcessEvent} {h:List ProcessStep}
 {baseline:List UInt8}

lemma journal_undoNext (inv:Invariant s) :
 s.undoNext.journal=s.journal.undone ∧ s.undoNext.baseline=s.baseline := by
 cases top:s.undoStack with
 | nil => simp only [undoNext,undo,journal,Journal.undone,top,and_self]
 | cons edit log =>
  have undoes:=inv.undoes
  rw [top] at undoes
  rw [undoNext,undo_grown inv top,journal_stageByte
   { s with undoStack := log,redoStack := edit::s.redoStack } undoes.1]
  refine ⟨?_,rfl⟩
  simp only [journal,Journal.undone,top]

lemma journal_redoNext (inv:Invariant s) :
 s.redoNext.journal=s.journal.redone ∧ s.redoNext.baseline=s.baseline := by
 cases top:s.redoStack with
 | nil => simp only [redoNext,redo,journal,Journal.redone,top,and_self]
 | cons edit log =>
  have redoes:=inv.redoes
  rw [top] at redoes
  rw [redoNext,redo_grown inv top,journal_stageByte
   { s with undoStack := edit::s.undoStack,redoStack := log } redoes.1]
  refine ⟨?_,rfl⟩
  simp only [journal,Journal.redone,top]

lemma starved_eq (s:ProcessSession) (starved:allocation≠.grown) :
 (s.undo allocation).2=s ∧ (s.redo allocation).2=s := by
 unfold undo redo
 cases allocation with
 | grown => exact absurd rfl starved
 | badAlloc | lengthError => constructor <;> split <;> rfl

def settles (x : ProcessStep) : Bool :=
 match x.op with
 | .load .. | .revertAll => true
 | .applyAndVerify | .rollback => x.result.isOk
 | _ => false

def effective (x : ProcessStep) : Bool :=
 match x.op with
 | .editByte .. | .revertByte .. => decide (x.after.working≠x.before.working)
 | _ => false

def editsSince (h : List ProcessStep) : ℕ := since settles effective h

lemma Edited.moves (h:Edited s r s') :
 Moves kMaxEditHistory s.journal (cells s.baseline) false
  (decide (s'.working≠s.working)) s'.journal (cells s'.baseline) := by
 cases h with
 | refused | unchanged => simpa using Moves.kept
 | @staged undo redo i _ value _ held changed journal =>
  have differs:s.working.set i value≠s.working:=fun same=>by
   have byte:=List.getElem?_set_self (a := value) (List.getElem?_eq_some_iff.1 held).1
   rw [same,held] at byte
   exact changed (Option.some.inj byte)
  rw [stageByte_working,decide_eq_true differs,
   journal_stageByte { s with undoStack := undo,redoStack := redo } held]
  exact .changed held journal

lemma Reported.moves (h:Reported s s') :
 Moves kMaxEditHistory s.journal (cells s.baseline) false false s'.journal
  (cells s'.baseline) := by
 cases h with
 | mk => exact .kept

lemma ApplyExit.moves (h:ApplyExit s t r s') :
 Moves kMaxEditHistory s.journal (cells s.baseline) r.isOk false
  s'.journal (cells s'.baseline) := by
 cases h with
 | stopped e _ _ _ report | failed e _ _ _ _ _ report => exact report.moves
 | verified => exact .emptied true _

lemma RollbackExit.moves (h:RollbackExit s t r s') :
 Moves kMaxEditHistory s.journal (cells s.baseline) r.isOk false
  s'.journal (cells s'.baseline) := by
 cases h with
 | stopped e _ _ report | failed e _ _ _ _ _ _ report => exact report.moves
 | verified => exact .emptied true _

lemma revertAll_moves (inv:Invariant s) :
 Moves kMaxEditHistory s.journal (cells s.baseline) true false s.revertAll.journal
  (cells s.revertAll.baseline) := by
 unfold revertAll
 split
 · rename_i unloaded
   have blank:=inv.blank (by simpa using unloaded)
   rw [journal,blank.undoStack,blank.redoStack,blank.working,blank.baseline]
   exact .emptied true _
 · exact .emptied true _

lemma step_moves (x:ProcessStep) (valid:machine.Valid x) (inv:Invariant x.before) :
 Moves kMaxEditHistory x.before.journal (cells x.before.baseline) (settles x) (effective x)
  x.after.journal (cells x.after.baseline) := by
 obtain ⟨op,s,t,r,s'⟩:=x
 change (exec op s).Exec t (r,s') at valid
 cases op with
 | load =>
  cases load_exit valid <;> exact .emptied true _
 | reset =>
  obtain ⟨rfl,rfl,rfl⟩:=valid.of_pure_prod
  exact .emptied false _
 | editByte allocation offset value =>
  obtain ⟨rfl,rfl,rfl⟩:=valid.of_pure_prod
  exact (applyLocalEdit_recorded s allocation offset value).moves
 | revertByte allocation offset =>
  obtain ⟨rfl,rfl,rfl⟩:=valid.of_pure_prod
  exact (revertByte_edited s allocation offset).moves
 | undo allocation =>
  obtain ⟨rfl,rfl,rfl⟩:=valid.of_pure_prod
  rcases eq_or_ne allocation .grown with rfl|starved
  · obtain ⟨moved,same⟩:=journal_undoNext inv
    change Moves _ _ _ false false s.undoNext.journal (cells s.undoNext.baseline)
    rw [moved,same]
    exact .undone
  · rw [(starved_eq s starved).1]
    exact .kept
 | redo allocation =>
  obtain ⟨rfl,rfl,rfl⟩:=valid.of_pure_prod
  rcases eq_or_ne allocation .grown with rfl|starved
  · obtain ⟨moved,same⟩:=journal_redoNext inv
    change Moves _ _ _ false false s.redoNext.journal (cells s.redoNext.baseline)
    rw [moved,same]
    exact .redone
  · rw [(starved_eq s starved).2]
    exact .kept
 | revertAll =>
  obtain ⟨rfl,rfl,rfl⟩:=valid.of_pure_prod
  exact revertAll_moves inv
 | applyAndVerify => exact (apply_exit inv valid).moves
 | rollback => exact (rollback_exit inv valid).moves

lemma run_leadsBack (run:machine.Run h s) :
 LeadsBack kMaxEditHistory (editsSince h) s.journal (cells s.baseline) := by
 refine run.history_invariant (fun h s=>LeadsBack kMaxEditHistory (editsSince h) s.journal
  (cells s.baseline)) (fun _=>⟨rfl,Nat.zero_le _⟩) ?_
 intro _ x before valid leads
 have inv:=run_invariant before
 rw [editsSince,since_snoc]
 exact leads.moves inv.redoes (step_moves x valid inv)

structure SameEdits (s s' : ProcessSession) : Prop where
 working : s'.working=s.working
 dirty : s'.dirty=s.dirty
 undoStack : s'.undoStack=s.undoStack
 redoStack : s'.redoStack=s.redoStack

structure HistoryExact (h : List ProcessStep) (s : ProcessSession) : Prop where
 undo_succeeds : s.undoStack≠[]→(s.undo .grown).1=.ok ()
 redo_succeeds : s.redoStack≠[]→(s.redo .grown).1=.ok ()
 inverse : ∀ k ≤ s.undoStack.length,SameEdits s (redoNext^[k] (undoNext^[k] s))
 exhausts : editsSince h ≤ kMaxEditHistory →
  (undoNext^[s.undoStack.length] s).undoStack=[] ∧
   (undoNext^[s.undoStack.length] s).working=s.baseline ∧
   (undoNext^[s.undoStack.length] s).baseline=s.baseline

lemma cells_inj {bytes bytes':List UInt8} (same:cells bytes=cells bytes') :
 bytes=bytes' :=
 List.ext_getElem? fun i=>congrFun same i

lemma Invariant.undoNext (h:Invariant s ∧ s.baseline=baseline) :
 (Invariant s.undoNext ∧ s.undoNext.baseline=baseline) ∧
  s.undoNext.journal=s.journal.undone := by
 obtain ⟨moved,same⟩:=journal_undoNext h.1
 exact ⟨⟨h.1.edited (undo_edited h.1 .grown),same.trans h.2⟩,moved⟩

lemma Invariant.redoNext (h:Invariant s ∧ s.baseline=baseline) :
 (Invariant s.redoNext ∧ s.redoNext.baseline=baseline) ∧
  s.redoNext.journal=s.journal.redone := by
 obtain ⟨moved,same⟩:=journal_redoNext h.1
 exact ⟨⟨h.1.edited (redo_edited h.1 .grown),same.trans h.2⟩,moved⟩

lemma Invariant.sameEdits (inv:Invariant s) (inv':Invariant s')
 (baseline:s'.baseline=s.baseline) (same:s'.journal=s.journal) : SameEdits s s' := by
 have working:s'.working=s.working:=cells_inj (congrArg Journal.cells same)
 refine ⟨working,?_,congrArg Journal.undo same,congrArg Journal.redo same⟩
 have length:s'.dirty.length=s.dirty.length:=by
  rw [inv'.dirtyLength,inv.dirtyLength,working]
 refine List.ext_getElem length fun i inside' inside => ?_
 have bit' := inv'.dirty_iff i (inv'.dirtyLength ▸ inside')
 have bit:=inv.dirty_iff i (inv.dirtyLength ▸ inside)
 rw [baseline,working,←bit,List.getElem?_eq_getElem inside',
  List.getElem?_eq_getElem inside] at bit'
 simpa only [Option.some.injEq,←Bool.eq_iff_iff] using bit'

lemma run_historyExact (run:machine.Run h s) : HistoryExact h s := by
 have inv:=run_invariant run
 have undos (k:ℕ) := Journal.view_iterate (fun x=>Invariant x ∧ x.baseline=s.baseline)
  journal (fun _=>Invariant.undoNext) ⟨inv,rfl⟩ k
 refine ⟨fun top => ?_,fun top => ?_,fun k within => ?_,fun few => ?_⟩
 · obtain ⟨_,_,top⟩:=List.exists_cons_of_ne_nil top
   rw [undo_grown inv top]
 · obtain ⟨_,_,top⟩:=List.exists_cons_of_ne_nil top
   rw [redo_grown inv top]
 · obtain ⟨held,view⟩:=undos k
   obtain ⟨held,view'⟩:=Journal.view_iterate
    (fun x=>Invariant x ∧ x.baseline=s.baseline) journal (fun _=>Invariant.redoNext) held k
   rw [view,Journal.redone_undone_iterate inv.undoes within] at view'
   exact inv.sameEdits held.1 held.2 view'
 · obtain ⟨held,view⟩:=undos s.undoStack.length
   obtain ⟨empty,same⟩:=Journal.undone_iterate_length s.journal
   rw [show s.journal.undo.length=s.undoStack.length from rfl,←view] at empty same
   exact ⟨empty,cells_inj (same.trans (run_leadsBack run few).1),held.2⟩

end

end ProcessSession

/-- Undo and redo are exact inverses in both sessions, in every state that a run leads to. -/
theorem edit_history_exact :
 (∀ h s,PageSession.machine.Run h s→PageSession.HistoryExact h s) ∧
  ∀ h s,ProcessSession.machine.Run h s→ProcessSession.HistoryExact h s :=
 ⟨fun _ _ run=>PageSession.run_historyExact run,
  fun _ _ run=>ProcessSession.run_historyExact run⟩

/-- A byte of a page and a byte of a process view are edited: the undo stack of each holds one
 edit, and undoing it leads back to the baseline. -/
theorem sampleEdits_undone :
 (PageSession.undoNext^[1] PageSession.sampleUnlocked).working =
  PageSession.sampleUnlocked.baseline ∧
  (ProcessSession.undoNext^[1] ProcessSession.sampleEdit.after).working=[1,2] :=
 ⟨((edit_history_exact.1 _ _ PageSession.sampleUnlocked_run).exhausts
  ((since_le_length _ _ _).trans (by decide))).2.1,
  ((edit_history_exact.2 _ _ ProcessSession.sampleEdit_run).exhausts
   ((since_le_length _ _ _).trans (by decide))).2.1⟩

end KDbg
