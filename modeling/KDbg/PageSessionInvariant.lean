import KDbg.PageSessionSteps
set_option autoImplicit false
/-!
The invariant of the page session, which holds whenever a public operation has
returned. Undo and redo need the histories to fit the working copy: this is
what makes every successful undo or redo change a byte.
-/
namespace KDbg.PageSession
open Interaction EditLog

section
variable {s s':PageSession} {page:Page}

@[simp] lemma isDirty_eq_true (s:PageSession) : s.isDirty=true ↔ ∃ i,s.dirty i=true := by
 simp [isDirty]

@[simp] lemma isDirty_eq_false (s:PageSession) :
 s.isDirty=false ↔ ∀i,s.dirty i=false := by
 simp [isDirty]

lemma isDirty_congr (h:s'.dirty=s.dirty) : s'.isDirty=s.isDirty := by
 unfold isDirty
 rw [h]

/-- A page as a partial array, the form in which the edit histories address it. -/
def pageCells (page : Page) : ℕ→Option UInt8 :=
 fun n=>if h : n < kPhysicalPageSize then some (page ⟨n,h⟩) else none

@[simp] lemma pageCells_val (page:Page) (i:Fin kPhysicalPageSize) :
 pageCells page i=some (page i) := by
 simp [pageCells]

lemma pageCells_update (page:Page) (i:Fin kPhysicalPageSize) (value:UInt8) :
 pageCells (Function.update page i value) =
  Function.update (pageCells page) i (some value) := by
 funext n
 by_cases hn:n < kPhysicalPageSize
 · by_cases hi:n=i
   · subst hi
     simp
   · have hne:(⟨n,hn⟩ : Fin kPhysicalPageSize)≠i:=fun h=>hi (congrArg Fin.val h)
     simp [pageCells,hn,hi,hne]
 · have hi:n≠i:=fun h=>hn (h ▸ i.isLt)
   simp [pageCells,hn,hi]

lemma pageCells_eq_some {n:ℕ} {value:UInt8} (h:pageCells page n=some value) :
 ∃ i : Fin kPhysicalPageSize,(i:ℕ)=n ∧ page i=value := by
 unfold pageCells at h
 split at h
 · rename_i hn
   exact ⟨⟨n,hn⟩,rfl,by simpa using h⟩
 · cases h

structure Blank (s : PageSession) : Prop where
 baseline : s.baseline=zeroPage
 working : s.working=zeroPage
 undoStack : s.undoStack=[]
 redoStack : s.redoStack=[]
 rollbackSnapshot : s.rollbackSnapshot=none
 rollbackExpected : s.rollbackExpected=none
 evidence : s.evidence={}
 locked : s.writeUnlocked=false
 recovery : s.recoveryObservationRequired=false

/-- What a session promises between two operations. -/
structure Consistent (s : PageSession) : Prop where
 dirty_iff : ∀ i,s.dirty i=true ↔ s.baseline i≠s.working i
 clean : s.state=.clean → s.isDirty=false
 staged : s.state=.dirty → s.isDirty=true
 idle : s.state≠.loading ∧ s.state≠.preflight ∧ s.state≠.writing ∧ s.state≠.verifying
 depth : s.undoStack.length+s.redoStack.length ≤ kMaxEditHistory
 blank : s.target=none→Blank s
 unlocked : s.writeUnlocked=true →
  s.target.isSome=true ∧ (s.isDirty=true ∨ s.canRollback=true)

structure Invariant (s : PageSession) : Prop extends Consistent s where
 undoes : Undoes (pageCells s.working) s.undoStack
 redoes : Redoes (pageCells s.working) s.redoStack

lemma Invariant.operationActive (inv:Invariant s) : s.operationActive=false := by
 simp [PageSession.operationActive,inv.idle]

lemma invariant_init : Invariant {} where
 dirty_iff := by simp
 clean := by simp
 staged := by simp
 idle := by simp
 depth := by simp
 blank := fun _=>⟨rfl,rfl,rfl,rfl,rfl,rfl,rfl,rfl,rfl⟩
 unlocked := by simp
 undoes := trivial
 redoes := trivial

lemma invariant_unloaded (s:PageSession) : Invariant s.unloaded where
 dirty_iff := by simp [unloaded,clearPageData]
 clean := by simp [unloaded]
 staged := by simp [unloaded]
 idle := by simp [unloaded]
 depth := by simp [unloaded,clearPageData]
 blank := fun _=>⟨rfl,rfl,rfl,rfl,rfl,rfl,rfl,rfl,rfl⟩
 unlocked := by simp [unloaded,clearPageData,clearEvidence,lockWrite]
 undoes := trivial
 redoes := trivial

lemma invariant_invalidate (s:PageSession) : Invariant s.invalidate where
 dirty_iff := by simp [invalidate,clearPageData]
 clean := by simp [invalidate]
 staged := by simp [invalidate]
 idle := by simp [invalidate]
 depth := by simp [invalidate,clearPageData]
 blank := fun _=>⟨rfl,rfl,rfl,rfl,rfl,rfl,rfl,rfl,rfl⟩
 unlocked := by simp [invalidate,clearPageData,clearEvidence,lockWrite]
 undoes := trivial
 redoes := trivial

lemma Adopted.invariant (h:Adopted s s' page) (loaded:s.target.isSome=true) :
 Invariant s' where
 dirty_iff := by simp [h.dirty,h.baseline,h.working]
 clean := by simp [h.dirty]
 staged := by simp [h.state]
 idle := by simp [h.state]
 depth := by simp [h.undoStack,h.redoStack]
 blank := fun hn=>by simp [h.target.symm.trans hn] at loaded
 unlocked := by simp [h.locked]
 undoes := by rw [h.undoStack];trivial
 redoes := by rw [h.redoStack];trivial

lemma Invariant.failed (inv:Invariant s) (h:Failed s s') (loaded:s.target.isSome=true) :
 Invariant s' where
 dirty_iff := by rw [h.dirty,h.baseline,h.working];exact inv.dirty_iff
 clean := fun hs=>by rcases h.state with h|h|h <;> simp [h] at hs
 staged := fun hs=>by rcases h.state with h|h|h <;> simp [h] at hs
 idle := by rcases h.state with h|h|h <;> simp [h]
 depth := by rw [h.undoStack,h.redoStack];exact inv.depth
 blank := fun hn=>by simp [h.target.symm.trans hn] at loaded
 unlocked := by simp [h.locked]
 undoes := by rw [h.working,h.undoStack];exact inv.undoes
 redoes := by rw [h.working,h.redoStack];exact inv.redoes

end

section StagedByte
variable (s:PageSession) (i:Fin kPhysicalPageSize) (value:UInt8)

@[simp] lemma stageByte_baseline : (s.stageByte i value).baseline=s.baseline := rfl

@[simp] lemma stageByte_working :
 (s.stageByte i value).working=Function.update s.working i value := rfl

@[simp] lemma stageByte_dirty :
 (s.stageByte i value).dirty=Function.update s.dirty i (s.baseline i != value) := by
 simp [stageByte,lockWrite]

lemma stageByte_state : (s.stageByte i value).state =
 if (s.stageByte i value).isDirty then .dirty else .clean := by
 simp only [stageByte,lockWrite,isDirty]
 congr

lemma stageByte_histories (undo redo:List ByteEdit) :
 { s.stageByte i value with undoStack := undo,redoStack := redo } =
   { s with undoStack := undo,redoStack := redo }.stageByte i value := by
 simp only [stageByte,lockWrite,isDirty]
 congr

end StagedByte

section
variable {s:PageSession} {edit:ByteEdit} {log:List ByteEdit}

/-- A local edit is refused, finds the byte as it should be, or changes it. -/
inductive Edited (s:PageSession) : Result Unit→PageSession→Prop where
 | refused (e:Error) : Edited s (.error e) s
 | unchanged : Edited s (.ok ()) s
 | staged {undo redo:List ByteEdit} (i:Fin kPhysicalPageSize) (value:UInt8)
  (loaded:s.target.isSome=true) (changed:s.working i≠value)
  (journal:Journaled kMaxEditHistory s.undoStack s.redoStack i (s.working i) value
   undo redo) :
  Edited s (.ok ()) ({ s with undoStack := undo,redoStack := redo }.stageByte i value)

lemma applyLocalEdit_recorded (s:PageSession) (allocation:Allocation) (offset:ℕ)
 (value:UInt8) : Edited s (s.applyLocalEdit allocation offset value true).1
  (s.applyLocalEdit allocation offset value true).2 := by
 unfold applyLocalEdit
 simp only [if_true]
 split
 · exact .refused _
 · rename_i loaded
   split
   · rename_i h
     split
     · exact .refused _
     · split
       · exact .unchanged
       · rename_i changed
         cases allocation with
         | badAlloc | lengthError => exact .refused _
         | grown =>
          have held:s.target.isSome=true:=by simpa [Option.isSome_iff_ne_none] using loaded
          exact .staged ⟨offset,h⟩ value held changed .recorded
   · exact .refused _

lemma revertByte_edited (s:PageSession) (allocation:Allocation) (offset:ℕ) :
 Edited s (s.revertByte allocation offset).1 (s.revertByte allocation offset).2 := by
 unfold revertByte
 split
 · exact applyLocalEdit_recorded _ _ _ _
 · exact .refused _

lemma applyLocalEdit_unrecorded (loaded:s.target.isSome=true)
 (idle:s.operationActive=false) (i:Fin kPhysicalPageSize) {value:UInt8}
 (changed:s.working i≠value) :
 s.applyLocalEdit .grown i value false=(.ok (),s.stageByte i value) := by
 obtain ⟨_,loaded⟩:=Option.isSome_iff_exists.1 loaded
 simp [applyLocalEdit,loaded,idle,changed]

lemma Invariant.loaded_of_undoStack (inv:Invariant s) (h:s.undoStack≠[]) :
 s.target.isSome=true := by
 rw [Option.isSome_iff_ne_none]
 exact fun hn=>h (inv.blank hn).undoStack

lemma Invariant.loaded_of_redoStack (inv:Invariant s) (h:s.redoStack≠[]) :
 s.target.isSome=true := by
 rw [Option.isSome_iff_ne_none]
 exact fun hn=>h (inv.blank hn).redoStack

/-- With room for the redo entry, an edit on the undo stack can always be undone. -/
lemma undo_grown (inv:Invariant s) (top:s.undoStack=edit::log) :
 ∃ i : Fin kPhysicalPageSize,(i:ℕ)=edit.offset ∧ s.working i=edit.after ∧
  s.undo .grown=(.ok (),
   { s with undoStack := log,redoStack := edit::s.redoStack }.stageByte i edit.before) := by
 have undoes:=inv.undoes
 rw [top] at undoes
 obtain ⟨i,hi,hw⟩:=pageCells_eq_some undoes.1
 refine ⟨i,hi,hw,?_⟩
 have loaded:=inv.loaded_of_undoStack (by simp [top])
 have changed:s.working i≠edit.before:=fun same=>undoes.2.1 (same.symm.trans hw)
 have staged:=applyLocalEdit_unrecorded
  (s := { s with redoStack := edit::s.redoStack }) loaded inv.operationActive i changed
 rw [←stageByte_histories]
 simp only [undo,top,←hi] at staged ⊢
 simp only [staged]
 rfl

lemma redo_grown (inv:Invariant s) (top:s.redoStack=edit::log) :
 ∃ i : Fin kPhysicalPageSize,(i:ℕ)=edit.offset ∧ s.working i=edit.before ∧
  s.redo .grown=(.ok (),
   { s with undoStack := edit::s.undoStack,redoStack := log }.stageByte i edit.after) := by
 have redoes:=inv.redoes
 rw [top] at redoes
 obtain ⟨i,hi,hw⟩:=pageCells_eq_some redoes.1
 refine ⟨i,hi,hw,?_⟩
 have loaded:=inv.loaded_of_redoStack (by simp [top])
 have changed:s.working i≠edit.after:=fun same=>redoes.2.1 (hw.symm.trans same)
 have staged:=applyLocalEdit_unrecorded
  (s := { s with undoStack := edit::s.undoStack }) loaded inv.operationActive i changed
 rw [←stageByte_histories]
 simp only [redo,top,←hi] at staged ⊢
 simp only [staged]
 rfl

lemma undo_edited (inv:Invariant s) (allocation:Allocation) :
 Edited s (s.undo allocation).1 (s.undo allocation).2 ∧
  ((s.undo allocation).1=.ok ()→(s.undo allocation).2.writeUnlocked=false) := by
 cases top:s.undoStack with
 | nil =>
  simp only [undo,top]
  exact ⟨.refused _,by simp⟩
 | cons edit log =>
  cases allocation with
  | badAlloc | lengthError =>
   simp only [undo,top]
   exact ⟨.refused _,by simp⟩
  | grown =>
   obtain ⟨i,hi,hw,undone⟩:=undo_grown inv top
   obtain ⟨_,before,_⟩:=edit
   subst hi hw
   have loaded:=inv.loaded_of_undoStack (by simp [top])
   have undoes:=inv.undoes
   rw [top] at undoes
   rw [undone]
   exact ⟨.staged i before loaded undoes.2.1.symm (.undone log top),fun _=>rfl⟩

lemma redo_edited (inv:Invariant s) (allocation:Allocation) :
 Edited s (s.redo allocation).1 (s.redo allocation).2 ∧
  ((s.redo allocation).1=.ok ()→(s.redo allocation).2.writeUnlocked=false) := by
 cases top:s.redoStack with
 | nil =>
  simp only [redo,top]
  exact ⟨.refused _,by simp⟩
 | cons edit log =>
  cases allocation with
  | badAlloc | lengthError =>
   simp only [redo,top]
   exact ⟨.refused _,by simp⟩
  | grown =>
   obtain ⟨i,hi,hw,redone⟩:=redo_grown inv top
   obtain ⟨_,_,after⟩:=edit
   subst hi hw
   have loaded:=inv.loaded_of_redoStack (by simp [top])
   have redoes:=inv.redoes
   rw [top] at redoes
   rw [redone]
   exact ⟨.staged i after loaded redoes.2.1 (.redone log top),fun _=>rfl⟩

end

variable {r:Result Unit}

lemma Invariant.edited {s s':PageSession} (inv:Invariant s) (h:Edited s r s') :
 Invariant s' := by
 cases h with
 | refused | unchanged => exact inv
 | staged i _ loaded changed journal =>
  obtain ⟨depth,undoes,redoes⟩:=journal.fits inv.depth inv.undoes inv.redoes
   (pageCells_val s.working i) changed
  rw [←pageCells_update] at undoes redoes
  refine ⟨⟨?_,?_,?_,?_,depth,?_,?_⟩,undoes,redoes⟩
  · intro j
    by_cases hj:j=i
    · subst hj
      simp
    · simp [hj,inv.dirty_iff]
  · intro hs
    by_contra hd
    rw [stageByte_state,if_pos (by simpa using hd)] at hs
    cases hs
  · intro hs
    by_contra hd
    rw [stageByte_state,if_neg hd] at hs
    cases hs
  · rw [stageByte_state]
    split <;> simp
  · exact fun hn=>absurd hn (Option.isSome_iff_ne_none.1 loaded)
  · intro hu
    cases hu

/-- How an operation on a loaded page leaves the page data: refused, unloaded, failed with
 everything in place, or with a complete new page. -/
inductive PageOutcome (s:PageSession) :
 List BackendEvent→Result Unit→PageSession→Prop where
 | refused (e:Error) : PageOutcome s [] (.error e) s
 | disconnected {t:List BackendEvent} (e:Error) (code:e.code=.backendDisconnected) :
  PageOutcome s t (.error e) s.invalidate
 | failed {t:List BackendEvent} {s':PageSession} (e:Error)
  (loaded:s.target.isSome=true) (kept:Failed s s') : PageOutcome s t (.error e) s'
 | adopted {t:List BackendEvent} {s':PageSession} (page:Page)
  (loaded:s.target.isSome=true) (adopted:Adopted s s' page) :
  PageOutcome s t (.ok ()) s'

variable {t:List BackendEvent}

section
variable {s s':PageSession} {h:List PageStep}

lemma PageOutcome.locks (h:PageOutcome s t r s') :
 (s'=s ∧ t=[]) ∨ s'.writeUnlocked=false := by
 cases h with
 | refused => exact .inl ⟨rfl,rfl⟩
 | disconnected => exact .inr rfl
 | failed e _ kept => exact .inr kept.locked
 | adopted _ _ adopted => exact .inr adopted.locked

lemma Invariant.pageOutcome (inv:Invariant s) (h:PageOutcome s t r s') : Invariant s' := by
 cases h with
 | refused => exact inv
 | disconnected => exact invariant_invalidate s
 | failed e loaded kept => exact inv.failed kept loaded
 | adopted _ loaded adopted => exact adopted.invariant loaded

lemma FailedWith.pageOutcome {begun:PageSession} {e:Error} {state:PageSessionState}
 {target:PhysicalWriteTarget} (h:FailedWith begun e state s') (loaded:s.target=some target)
 (unloads:begun.invalidate=s.invalidate) (kept:Failed s { begun with state := state }) :
 PageOutcome s t (.error e) s' := by
 cases h with
 | disconnected code =>
  rw [unloads]
  exact .disconnected e code
 | connected => exact .failed e (by simp [loaded]) kept

lemma ApplyExit.pageOutcome (h:ApplyExit s t r s') : PageOutcome s t r s' := by
 cases h with
 | refused e => exact .refused e
 | rejected ready _ e _ failed | gateRefused ready _ _ _ e _ failed =>
  exact failed.pageOutcome ready.loaded rfl
   ⟨⟨rfl,rfl,rfl,rfl,rfl⟩,rfl,rfl, .inl rfl⟩
 | transacted ready _ _ _ _ closed _ settled =>
  have loaded:s.target.isSome=true:=by simp [ready.loaded]
  cases settled with
  | lost e r =>
   exact .failed r loaded ⟨⟨rfl,rfl,rfl,rfl,rfl⟩,rfl,rfl, .inr (.inr rfl)⟩
  | unverified _ _ r _ _ _ failure =>
   exact .failed r loaded ⟨⟨by simp [beginApply,stageApply,lockWrite],
    by simp [beginApply,stageApply,lockWrite],by simp [beginApply,stageApply,lockWrite],
    by simp [beginApply,stageApply,lockWrite],by simp [beginApply,stageApply,lockWrite]⟩,
    by simp [beginApply,stageApply,lockWrite],by simp [beginApply,stageApply,lockWrite],
    failure⟩
  | verified result =>
   exact .adopted result.readback loaded ⟨rfl,rfl,rfl,rfl,rfl,
    by simp [applied,beginApply,stageApply,lockWrite],
    by simp [applied,beginApply,stageApply,lockWrite],rfl⟩

lemma RollbackExit.pageOutcome (h:RollbackExit s t r s') : PageOutcome s t r s' := by
 cases h with
 | refused e => exact .refused e
 | rejected ready _ e _ failed | gateRefused ready _ _ _ e _ failed =>
  exact failed.pageOutcome ready.loaded rfl
   ⟨⟨rfl,rfl,rfl,rfl,rfl⟩,rfl,rfl, .inl rfl⟩
 | transacted ready _ _ _ _ closed _ settled =>
  have loaded:s.target.isSome=true:=by simp [ready.loaded]
  cases settled with
  | lost e r =>
   exact .failed r loaded ⟨⟨rfl,rfl,rfl,rfl,rfl⟩,rfl,rfl, .inr (.inr rfl)⟩
  | unverified _ _ r _ _ _ failure =>
   exact .failed r loaded ⟨⟨rfl,rfl,rfl,rfl,rfl⟩,rfl,rfl,failure⟩
  | verified =>
   exact .adopted _ loaded ⟨rfl,rfl,rfl,rfl,rfl,rfl,rfl,rfl⟩

lemma ReloadExit.pageOutcome (h:ReloadExit s t r s') : PageOutcome s t r s' := by
 cases h with
 | refused e => exact .refused e
 | rejected ready _ e _ failed =>
  exact failed.pageOutcome ready.loaded rfl
   ⟨⟨rfl,rfl,rfl,rfl,rfl⟩,rfl,rfl, .inl rfl⟩
 | unread ready _ _ e _ _ failed =>
  exact failed.pageOutcome ready.loaded rfl
   ⟨⟨rfl,rfl,rfl,rfl,rfl⟩,rfl,rfl, .inr (.inr rfl)⟩
 | observed ready _ _ page _ _ settled =>
  have loaded:s.target.isSome=true:=by simp [ready.loaded]
  cases settled with
  | restored | bound | confirmed =>
   exact .adopted page loaded ⟨rfl,rfl,rfl,rfl,rfl,rfl,rfl,rfl⟩
  | mismatched _ e =>
   exact .failed e loaded ⟨⟨rfl,rfl,rfl,rfl,rfl⟩,rfl,rfl, .inr (.inr rfl)⟩

lemma LoadExit.invariant {target:PhysicalWriteTarget} (h:LoadExit s target t r s') :
 Invariant s' := by
 cases h with
 | inconsistent | rejected | unread => exact invariant_unloaded s
 | loaded _ _ page =>
  have adopted : Adopted (s.loadedPage target page) (s.loadedPage target page) page :=
   ⟨rfl,rfl,rfl,rfl,rfl,rfl,rfl,rfl⟩
  exact adopted.invariant rfl

lemma Invariant.revertAll (inv:Invariant s) : Invariant s.revertAll := by
 unfold PageSession.revertAll
 split
 · exact inv
 · rename_i loaded
   have adopted : Adopted s { s.lockWrite with
    working := s.baseline
    dirty := fun _=>false
    lastConflicts := []
    lastMismatches := []
    undoStack := []
    redoStack := []
    revision := s.revision+1
    state := .clean } s.baseline := ⟨rfl,rfl,rfl,rfl,rfl,rfl,rfl,rfl⟩
   exact adopted.invariant (by simpa [Option.isSome_iff_ne_none] using loaded)

/-- An unlock changes nothing but the lock, and only a session that has something to write. -/
inductive Unlocking (s:PageSession) (pfn:UInt64) : Result Unit→PageSession→Prop where
 | refused (e:Error) : Unlocking s pfn (.error e) s
 | unlocked (target:PhysicalWriteTarget) (loaded:s.target=some target)
  (retyped:pfn=target.address.pfn) (purpose:s.isDirty=true ∨ s.canRollback=true) :
  Unlocking s pfn (.ok ()) { s with writeUnlocked := true }

lemma unlockForOneApply_unlocking (s:PageSession) (pfn:UInt64) :
 Unlocking s pfn (s.unlockForOneApply pfn).1 (s.unlockForOneApply pfn).2 := by
 unfold unlockForOneApply
 split
 · exact .refused _
 · rename_i target loaded
   split
   · exact .refused _
   · rename_i dirty
     split
     · exact .refused _
     · rename_i retyped
       exact .unlocked target loaded (not_not.1 retyped) (.inl (by simpa using dirty))

lemma unlockForRollback_unlocking (s:PageSession) (pfn:UInt64) :
 Unlocking s pfn (s.unlockForRollback pfn).1 (s.unlockForRollback pfn).2 := by
 unfold unlockForRollback
 split
 · rename_i target snapshot expected loaded hs he
   split
   · exact .refused _
   · rename_i retyped
     exact .unlocked target loaded (not_not.1 retyped) (.inr (by simp [canRollback,hs,he]))
 · exact .refused _

lemma Invariant.unlocking {pfn:UInt64} (inv:Invariant s) (h:Unlocking s pfn r s') :
 Invariant s' := by
 cases h with
 | refused => exact inv
 | unlocked _ loaded _ purpose =>
  exact ⟨⟨inv.dirty_iff,inv.clean,inv.staged,inv.idle,inv.depth,
   fun hn=>by simp [loaded] at hn,fun _=>⟨by simp [loaded],purpose⟩⟩,inv.undoes,
   inv.redoes⟩

def Op.edits : Op→Bool
 | .editByte .. | .revertByte .. | .undo _ | .redo _ => true
 | _ => false

/-- Undo and redo: these never succeed without changing a byte. -/
def Op.movesHistory : Op→Bool
 | .undo _ | .redo _ => true
 | _ => false

def Op.retypedPfn? : Op→Option UInt64
 | .unlockForOneApply pfn | .unlockForRollback pfn => some pfn
 | _ => none

inductive StepExit (s:PageSession) :
 Op→List BackendEvent→Result Unit→PageSession→Prop where
 | load {target:PhysicalWriteTarget} {t:List BackendEvent} {r:Result Unit}
  {s':PageSession} (exit:LoadExit s target t r s') : StepExit s (.load target) t r s'
 | reload {t:List BackendEvent} {r:Result Unit} {s':PageSession}
  (exit:ReloadExit s t r s') : StepExit s .reloadPreservingRollback t r s'
 | invalidate : StepExit s .invalidate [] (.ok ()) s.invalidate
 | edit {op:Op} {r:Result Unit} {s':PageSession} (edits:op.edits=true)
  (edited:Edited s r s')
  (locks:op.movesHistory=true → r=.ok () → s'.writeUnlocked=false) :
  StepExit s op [] r s'
 | revertAll : StepExit s .revertAll [] (.ok ()) s.revertAll
 | unlock {op:Op} {r:Result Unit} {s':PageSession} (pfn:UInt64)
  (retyped:op.retypedPfn?=some pfn) (unlocking:Unlocking s pfn r s') :
  StepExit s op [] r s'
 | apply {t:List BackendEvent} {r:Result Unit} {s':PageSession}
  (exit:ApplyExit s t r s') : StepExit s .applyAndVerify t r s'
 | rollback {t:List BackendEvent} {r:Result Unit} {s':PageSession}
  (exit:RollbackExit s t r s') : StepExit s .rollbackBaseline t r s'

lemma step_exit (x:PageStep) (valid:machine.Valid x) (inv:Invariant x.before) :
 StepExit x.before x.op x.trace x.result x.after := by
 obtain ⟨op,s,t,r,s'⟩:=x
 change (exec op s).Exec t (r,s') at valid
 cases op with
 | load => exact .load (load_exit valid)
 | reloadPreservingRollback => exact .reload (reload_exit valid)
 | invalidate =>
  obtain ⟨rfl,rfl,rfl⟩:=valid.of_pure_prod
  exact .invalidate
 | editByte allocation offset value =>
  obtain ⟨rfl,rfl,rfl⟩:=valid.of_pure_prod
  exact .edit rfl (applyLocalEdit_recorded s allocation offset value) (by simp [Op.movesHistory])
 | revertByte allocation offset =>
  obtain ⟨rfl,rfl,rfl⟩:=valid.of_pure_prod
  exact .edit rfl (revertByte_edited s allocation offset) (by simp [Op.movesHistory])
 | undo allocation =>
  obtain ⟨rfl,rfl,rfl⟩:=valid.of_pure_prod
  exact .edit rfl (undo_edited inv allocation).1 fun _=>(undo_edited inv allocation).2
 | redo allocation =>
  obtain ⟨rfl,rfl,rfl⟩:=valid.of_pure_prod
  exact .edit rfl (redo_edited inv allocation).1 fun _=>(redo_edited inv allocation).2
 | revertAll =>
  obtain ⟨rfl,rfl,rfl⟩:=valid.of_pure_prod
  exact .revertAll
 | unlockForOneApply pfn =>
  obtain ⟨rfl,rfl,rfl⟩:=valid.of_pure_prod
  exact .unlock pfn rfl (unlockForOneApply_unlocking s pfn)
 | unlockForRollback pfn =>
  obtain ⟨rfl,rfl,rfl⟩:=valid.of_pure_prod
  exact .unlock pfn rfl (unlockForRollback_unlocking s pfn)
 | applyAndVerify => exact .apply (apply_exit valid)
 | rollbackBaseline => exact .rollback (rollback_exit valid)

lemma Invariant.stepExit {op:Op} (inv:Invariant s) (h:StepExit s op t r s') :
 Invariant s' := by
 cases h with
 | load exit => exact exit.invariant
 | reload exit | apply exit | rollback exit => exact inv.pageOutcome exit.pageOutcome
 | invalidate => exact invariant_invalidate s
 | edit _ edited => exact inv.edited edited
 | revertAll => exact inv.revertAll
 | unlock _ _ unlocking => exact inv.unlocking unlocking

lemma invariant_step (x:PageStep) (valid:machine.Valid x) (inv:Invariant x.before) :
 Invariant x.after :=
 inv.stepExit (step_exit x valid inv)

lemma run_invariant (run:machine.Run h s) : Invariant s :=
 run.invariant Invariant invariant_init invariant_step

lemma run_stepExit (run:machine.Run h s) {x:PageStep} (mem:x∈h) :
 Invariant x.before ∧ StepExit x.before x.op x.trace x.result x.after := by
 obtain ⟨⟨_,before⟩,valid⟩:=run.valid_of_mem mem
 have inv:=run_invariant before
 exact ⟨inv,step_exit x valid inv⟩

end

theorem run_consistent {h : List PageStep} {s : PageSession} (run : machine.Run h s) :
 Consistent s :=
 (run_invariant run).toConsistent

def sampleLoaded : PageSession := (loadStep {} zeroPage).after

def sampleEdited : PageSession := (editStep sampleLoaded 1).after

def sampleUnlocked : PageSession := (unlockStep sampleEdited).after

lemma sampleEdited_isDirty : sampleEdited.isDirty=true := by
 rw [isDirty_eq_true]
 exact ⟨⟨0,by decide⟩,by decide⟩

lemma sampleUnlocked_ready : ApplyReady sampleUnlocked sampleTarget :=
 unlockStep_ready rfl sampleEdited_isDirty

lemma sampleUnlocked_run : machine.Run
 [loadStep {} zeroPage,editStep sampleLoaded 1,unlockStep sampleEdited] sampleUnlocked := by
 have loaded:=Machine.Run.nil.snoc (loadStep {} zeroPage) rfl (loadStep_valid {} zeroPage)
 have edited:=loaded.snoc (editStep sampleLoaded 1) rfl
  (editStep_valid rfl rfl (by decide))
 exact edited.snoc (unlockStep sampleEdited) rfl (unlockStep_valid rfl sampleEdited_isDirty)

theorem sampleUnlocked_consistent : sampleUnlocked.writeUnlocked=true ∧
 (sampleUnlocked.isDirty=true ∨ sampleUnlocked.canRollback=true) ∧
 Consistent sampleUnlocked :=
 ⟨rfl,((run_consistent sampleUnlocked_run).unlocked rfl).2,run_consistent sampleUnlocked_run⟩

end KDbg.PageSession
