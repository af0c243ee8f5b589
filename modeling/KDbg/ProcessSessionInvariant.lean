import KDbg.ProcessSession
set_option autoImplicit false
/-! The invariant of the process session and what the local operations do to it. -/
namespace KDbg.ProcessSession
open Interaction EditLog

section
variable {s:ProcessSession} {bytes:List UInt8}

structure Blank (s : ProcessSession) : Prop where
 baseline : s.baseline=[]
 working : s.working=[]
 dirty : s.dirty=[]
 undoStack : s.undoStack=[]
 redoStack : s.redoStack=[]
 rollbackBytes : s.rollbackBytes=none
 rollbackExpected : s.rollbackExpected=none

/-- The view, its dirty bits and its histories agree. -/
structure Consistent (s : ProcessSession) : Prop where
 baselineLength : s.baseline.length=s.working.length
 dirtyLength : s.dirty.length=s.working.length
 dirty_iff : ∀ i < s.working.length,s.dirty[i]?=some true ↔ s.baseline[i]?≠s.working[i]?
 dirtyCount : s.dirtyCount=s.dirty.count true
 depth : s.undoStack.length+s.redoStack.length ≤ kMaxEditHistory
 clean : s.state=.clean → s.isDirty=false
 staged : s.state=.dirty → s.isDirty=true
 blank : s.hasBuffer=false→Blank s

/-- The images kept for a rollback belong to the view. -/
structure RollbackFits (s : ProcessSession) : Prop where
 savedLength : ∀ saved,s.rollbackBytes=some saved → saved.length=s.working.length
 expectedLength : ∀ expected,s.rollbackExpected=some expected →
  expected.length=s.working.length
 bound : s.rollbackBytes.isSome=true →
  s.hasBuffer=true ∧ s.pid≠0 ∧ s.rollbackExpected.isSome=true
 verified : s.rollbackBytes.isSome=true → s.rollbackAllowsPartial=false →
  s.rollbackExpected=some s.baseline

structure Invariant (s : ProcessSession) : Prop extends Consistent s,RollbackFits s where
 undoes : Undoes (fun i=>s.working[i]?) s.undoStack
 redoes : Redoes (fun i=>s.working[i]?) s.redoStack
 size : s.working.length ≤ kMaximumViewSize.toNat
 room : s.address.toNat+s.working.length≤2^64

lemma RollbackFits.none (saved:s.rollbackBytes=none) (expected:s.rollbackExpected=none) :
 RollbackFits s where
 savedLength := by simp [saved]
 expectedLength := by simp [expected]
 bound := by simp [saved]
 verified := by simp [saved]

lemma invariant_blank {state:ProcessMemorySessionState} (staged:state≠.dirty) :
 Invariant { state } where
 baselineLength := rfl
 dirtyLength := rfl
 dirty_iff := by simp
 dirtyCount := rfl
 depth := by simp
 clean := by simp [isDirty]
 staged := fun h=>absurd h staged
 blank := fun _=>⟨rfl,rfl,rfl,rfl,rfl,rfl,rfl⟩
 toRollbackFits := .none rfl rfl
 undoes := trivial
 redoes := trivial
 size := by simp
 room := by simp

structure Settled (s : ProcessSession) (bytes : List UInt8) : Prop where
 baseline : s.baseline=bytes
 working : s.working=bytes
 dirty : s.dirty=List.replicate bytes.length false
 dirtyCount : s.dirtyCount=0
 undoStack : s.undoStack=[]
 redoStack : s.redoStack=[]
 state : s.state=.clean

lemma Settled.invariant (h:Settled s bytes) (fits:RollbackFits s)
 (loaded:s.hasBuffer=true) (size:bytes.length ≤ kMaximumViewSize.toNat)
 (room:s.address.toNat+bytes.length≤2^64) : Invariant s where
 baselineLength := by rw [h.baseline,h.working]
 dirtyLength := by rw [h.dirty,h.working,List.length_replicate]
 dirty_iff := by
  simp [h.dirty,h.baseline,h.working,List.getElem?_replicate]
 dirtyCount := by simp [h.dirtyCount,h.dirty,List.count_replicate]
 depth := by simp [h.undoStack,h.redoStack]
 clean := by simp [isDirty,h.dirtyCount]
 staged := by simp [h.state]
 blank := by simp [loaded]
 toRollbackFits := fits
 undoes := by rw [h.undoStack];trivial
 redoes := by rw [h.redoStack];trivial
 size := by rw [h.working];exact size
 room := by rw [h.working];exact room

lemma settled_settled (s:ProcessSession) (length:s.dirty.length=bytes.length) :
 Settled (s.settled bytes) bytes := by
 refine ⟨rfl,rfl,?_,rfl,rfl,rfl,rfl⟩
 simp [settled,List.map_const',length]

lemma hasBuffer_congr {s':ProcessSession} (address:s'.address=s.address)
 (length:s'.working.length=s.working.length) : s'.hasBuffer=s.hasBuffer := by
 have same:s'.working.isEmpty=s.working.isEmpty:=by
  rw [Bool.eq_iff_iff,List.isEmpty_iff_length_eq_zero,List.isEmpty_iff_length_eq_zero,length]
 unfold hasBuffer
 rw [address,same]

end

section StagedByte
variable (s:ProcessSession) (i:ℕ) (value:UInt8)

@[simp] lemma stageByte_working : (s.stageByte i value).working=s.working.set i value := rfl

@[simp] lemma stageByte_dirty :
 (s.stageByte i value).dirty=s.dirty.set i (value != s.baseline.getD i 0) := rfl

lemma stageByte_state : (s.stageByte i value).state =
 if (s.stageByte i value).isDirty then .dirty else .clean := rfl

variable {s i}

lemma stageByte_dirtyCount (length:s.dirty.length=s.working.length)
 (counted:s.dirtyCount=s.dirty.count true) (lt:i < s.working.length) :
 (s.stageByte i value).dirtyCount=(s.stageByte i value).dirty.count true := by
 have inside:i < s.dirty.length:=length ▸ lt
 have bit:s.dirty.getD i false=s.dirty[i]:=by simp [inside]
 rw [stageByte_dirty,List.count_set inside]
 simp only [stageByte,bit,counted]
 have positive:s.dirty[i]=true→1 ≤ s.dirty.count true:=fun set =>
  List.one_le_count_iff.2 (set ▸ List.getElem_mem inside)
 cases was:s.dirty[i] with
 | false => cases value != s.baseline.getD i 0 <;> simp
 | true =>
  have := positive was
  cases value != s.baseline.getD i 0 <;> simp
  omega

end StagedByte

section
variable {s:ProcessSession} {edit:Edit UInt8} {log:List (Edit UInt8)}

/-- A local edit is refused, finds the byte as it should be, or changes it. -/
inductive Edited (s:ProcessSession) : Result Unit→ProcessSession→Prop where
 | refused (e:Error) : Edited s (.error e) s
 | unchanged : Edited s (.ok ()) s
 | staged {undo redo:List (Edit UInt8)} (i:ℕ) (before value:UInt8)
  (loaded:s.hasBuffer=true) (held:s.working[i]?=some before) (changed:before≠value)
  (journal:Journaled kMaxEditHistory s.undoStack s.redoStack i before value undo redo) :
  Edited s (.ok ()) ({ s with undoStack := undo,redoStack := redo }.stageByte i value)

lemma applyLocalEdit_recorded (s:ProcessSession) (allocation:Allocation) (offset:ℕ)
 (value:UInt8) : Edited s (s.applyLocalEdit allocation offset value true).1
  (s.applyLocalEdit allocation offset value true).2 := by
 unfold applyLocalEdit
 simp only [if_true]
 split
 · exact .refused _
 · rename_i inside
   split
   · exact .unchanged
   · rename_i changed
     cases allocation with
     | badAlloc | lengthError => exact .refused _
     | grown =>
      simp only [not_or,Bool.not_eq_true',Bool.not_eq_false,not_le] at inside
      have held:s.working[offset]?=some (s.working.getD offset 0):=by simp [inside.2]
      exact .staged offset _ value inside.1 held changed .recorded

lemma revertByte_edited (s:ProcessSession) (allocation:Allocation) (offset:ℕ) :
 Edited s (s.revertByte allocation offset).1 (s.revertByte allocation offset).2 := by
 unfold revertByte
 split
 · exact .refused _
 · exact applyLocalEdit_recorded _ _ _ _

lemma applyLocalEdit_unrecorded (loaded:s.hasBuffer=true) {i:ℕ} {before value:UInt8}
 (held:s.working[i]?=some before) (changed:before≠value) :
 s.applyLocalEdit .grown i value false=(.ok (),s.stageByte i value) := by
 obtain ⟨lt,rfl⟩:=List.getElem?_eq_some_iff.1 held
 simp [applyLocalEdit,loaded,lt,changed]

lemma Invariant.loaded_of_history (inv:Invariant s) (h:s.undoStack≠[] ∨ s.redoStack≠[]) :
 s.hasBuffer=true := by
 by_contra unloaded
 have blank:=inv.blank (by simpa using unloaded)
 rcases h with h|h
 · exact h blank.undoStack
 · exact h blank.redoStack

/-- With room for the redo entry, an edit on the undo stack can always be undone. -/
lemma undo_grown (inv:Invariant s) (top:s.undoStack=edit::log) :
 s.undo .grown=(.ok (),{ s with undoStack := log,redoStack := edit::s.redoStack }.stageByte
  edit.offset edit.before) := by
 have undoes:=inv.undoes
 rw [top] at undoes
 have loaded:=inv.loaded_of_history (.inl (by simp [top]))
 have staged:=applyLocalEdit_unrecorded
  (s := { s with redoStack := edit::s.redoStack }) loaded undoes.1 undoes.2.1.symm
 simp only [undo,top] at staged ⊢
 simp only [staged]
 rfl

lemma redo_grown (inv:Invariant s) (top:s.redoStack=edit::log) :
 s.redo .grown=(.ok (),{ s with undoStack := edit::s.undoStack,redoStack := log }.stageByte
  edit.offset edit.after) := by
 have redoes:=inv.redoes
 rw [top] at redoes
 have loaded:=inv.loaded_of_history (.inr (by simp [top]))
 have staged:=applyLocalEdit_unrecorded
  (s := { s with undoStack := edit::s.undoStack }) loaded redoes.1 redoes.2.1
 simp only [redo,top] at staged ⊢
 simp only [staged]
 rfl

lemma undo_edited (inv:Invariant s) (allocation:Allocation) :
 Edited s (s.undo allocation).1 (s.undo allocation).2 := by
 cases top:s.undoStack with
 | nil =>
  simp only [undo,top]
  exact .refused _
 | cons edit log =>
  cases allocation with
  | badAlloc | lengthError =>
   simp only [undo,top]
   exact .refused _
  | grown =>
   have undoes:=inv.undoes
   rw [top] at undoes
   have loaded:=inv.loaded_of_history (.inl (by simp [top]))
   rw [undo_grown inv top]
   exact .staged edit.offset edit.after edit.before loaded undoes.1 undoes.2.1.symm
    (.undone log top)

lemma redo_edited (inv:Invariant s) (allocation:Allocation) :
 Edited s (s.redo allocation).1 (s.redo allocation).2 := by
 cases top:s.redoStack with
 | nil =>
  simp only [redo,top]
  exact .refused _
 | cons edit log =>
  cases allocation with
  | badAlloc | lengthError =>
   simp only [redo,top]
   exact .refused _
  | grown =>
   have redoes:=inv.redoes
   rw [top] at redoes
   have loaded:=inv.loaded_of_history (.inr (by simp [top]))
   rw [redo_grown inv top]
   exact .staged edit.offset edit.before edit.after loaded redoes.1 redoes.2.1
    (.redone log top)

lemma cells_set {bytes:List UInt8} {i:ℕ} (lt:i < bytes.length) (value:UInt8) :
 (fun j=>(bytes.set i value)[j]?) =
  Function.update (fun j=>bytes[j]?) i (some value) := by
 funext j
 by_cases same:i=j
 · subst same
   simp [lt]
 · simp [same,Ne.symm same]

lemma Invariant.edited {s':ProcessSession} {r:Result Unit} (inv:Invariant s)
 (h:Edited s r s') : Invariant s' := by
 cases h with
 | refused | unchanged => exact inv
 | @staged undo redo i _ value loaded held changed journal =>
  obtain ⟨lt,-⟩:=List.getElem?_eq_some_iff.1 held
  obtain ⟨depth,undoes,redoes⟩:=journal.fits inv.depth inv.undoes inv.redoes held changed
  rw [←cells_set lt] at undoes redoes
  have kept : ({ s with undoStack := undo,redoStack := redo }.stageByte i value).hasBuffer =
   s.hasBuffer := hasBuffer_congr rfl (by simp)
  have length (bytes:List UInt8) : bytes.length=s.working.length ↔
   bytes.length=(s.working.set i value).length := by simp
  refine ⟨⟨?_,?_,?_,?_,depth,?_,?_,?_⟩,⟨?_,?_,?_,inv.verified⟩,undoes,redoes,?_,?_⟩
  · exact (length _).1 inv.baselineLength
  · simp [inv.dirtyLength]
  · intro j hj
    simp only [stageByte_working,List.length_set] at hj
    change (s.dirty.set i (value != s.baseline.getD i 0))[j]?=some true ↔
     s.baseline[j]?≠(s.working.set i value)[j]?
    by_cases same:i=j
    · subst same
      have byte:s.baseline[i]?=some (s.baseline.getD i 0):=by
       simp [inv.baselineLength,lt]
      rw [byte,List.getElem?_set_self (inv.dirtyLength ▸ lt),List.getElem?_set_self lt,
       Option.some.injEq,bne_iff_ne,Option.some_inj.ne]
      exact ne_comm
    · rw [List.getElem?_set_ne same,List.getElem?_set_ne same]
      exact inv.dirty_iff j hj
  · exact stageByte_dirtyCount value inv.dirtyLength inv.dirtyCount lt
  · intro hs
    by_contra hd
    rw [stageByte_state,if_pos (by simpa using hd)] at hs
    cases hs
  · intro hs
    by_contra hd
    rw [stageByte_state,if_neg hd] at hs
    cases hs
  · intro unloaded
    rw [kept,loaded] at unloaded
    cases unloaded
  · exact fun saved h=>(length _).1 (inv.savedLength saved h)
  · exact fun expected h=>(length _).1 (inv.expectedLength expected h)
  · rw [kept]
    exact inv.bound
  · simpa using inv.size
  · change s.address.toNat+(s.working.set i value).length≤2^64
    rw [List.length_set]
    exact inv.room

lemma Invariant.revertAll (inv:Invariant s) : Invariant s.revertAll := by
 unfold ProcessSession.revertAll
 split
 · exact inv
 · rename_i loaded
   have kept : (s.settled s.baseline).hasBuffer=s.hasBuffer :=
    hasBuffer_congr rfl inv.baselineLength
   have fits:RollbackFits (s.settled s.baseline):=by
    refine ⟨fun saved h => ?_,fun expected h => ?_,?_,inv.verified⟩
    · exact (inv.savedLength saved h).trans inv.baselineLength.symm
    · exact (inv.expectedLength expected h).trans inv.baselineLength.symm
    · rw [kept]
      exact inv.bound
   have size:=inv.size
   have room:=inv.room
   rw [←inv.baselineLength] at size room
   refine (settled_settled s ?_).invariant fits ?_ size room
   · rw [inv.dirtyLength,inv.baselineLength]
   · rw [kept]
     simpa using loaded

end

end KDbg.ProcessSession
