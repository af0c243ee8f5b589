import Mathlib.Tactic
import Mathlib.Data.Fintype.Pi
set_option autoImplicit false
/-! Undo and redo stacks over a partial array of cells. The top of a stack is
the head of its list. -/
namespace EditLog

structure Edit (β : Type) where
 offset : ℕ
 before : β
 after : β
deriving DecidableEq,Repr

variable {β:Type} {cells:ℕ→Option β}

/-- Undoing the stack from the top always finds the value its edit has left. -/
def Undoes : (ℕ→Option β)→List (Edit β)→Prop
 | _,[] => True
 | cells,e::log => cells e.offset=some e.after ∧ e.before≠e.after ∧
  Undoes (Function.update cells e.offset (some e.before)) log

def Redoes : (ℕ→Option β)→List (Edit β)→Prop
 | _,[] => True
 | cells,e::log => cells e.offset=some e.before ∧ e.before≠e.after ∧
  Redoes (Function.update cells e.offset (some e.after)) log

lemma Undoes.record {log:List (Edit β)} {i:ℕ} {b a:β}
 (h:Undoes cells log) (hb:cells i=some b) (hne:b≠a) :
 Undoes (Function.update cells i (some a)) (⟨i,b,a⟩::log) := by
 refine ⟨Function.update_self ..,hne,?_⟩
 rw [Function.update_idem,←hb,Function.update_eq_self]
 exact h

lemma Undoes.dropLast {log:List (Edit β)} (h:Undoes cells log) :
 Undoes cells log.dropLast := by
 induction log generalizing cells with
 | nil => exact h
 | cons e log ih =>
  cases log with
  | nil => trivial
  | cons => exact ⟨h.1,h.2.1,ih h.2.2⟩

lemma Undoes.pop {e:Edit β} {log redo:List (Edit β)}
 (h:Undoes cells (e::log)) (hr:Redoes cells redo) :
 Undoes (Function.update cells e.offset (some e.before)) log ∧
  Redoes (Function.update cells e.offset (some e.before)) (e::redo) := by
 refine ⟨h.2.2,Function.update_self ..,h.2.1,?_⟩
 rw [Function.update_idem,←h.1,Function.update_eq_self]
 exact hr

lemma Redoes.pop {e:Edit β} {log undo:List (Edit β)}
 (h:Redoes cells (e::log)) (hu:Undoes cells undo) :
 Redoes (Function.update cells e.offset (some e.after)) log ∧
  Undoes (Function.update cells e.offset (some e.after)) (e::undo) := by
 refine ⟨h.2.2,Function.update_self ..,h.2.1,?_⟩
 rw [Function.update_idem,←h.1,Function.update_eq_self]
 exact hu

/-- Push an edit; the oldest one makes room when the log is full. -/
def push (capacity : ℕ) (e : Edit β) (log : List (Edit β)) : List (Edit β) :=
 if (e::log).length > capacity then (e::log).dropLast else e::log

/-- What a change of cell `i` from `b` to `a` does to the two logs: it is recorded, or it is
 the undo or the redo of the edit on top. -/
inductive Journaled (capacity:ℕ) (undo redo:List (Edit β)) (i:ℕ) (b a:β) :
 List (Edit β)→List (Edit β)→Prop where
 | recorded : Journaled capacity undo redo i b a (push capacity ⟨i,b,a⟩ undo) []
 | undone (log:List (Edit β)) (top:undo=⟨i,a,b⟩::log) :
  Journaled capacity undo redo i b a log (⟨i,a,b⟩::redo)
 | redone (log:List (Edit β)) (top:redo=⟨i,b,a⟩::log) :
  Journaled capacity undo redo i b a (⟨i,b,a⟩::undo) log

lemma Journaled.fits {capacity:ℕ} {undo redo undo' redo':List (Edit β)}
 {i:ℕ} {b a:β} (journal:Journaled capacity undo redo i b a undo' redo')
 (depth:undo.length+redo.length ≤ capacity) (undoes:Undoes cells undo)
 (redoes:Redoes cells redo) (held:cells i=some b) (changed:b≠a) :
 undo'.length+redo'.length ≤ capacity ∧
  Undoes (Function.update cells i (some a)) undo' ∧
  Redoes (Function.update cells i (some a)) redo' := by
 cases journal with
 | recorded =>
  have recorded:=undoes.record held changed
  unfold push
  split
  · refine ⟨?_,recorded.dropLast,trivial⟩
    simp only [List.length_dropLast,List.length_cons,List.length_nil] at *
    omega
  · refine ⟨?_,recorded,trivial⟩
    simp only [List.length_nil] at *
    omega
 | undone _ top =>
  subst top
  obtain ⟨hu,hr⟩:=undoes.pop redoes
  refine ⟨?_,hu,hr⟩
  simp only [List.length_cons] at *
  omega
 | redone _ top =>
  subst top
  obtain ⟨hr,hu⟩:=redoes.pop undoes
  refine ⟨?_,hu,hr⟩
  simp only [List.length_cons] at *
  omega

@[ext] structure Journal (β : Type) where
 cells : ℕ→Option β
 undo : List (Edit β)
 redo : List (Edit β)

namespace Journal
variable {j:Journal β}

def undone (j : Journal β) : Journal β :=
 match j.undo with
 | [] => j
 | e::log => ⟨Function.update j.cells e.offset (some e.before),log,e::j.redo⟩

def redone (j : Journal β) : Journal β :=
 match j.redo with
 | [] => j
 | e::log => ⟨Function.update j.cells e.offset (some e.after),e::j.undo,log⟩

lemma undoes_undone (undoes:Undoes j.cells j.undo) : Undoes j.undone.cells j.undone.undo := by
 obtain ⟨_,undo,_⟩:=j
 cases undo with
 | nil => exact undoes
 | cons => exact undoes.2.2

lemma redone_undone (undoes:Undoes j.cells j.undo) (nonempty:j.undo≠[]) :
 j.undone.redone=j := by
 obtain ⟨cells,undo,_⟩:=j
 cases undo with
 | nil => exact absurd rfl nonempty
 | cons e =>
  refine Journal.ext ?_ rfl rfl
  change Function.update (Function.update cells e.offset (some e.before)) e.offset
   (some e.after)=cells
  rw [Function.update_idem,←undoes.1,Function.update_eq_self]

lemma length_undone (nonempty:j.undo≠[]) : j.undone.undo.length+1=j.undo.length := by
 obtain ⟨_,undo,_⟩:=j
 cases undo with
 | nil => exact absurd rfl nonempty
 | cons => rfl

/-- Undoing some edits and redoing as many leads back to where one was. -/
lemma redone_undone_iterate {k:ℕ} (undoes:Undoes j.cells j.undo)
 (within:k ≤ j.undo.length) : redone^[k] (undone^[k] j)=j := by
 induction k generalizing j with
 | zero => rfl
 | succ k ih =>
  have nonempty:j.undo≠[]:=List.ne_nil_of_length_pos (by omega)
  have shorter:=length_undone nonempty
  rw [Function.iterate_succ_apply undone,Function.iterate_succ_apply' redone,
   ih (undoes_undone undoes) (by omega),redone_undone undoes nonempty]

def unwind : (ℕ→Option β)→List (Edit β)→ℕ→Option β
 | cells,[] => cells
 | cells,e::log => unwind (Function.update cells e.offset (some e.before)) log

lemma undone_iterate_length (j:Journal β) :
 (undone^[j.undo.length] j).undo=[] ∧
  (undone^[j.undo.length] j).cells=unwind j.cells j.undo := by
 obtain ⟨cells,undo,redo⟩:=j
 induction undo generalizing cells redo with
 | nil => exact ⟨rfl,rfl⟩
 | cons e _ ih => exact ih (Function.update cells e.offset (some e.before)) (e::redo)

lemma unwind_undone (j:Journal β) :
 unwind j.undone.cells j.undone.undo=unwind j.cells j.undo := by
 obtain ⟨_,undo,_⟩:=j
 cases undo <;> rfl

lemma unwind_record {i:ℕ} {b a:β} (held:cells i=some b)
 (log:List (Edit β)) :
 unwind (Function.update cells i (some a)) (⟨i,b,a⟩::log)=unwind cells log := by
 rw [unwind,Function.update_idem,←held,Function.update_eq_self]

lemma unwind_redone (redoes:Redoes j.cells j.redo) :
 unwind j.redone.cells j.redone.undo=unwind j.cells j.undo := by
 obtain ⟨_,undo,redo⟩:=j
 cases redo with
 | nil => rfl
 | cons => exact unwind_record redoes.1 undo

lemma length_undone_redo (j:Journal β) :
 j.undone.undo.length+j.undone.redo.length=j.undo.length+j.redo.length := by
 obtain ⟨_,undo,_⟩:=j
 cases undo with
 | nil => rfl
 | cons => simp only [undone,List.length_cons];omega

lemma length_redone_undo (j:Journal β) :
 j.redone.undo.length+j.redone.redo.length=j.undo.length+j.redo.length := by
 obtain ⟨_,_,redo⟩:=j
 cases redo with
 | nil => rfl
 | cons => simp only [redone,List.length_cons];omega

/-- A view that an operation of a state changes as `g` changes journals, step after step. -/
lemma view_iterate {σ:Type} (I:σ→Prop) (view:σ→Journal β) {f:σ → σ}
 {g:Journal β→Journal β} (step:∀s,I s→I (f s) ∧ view (f s)=g (view s)) {s:σ} (holds:I s)
 (k:ℕ) : I (f^[k] s) ∧ view (f^[k] s)=g^[k] (view s) := by
 induction k with
 | zero => exact ⟨holds,rfl⟩
 | succ k ih =>
  obtain ⟨next,same⟩:=step _ ih.1
  rw [Function.iterate_succ_apply',Function.iterate_succ_apply',←ih.2]
  exact ⟨next,same⟩

end Journal

/-- As long as the log has room, a change of a cell that it has journaled can be unwound. -/
lemma Journaled.unwind {capacity:ℕ}
 {undo redo undo' redo':List (Edit β)} {i:ℕ} {b a:β}
 (journal:Journaled capacity undo redo i b a undo' redo') (room:undo.length < capacity)
 (held:cells i=some b) :
 Journal.unwind (Function.update cells i (some a)) undo'=Journal.unwind cells undo ∧
  undo'.length+redo'.length ≤ undo.length+redo.length+1 := by
 cases journal with
 | recorded =>
  have kept:push capacity ⟨i,b,a⟩ undo=⟨i,b,a⟩::undo:=by
   refine if_neg ?_
   rw [List.length_cons]
   omega
  rw [kept]
  refine ⟨Journal.unwind_record held undo,?_⟩
  simp only [List.length_cons,List.length_nil]
  omega
 | undone _ top =>
  subst top
  refine ⟨rfl,?_⟩
  simp only [List.length_cons]
  omega
 | redone _ top =>
  subst top
  refine ⟨Journal.unwind_record held undo,?_⟩
  simp only [List.length_cons]
  omega

/-- What a step can do to a journal whose cells were last in step with `base`: empty it, leave
 it, move along it, or change a cell. A step that settles the cells starts the count of
 changes anew, and only an effective step adds to it. -/
inductive Moves (capacity:ℕ) (j:Journal β) (base:ℕ→Option β) :
 Bool→Bool→Journal β→(ℕ→Option β)→Prop where
 | emptied (settles:Bool) (cells:ℕ→Option β) :
  Moves capacity j base settles false ⟨cells,[],[]⟩ cells
 | kept : Moves capacity j base false false j base
 | undone : Moves capacity j base false false j.undone base
 | redone : Moves capacity j base false false j.redone base
 | changed {undo redo:List (Edit β)} {i:ℕ} {b a:β} (held:j.cells i=some b)
  (journal:Journaled capacity j.undo j.redo i b a undo redo) :
  Moves capacity j base false true ⟨Function.update j.cells i (some a),undo,redo⟩ base

/-- Unless more than `capacity` of the `n` changes were made, the log still holds every one of
 them and leads back to `base`. -/
def LeadsBack (capacity n : ℕ) (j : Journal β) (base : ℕ→Option β) : Prop :=
 n ≤ capacity →
  Journal.unwind j.cells j.undo=base ∧ j.undo.length+j.redo.length ≤ n

lemma LeadsBack.moves {capacity n:ℕ} {j j':Journal β} {base base':ℕ→Option β}
 {settles effective:Bool} (leads:LeadsBack capacity n j base)
 (redoes:Redoes j.cells j.redo)
 (move:Moves capacity j base settles effective j' base') :
 LeadsBack capacity (if settles then 0 else if effective then n+1 else n) j' base' := by
 cases move with
 | emptied => exact fun _=>⟨rfl,Nat.zero_le _⟩
 | kept => exact leads
 | undone =>
  intro few
  obtain ⟨back,length⟩:=leads few
  exact ⟨(Journal.unwind_undone j).trans back,(Journal.length_undone_redo j).trans_le length⟩
 | redone =>
  intro few
  obtain ⟨back,length⟩:=leads few
  exact ⟨(Journal.unwind_redone redoes).trans back,
   (Journal.length_redone_undo j).trans_le length⟩
 | changed held journal =>
  intro few
  simp only [Bool.false_eq_true,if_false,if_true] at few ⊢
  obtain ⟨back,_⟩:=leads (by omega)
  obtain ⟨same,_⟩:=journal.unwind (by omega) held
  exact ⟨same.trans back,by omega⟩

/-- How many steps of a history are `effective` since the last that `settles`. -/
def since {α : Type} (settles effective : α→Bool) (history : List α) : ℕ :=
 history.foldl (fun n x=>if settles x then 0 else if effective x then n+1 else n) 0

lemma since_snoc {α:Type} (settles effective:α→Bool) (history:List α) (x:α) :
 since settles effective (history++[x]) =
  if settles x then 0
  else if effective x then since settles effective history+1
  else since settles effective history := by
 rw [since,List.foldl_append]
 rfl

lemma since_le_length {α:Type} (settles effective:α→Bool) (history:List α) :
 since settles effective history ≤ history.length := by
 induction history using List.reverseRecOn with
 | nil => exact Nat.zero_le _
 | append_singleton =>
  rw [since_snoc,List.length_append,List.length_singleton]
  split
  · exact Nat.zero_le _
  · split <;> omega

end EditLog
