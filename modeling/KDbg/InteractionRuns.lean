import KDbg.Interaction
set_option autoImplicit false
namespace Interaction

/-- A component whose operations are interactive programs over its own state. -/
structure Machine (C : Type) (R : C→Type) (Op S A : Type) where
 init : S
 exec : Op→S→Prog C R (A×S)

structure Step (C : Type) (R : C→Type) (Op S A : Type) where
 op : Op
 before : S
 trace : List (Event C R)
 result : A
 after : S

section Since
variable {α:Type} {Q:α→Prop} {h:List α} {x y:α}

/-- `y` occurs in the history, and everything after it satisfies `Q`. -/
def Since (Q : α→Prop) (h : List α) (y : α) : Prop :=
 ∃ past later,h=past++y::later ∧ ∀ z∈later,Q z

lemma Since.here (Q:α→Prop) (h:List α) (x:α) : Since Q (h++[x]) x :=
 ⟨h,[],rfl,by simp⟩

lemma Since.snoc (since:Since Q h y) (hx:Q x) : Since Q (h++[x]) y := by
 obtain ⟨past,later,rfl,hQ⟩:=since
 refine ⟨past,later++[x],by simp,fun z hz => ?_⟩
 rcases List.mem_append.1 hz with hz|hz
 · exact hQ z hz
 · rwa [List.mem_singleton.1 hz]

lemma Since.of_snoc (since:Since Q (h++[x]) y) : y=x ∨ (Since Q h y ∧ Q x) := by
 obtain ⟨past,later,split,hQ⟩:=since
 rcases List.eq_nil_or_concat later with rfl|⟨later,z,rfl⟩
 · exact .inl (by simpa using (List.append_inj' split rfl).2.symm)
 · have split' : h++[x]=(past++y::later)++[z] := by simpa using split
   obtain ⟨rfl,hz⟩:=List.append_inj' split' rfl
   obtain rfl : x=z := by simpa using hz
   exact .inr ⟨⟨past,later,rfl,fun z hz=>hQ z (by simp [hz])⟩,hQ x (by simp)⟩

lemma Since.mem (since:Since Q h y) : y∈h := by
 obtain ⟨_,_,rfl,-⟩:=since
 simp

lemma Since.index (since:Since Q h y) :
 ∃ j,j < h.length ∧ h[j]?=some y ∧ ∀m z,j < m → h[m]?=some z→Q z := by
 obtain ⟨past,_,rfl,hQ⟩:=since
 refine ⟨past.length,by simp,by simp,fun m z _ hz=>hQ z ?_⟩
 obtain ⟨k,rfl⟩ : ∃ k,m=past.length+(k+1) := ⟨m-past.length-1,by omega⟩
 rw [List.getElem?_append_right (by omega),Nat.add_sub_cancel_left] at hz
 exact List.mem_of_getElem? hz

lemma Since.prepend (since:Since Q h y) (g:List α) : Since Q (g++h) y := by
 obtain ⟨past,later,rfl,hQ⟩:=since
 exact ⟨g++past,later,by simp,hQ⟩

lemma Since.exists_last {P:α→Prop} [DecidablePred P] (some:∃ x∈h,P x) :
 ∃ x,P x ∧ Since (fun z => ¬P z) h x := by
 induction h using List.reverseRecOn with
 | nil => simp at some
 | append_singleton h z ih =>
  by_cases last:P z
  · exact ⟨z,last, .here _ _ _⟩
  · obtain ⟨x,mem,holds⟩:=some
    have earlier:x∈h:=by
     rcases List.mem_append.1 mem with mem|mem
     · exact mem
     · rw [List.mem_singleton.1 mem] at holds
       exact absurd holds last
    obtain ⟨y,holds',since⟩:=ih ⟨x,earlier,holds⟩
    exact ⟨y,holds',since.snoc last⟩

end Since

namespace Machine
variable {C:Type} {R:C→Type} {Op S A:Type}

def Valid (M : Machine C R Op S A) (x : Step C R Op S A) : Prop :=
 (M.exec x.op x.before).Exec x.trace (x.result,x.after)

/-- A history in chronological order, from the initial state to the last one. -/
inductive Run (M:Machine C R Op S A) : List (Step C R Op S A)→S→Prop where
 | nil : Run M [] M.init
 | snoc {h:List (Step C R Op S A)} {s:S} (past:Run M h s) (x:Step C R Op S A)
  (start:x.before=s) (valid:M.Valid x) : Run M (h++[x]) x.after

variable {M:Machine C R Op S A} {h:List (Step C R Op S A)} {s:S}

lemma Run.invariant (I:S→Prop) (initial:I M.init)
 (step:∀x,M.Valid x→I x.before→I x.after) (run:M.Run h s) : I s := by
 induction run with
 | nil => exact initial
 | snoc _ x start valid ih =>
  subst start
  exact step x valid ih

/-- The same rule for a property of the history together with the state it leads to. -/
lemma Run.history_invariant (I:List (Step C R Op S A)→S→Prop) (initial:I [] M.init)
 (step:∀past x,M.Run past x.before→M.Valid x→I past x.before→I (past++[x]) x.after)
 (run:M.Run h s) : I h s := by
 induction run with
 | nil => exact initial
 | snoc past x start valid ih =>
  subst start
  exact step _ x past valid ih

lemma Run.of_snoc {x:Step C R Op S A} (run:M.Run (h++[x]) s) :
 M.Run h x.before ∧ M.Valid x ∧ s=x.after := by
 generalize all : h++[x]=history at run
 cases run with
 | nil => simp at all
 | snoc past y start valid =>
  obtain ⟨rfl,last⟩:=List.append_inj' all rfl
  cases last
  subst start
  exact ⟨past,valid,rfl⟩

lemma Run.before_eq {i:ℕ} {x:Step C R Op S A} (run:M.Run h s) (hx:h[i]?=some x) :
 M.Run (h.take i) x.before ∧ M.Valid x := by
 induction run with
 | nil => simp at hx
 | @snoc h s past y start valid ih =>
  rcases Nat.lt_or_ge i h.length with hi|hi
  · rw [List.getElem?_append_left hi] at hx
    rw [List.take_append_of_le_length hi.le]
    exact ih hx
  · rw [List.getElem?_append_right hi] at hx
    have he:i-h.length=0:=by
     by_contra _
     rw [List.getElem?_eq_none (by simp;omega)] at hx
     cases hx
    rw [he] at hx
    obtain rfl : y=x := by simpa using hx
    have hlen:i=h.length:=by omega
    subst start hlen
    rw [List.take_append_of_le_length le_rfl,List.take_length]
    exact ⟨past,valid⟩

lemma Run.valid_of_mem {x:Step C R Op S A} (run:M.Run h s) (hx:x∈h) :
 (∃ past,M.Run past x.before) ∧ M.Valid x := by
 obtain ⟨i,hi⟩:=List.mem_iff_getElem?.1 hx
 obtain ⟨past,valid⟩:=run.before_eq hi
 exact ⟨⟨_,past⟩,valid⟩

/-- A condition that only steps in `Q` can bring about, and they only by an event `E`, is owed
 to the event of the last step in `Q`. -/
lemma Run.since (P:S→Prop) (Q E:Step C R Op S A→Prop) (initial:¬P M.init)
 (step:∀past x,M.Run past x.before→M.Valid x→P x.after →
  (Q x ∧ E x) ∨ (¬Q x ∧ P x.before)) (run:M.Run h s) (holds:P s) :
 ∃ y,Since (fun z => ¬Q z) h y ∧ E y := by
 refine run.history_invariant (fun h s=>P s → ∃ y,Since (fun z => ¬Q z) h y ∧ E y) ?_ ?_ holds
 · intro holds
   exact absurd holds initial
 · intro past x before valid owed holds
   rcases step past x before valid holds with ⟨-,event⟩|⟨calm,held⟩
   · exact ⟨x, .here _ _ _,event⟩
   · obtain ⟨y,since,event⟩:=owed held
     exact ⟨y,since.snoc calm,event⟩

section Latest
variable {β:Type} {f:S→Option β} {E:Step C R Op S A → β→Prop}

/-- A step clears an optional field, leaves it without an event, or sets it by one. -/
inductive FieldStep (f:S→Option β) (E:Step C R Op S A → β→Prop)
 (x:Step C R Op S A) : Prop where
 | dropped (absent:f x.after=none)
 | kept (same:f x.after=f x.before) (silent:∀ b,¬ E x b)
 | set (b:β) (present:f x.after=some b) (event:E x b)

/-- A field that only events set always holds what the last event has set. -/
lemma Run.latest (initial:f M.init=none)
 (step:∀past x,M.Run past x.before→M.Valid x→FieldStep f E x) (run:M.Run h s)
 (b:β) (present:f s=some b) :
 ∃ o,Since (fun z => ∀b,¬E z b) h o ∧ E o b := by
 refine run.history_invariant (fun h s => ∀b,f s=some b →
  ∃ o,Since (fun z => ∀b,¬E z b) h o ∧ E o b) ?_ ?_ b present
 · intro b present
   cases initial.symm.trans present
 · intro past x before valid latest b present
   cases step past x before valid with
   | dropped absent => cases absent.symm.trans present
   | kept same silent =>
    obtain ⟨o,since,event⟩:=latest b (same.symm.trans present)
    exact ⟨o,since.snoc silent,event⟩
   | set b' present' event =>
    obtain rfl : b'=b := Option.some.inj (present'.symm.trans present)
    exact ⟨x, .here _ _ _,event⟩

end Latest
end Machine
end Interaction
