import Mathlib.Tactic
import Mathlib.Data.Fintype.Pi
set_option autoImplicit false
/-! The maximal runs of set flags, found in one pass. A run is the half-open
interval of its positions. -/
namespace FlagRuns

/-- `opened` is the start of the run the scan is in, if it is in one. -/
def scan : ℕ→Option ℕ→List Bool→List (ℕ×ℕ)
 | _,none,[] => []
 | index,some start,[] => [(start,index)]
 | index,none,false::flags => scan (index+1) none flags
 | index,none,true::flags => scan (index+1) (some index) flags
 | index,some start,true::flags => scan (index+1) (some start) flags
 | index,some start,false::flags => (start,index)::scan (index+1) none flags

def runs (flags : List Bool) : List (ℕ×ℕ) := scan 0 none flags

/-- The positions a scan still has to cover: those of the open run and the set flags ahead. -/
def Pending (index : ℕ) (opened : Option ℕ) (flags : List Bool) (i : ℕ) : Prop :=
 (∃ start,opened=some start ∧ start ≤ i ∧ i < index) ∨
  (index ≤ i ∧ flags[i-index]?=some true)

/-- Ascending nonempty intervals with a gap between neighbours, which cover exactly `P`. -/
structure Decomposes (low : ℕ) (P : ℕ→Prop) (intervals : List (ℕ×ℕ)) : Prop where
 nonempty : ∀ r∈intervals,low ≤ r.1 ∧ r.1 < r.2
 separated : intervals.Pairwise fun r q=>r.2 < q.1
 covers : ∀ i,P i ↔ ∃ r∈intervals,r.1 ≤ i ∧ i < r.2

lemma Decomposes.mono {low low':ℕ} {P Q:ℕ→Prop} {intervals:List (ℕ×ℕ)}
 (h:Decomposes low P intervals) (le:low' ≤ low) (same:∀i,Q i ↔ P i) :
 Decomposes low' Q intervals where
 nonempty := fun r mem=>⟨le.trans (h.nonempty r mem).1,(h.nonempty r mem).2⟩
 separated := h.separated
 covers := fun i=>(same i).trans (h.covers i)

lemma pending_cons (index:ℕ) (flag:Bool) (flags:List Bool) (i:ℕ) :
 (index ≤ i ∧ (flag::flags)[i-index]?=some true) ↔
  (i=index ∧ flag=true) ∨ (index+1 ≤ i ∧ flags[i-(index+1)]?=some true) := by
 rcases lt_trichotomy i index with _|rfl | _
 · constructor
   · omega
   · rintro (⟨rfl,-⟩ | ⟨_,-⟩) <;> omega
 · simp
 · obtain ⟨k,rfl⟩ : ∃ k,i=index+(k+1) := ⟨i-index-1,by omega⟩
   have first:index+(k+1)-index=k+1:=by omega
   have rest:index+(k+1)-(index+1)=k:=by omega
   rw [first,rest]
   constructor
   · rintro ⟨-,set⟩
     exact .inr ⟨by omega,set⟩
   · rintro (⟨_,-⟩ | ⟨-,set⟩)
     · omega
     · exact ⟨by omega,set⟩

lemma scan_decomposes (index:ℕ) (opened:Option ℕ) (flags:List Bool)
 (ordered:∀start,opened=some start → start < index) :
 Decomposes (opened.getD index) (Pending index opened flags) (scan index opened flags) := by
 induction index,opened,flags using scan.induct with
 | case1 => exact ⟨by simp [scan],by simp [scan],by simp [scan,Pending]⟩
 | case2 _ start =>
  have lt:=ordered start rfl
  exact ⟨by simp [scan,lt],by simp [scan],by simp [scan,Pending]⟩
 | case3 _ _ ih =>
  refine (ih (by simp)).mono (by simp) fun i => ?_
  simp [Pending,pending_cons]
 | case4 _ _ ih =>
  refine (ih (by simp)).mono (by simp) fun i => ?_
  simp only [Pending,pending_cons,reduceCtorEq,false_and,exists_false,false_or,
   Option.some.injEq,exists_eq_left',and_true]
  refine or_congr ?_ Iff.rfl
  omega
 | case5 _ start _ ih =>
  have lt:=ordered start rfl
  refine (ih (by simp;omega)).mono (by simp) fun i => ?_
  simp only [Pending,pending_cons,Option.some.injEq,exists_eq_left',and_true,←or_assoc]
  refine or_congr ?_ Iff.rfl
  omega
 | case6 _ start _ ih =>
  have lt:=ordered start rfl
  have rest:=ih (by simp)
  rw [scan]
  refine ⟨?_,?_,fun i => ?_⟩
  · intro r mem
    rcases List.mem_cons.1 mem with rfl|mem
    · simp [lt]
    · have bound:=rest.nonempty r mem
      simp only [Option.getD_none,Option.getD_some] at bound ⊢
      omega
  · refine List.pairwise_cons.2 ⟨fun q mem => ?_,rest.separated⟩
    have bound:=(rest.nonempty q mem).1
    simp only [Option.getD_none] at bound ⊢
    omega
  · have later:=rest.covers i
    simp only [Pending,pending_cons,reduceCtorEq,false_and,exists_false,false_or,
     Option.some.injEq,exists_eq_left',and_false,List.mem_cons,exists_eq_or_imp] at later ⊢
    exact or_congr Iff.rfl later

lemma runs_decomposes (flags:List Bool) :
 Decomposes 0 (fun i=>flags[i]?=some true) (runs flags) := by
 refine (scan_decomposes 0 none flags (by simp)).mono (by simp) fun i => ?_
 simp [Pending]

example : runs [true,true,false,false,true,false,true]=[(0,2),(4,5),(6,7)] := by
 decide

end FlagRuns
