import Mathlib.Data.List.Chain
import Mathlib.Data.List.Pairwise
import Mathlib.Data.Nat.Notation
set_option autoImplicit false
/-! Lists of half-open intervals of naturals in ascending order, and the points they cover. -/
namespace IntervalCover

variable {ι:Type*} (lo hi:ι→ℕ)

def Covers (list : List ι) (x : ℕ) : Prop := ∃ r∈list,lo r ≤ x ∧ x < hi r

/-- Each interval ends where the next begins, or before. -/
def Ascending (list : List ι) : Prop := list.Pairwise fun r s=>hi r ≤ lo s

def Apart (list : List ι) : Prop := list.Pairwise fun r s=>hi r < lo s

/-- The span from `a` to `b` starts in one interval and ends in a later one, and the intervals
 from the first to the last touch each other. -/
def Straddles (list : List ι) (a b : ℕ) : Prop :=
 ∃ before first middle last after,list=before++first::(middle++last::after) ∧
  List.IsChain (fun r s=>hi r=lo s) (first::(middle++[last])) ∧
  lo first ≤ a ∧ a < hi first ∧ lo last < b ∧ b ≤ hi last

variable {lo hi} {list rest:List ι} {first last:ι} {a b x:ℕ}

lemma covers_append {left right:List ι} :
 Covers lo hi (left++right) x ↔ Covers lo hi left x ∨ Covers lo hi right x := by
 simp only [Covers,List.mem_append,or_and_right,exists_or]

lemma covers_singleton {r:ι} : Covers lo hi [r] x ↔ lo r ≤ x ∧ x < hi r := by
 simp only [Covers,List.mem_singleton,exists_eq_left]

lemma ordered_of_pairwise {R:ι → ι→Prop} (pairwise:list.Pairwise R) {r s:ι}
 (hr:r∈list) (hs:s∈list) (different:r≠s) : R r s ∨ R s r := by
 have symmetric:Std.Symm fun r s=>R r s ∨ R s r:=⟨fun _ _=>Or.symm⟩
 have either:list.Pairwise fun r s=>R r s ∨ R s r:=pairwise.imp Or.inl
 exact either.forall hr hs different

/-- Two intervals of an ascending list that share a point are one. -/
lemma Ascending.eq_of_shared (ascending:Ascending lo hi list) {r s:ι} (hr:r∈list)
 (hs:s∈list) (inR:lo r ≤ x ∧ x < hi r) (inS:lo s ≤ x ∧ x < hi s) : r=s := by
 by_contra different
 have ordered:=ordered_of_pairwise ascending hr hs different
 omega

lemma exists_of_apart (apart:Apart lo hi list) (nonempty:a < b)
 (covered:∀x,a ≤ x → x < b → Covers lo hi list x) :
 ∃ r∈list,lo r ≤ a ∧ b ≤ hi r := by
 obtain ⟨r,hr,starts,below⟩:=covered a le_rfl nonempty
 refine ⟨r,hr,starts,?_⟩
 by_contra short
 -- the point where `r` ends would lie in another interval, and there is a gap
 obtain ⟨s,hs,_,beyond⟩:=covered (hi r) below.le (not_le.1 short)
 have different:r≠s:=by
  rintro rfl
  exact lt_irrefl _ beyond
 have ordered:=ordered_of_pairwise apart hr hs different
 omega

lemma covers_of_isChain {middle:List ι}
 (chain:List.IsChain (fun r s=>hi r=lo s) (first::(middle++[last])))
 (starts:lo first ≤ x) (below:x < hi last) :
 Covers lo hi (first::(middle++[last])) x := by
 by_cases inFirst:x < hi first
 · exact ⟨first,List.mem_cons_self,starts,inFirst⟩
 · induction middle generalizing first with
   | nil =>
    rw [List.nil_append,List.isChain_pair] at chain
    exact ⟨last,List.mem_cons_of_mem _ List.mem_cons_self,by omega,below⟩
   | cons next _ ih =>
    obtain ⟨_,chain⟩:=List.isChain_cons_cons.1 chain
    by_cases inNext:x < hi next
    · exact ⟨next,List.mem_cons_of_mem _ List.mem_cons_self,by omega,inNext⟩
    · obtain ⟨r,hr,inR⟩:=ih chain (by omega) inNext
      exact ⟨r,List.mem_cons_of_mem _ hr,inR⟩

lemma Straddles.covers (straddles:Straddles lo hi list a b) (from_:a ≤ x) (below:x < b) :
 Covers lo hi list x := by
 obtain ⟨_,_,_,_,_,rfl,chain,starts,-,-,ends⟩:=straddles
 obtain ⟨r,hr,inR⟩:=covers_of_isChain chain (starts.trans from_) (below.trans_le ends)
 refine ⟨r,?_,inR⟩
 simp only [List.mem_append,List.mem_cons,List.not_mem_nil,or_false] at hr ⊢
 tauto

lemma Straddles.not_held (straddles:Straddles lo hi list a b) (ascending:Ascending lo hi list)
 {r:ι} (hr:r∈list) (starts:lo r ≤ a) : hi r < b := by
 obtain ⟨_,first,_,last,_,rfl,-,firstStarts,inFirst,_,-⟩:=straddles
 have ordered : hi first ≤ lo last :=
  (List.pairwise_cons.1 (List.pairwise_append.1 ascending).2.1).1 last (by simp)
 by_contra _
 have same : r=first :=
  ascending.eq_of_shared hr (by simp) ⟨starts,by omega⟩ ⟨firstStarts,inFirst⟩
 subst same
 omega

lemma exists_chain (proper:∀r∈rest,lo r < hi r) (ascending:Ascending lo hi (first::rest))
 (short:hi first < b) (covered:∀x,hi first ≤ x → x < b → Covers lo hi rest x) :
 ∃ middle last after,rest=middle++last::after ∧
  List.IsChain (fun r s=>hi r=lo s) (first::(middle++[last])) ∧
  lo last < b ∧ b ≤ hi last := by
 induction rest generalizing first with
 | nil =>
  obtain ⟨r,hr,-⟩:=covered _ le_rfl short
  cases hr
 | cons next rest ih =>
  obtain ⟨aboveFirst,ascendingRest⟩:=List.pairwise_cons.1 ascending
  have properNext:=proper next List.mem_cons_self
  have touch:hi first=lo next:=by
   have above:=aboveFirst next List.mem_cons_self
   obtain ⟨r,hr,_,-⟩:=covered _ le_rfl short
   rcases List.mem_cons.1 hr with rfl|later
   · omega
   · have beyond:=(List.pairwise_cons.1 ascendingRest).1 r later
     omega
  by_cases ends:b ≤ hi next
  · exact ⟨[],next,rest,rfl,List.isChain_pair.2 touch,by omega,ends⟩
  · have coveredRest:∀x,hi next ≤ x → x < b → Covers lo hi rest x:=by
     intro x _ below
     obtain ⟨r,hr,inR⟩:=covered x (by omega) below
     rcases List.mem_cons.1 hr with rfl|later
     · omega
     · exact ⟨r,later,inR⟩
    obtain ⟨middle,last,after,rfl,chain,inLast,endsLast⟩ :=
     ih (fun r hr=>proper r (List.mem_cons_of_mem _ hr)) ascendingRest (not_le.1 ends)
      coveredRest
    exact ⟨next::middle,last,after,rfl,List.isChain_cons_cons.2 ⟨touch,chain⟩,inLast,
     endsLast⟩

/-- A covered span lies in one interval, or straddles touching ones. -/
lemma straddles_of_covered (proper:∀r∈list,lo r < hi r) (ascending:Ascending lo hi list)
 (nonempty:a < b) (covered:∀x,a ≤ x → x < b → Covers lo hi list x)
 (notHeld:∀r∈list,lo r ≤ a → hi r < b) : Straddles lo hi list a b := by
 obtain ⟨first,mem,starts,inFirst⟩:=covered a le_rfl nonempty
 obtain ⟨before,rest,rfl⟩:=List.append_of_mem mem
 have ascendingFirst:=(List.pairwise_append.1 ascending).2.1
 have coveredRest:∀x,hi first ≤ x → x < b → Covers lo hi rest x:=by
  intro x _ below
  obtain ⟨r,hr,inR⟩:=covered x (by omega) below
  rcases List.mem_append.1 hr with earlier|later
  · have ordered:=(List.pairwise_append.1 ascending).2.2 r earlier first List.mem_cons_self
    omega
  · rcases List.mem_cons.1 later with rfl|later
    · omega
    · exact ⟨r,later,inR⟩
 have properRest:∀r∈rest,lo r < hi r:=fun r hr =>
  proper r (List.mem_append_right _ (List.mem_cons_of_mem _ hr))
 obtain ⟨middle,last,after,rfl,chain,inLast,ends⟩ :=
  exists_chain properRest ascendingFirst (notHeld first mem starts) coveredRest
 exact ⟨before,first,middle,last,after,rfl,chain,starts,inFirst,inLast,ends⟩

end IntervalCover
