import KDbg.Error
import KDbg.FlagRuns
set_option autoImplicit false
/-! The difference between a view and its edited copy, as maximal runs. -/
namespace KDbg

structure DiffRun where
 offset : ℕ := 0
 before : List UInt8 := []
 after : List UInt8 := []
deriving DecidableEq,Repr

def slice (bytes : List UInt8) (start stop : ℕ) : List UInt8 :=
 (bytes.drop start).take (stop-start)

def diffRuns (dirty : List Bool) (baseline working : List UInt8) : List DiffRun :=
 (FlagRuns.runs dirty).map fun run =>
  { offset := run.1
    before := slice baseline run.1 run.2
    after := slice working run.1 run.2 }

def differingBytes (live expected : List UInt8) : List ℕ :=
 (List.range expected.length).filter fun i=>live[i]? != expected[i]?

lemma differingBytes_eq_nil {live expected:List UInt8}
 (length:live.length=expected.length) :
 differingBytes live expected=[] ↔ live=expected := by
 simp only [differingBytes,List.filter_eq_nil_iff,List.mem_range,bne_iff_ne,ne_eq,not_not]
 constructor
 · intro same
   refine List.ext_getElem? fun i => ?_
   rcases Nat.lt_or_ge i expected.length with lt|ge
   · exact same i lt
   · rw [List.getElem?_eq_none ge,List.getElem?_eq_none (length ▸ ge)]
 · rintro rfl i -
   rfl

lemma getElem?_slice {bytes:List UInt8} {start stop k:ℕ} (lt:start+k < stop) :
 (slice bytes start stop)[k]?=bytes[start+k]? := by
 rw [slice,List.getElem?_take_of_lt (by omega),List.getElem?_drop]

lemma length_slice {bytes:List UInt8} {start stop:ℕ} (le:stop ≤ bytes.length) :
 (slice bytes start stop).length=stop-start := by
 rw [slice,List.length_take,List.length_drop]
 omega

section DiffRuns
variable {dirty:List Bool} {baseline working:List UInt8}

lemma stop_le_of_mem_runs {r:ℕ×ℕ} (mem:r∈FlagRuns.runs dirty) : r.2 ≤ dirty.length := by
 have spec:=FlagRuns.runs_decomposes dirty
 have bound:=(spec.nonempty r mem).2
 have flagged:=(spec.covers (r.2-1)).2 ⟨r,mem,by omega,by omega⟩
 have inside:=(List.getElem?_eq_some_iff.1 flagged).1
 omega

/-- A run holds the new values of dirty bytes. -/
lemma mem_diffRuns {run:DiffRun} (length:dirty.length=working.length)
 (mem:run∈diffRuns dirty baseline working) :
 0 < run.after.length ∧ run.offset+run.after.length ≤ working.length ∧
  ∀k < run.after.length,dirty[run.offset+k]?=some true ∧
   run.after[k]?=working[run.offset+k]? := by
 obtain ⟨r,hr,rfl⟩:=List.mem_map.1 mem
 have spec:=FlagRuns.runs_decomposes dirty
 have stop:=stop_le_of_mem_runs hr
 have bound:=(spec.nonempty r hr).2
 have size:(slice working r.1 r.2).length=r.2-r.1:=length_slice (by omega)
 refine ⟨by simp only [size];omega,by simp only [size];omega,fun k hk => ?_⟩
 simp only [size] at hk
 exact ⟨(spec.covers _).2 ⟨r,hr,by simp,by simp;omega⟩,getElem?_slice (by omega)⟩

lemma diffRuns_pairwise (length:dirty.length=working.length) :
 (diffRuns dirty baseline working).Pairwise
  fun run next=>run.offset+run.after.length < next.offset := by
 refine List.pairwise_map.2 ((FlagRuns.runs_decomposes dirty).separated.imp_of_mem ?_)
 intro r q hr _ _
 have bound:=((FlagRuns.runs_decomposes dirty).nonempty r hr).2
 have stop:=stop_le_of_mem_runs hr
 change r.1+(slice working r.1 r.2).length < q.1
 rw [length_slice (by omega)]
 omega

lemma diffRuns_covers (length:dirty.length=working.length) {i:ℕ}
 (flagged:dirty[i]?=some true) :
 ∃ run∈diffRuns dirty baseline working,∃ k < run.after.length,i=run.offset+k := by
 obtain ⟨r,hr,_,_⟩:=((FlagRuns.runs_decomposes dirty).covers i).1 flagged
 have stop:=stop_le_of_mem_runs hr
 refine ⟨_,List.mem_map.2 ⟨r,hr,rfl⟩,i-r.1,?_,by simp;omega⟩
 rw [length_slice (by omega)]
 omega

/-- `data` written over the bytes from `offset` on. -/
def splice (bytes : List UInt8) (offset : ℕ) (data : List UInt8) : List UInt8 :=
 bytes.take offset++data++bytes.drop (offset+data.length)

def overlay (part : DiffRun→List UInt8) (runs : List DiffRun) (bytes : List UInt8) : List UInt8 :=
 runs.foldl (fun bytes run=>splice bytes run.offset (part run)) bytes

lemma getElem?_splice {bytes data:List UInt8} {offset:ℕ}
 (inside:offset+data.length ≤ bytes.length) (i:ℕ) :
 (splice bytes offset data)[i]? =
  if offset ≤ i ∧ i < offset+data.length then data[i-offset]? else bytes[i]? := by
 have front:(bytes.take offset).length=offset:=by
  rw [List.length_take]
  omega
 rw [splice,List.append_assoc,List.getElem?_append,List.getElem?_append,front]
 by_cases before:i < offset
 · rw [if_pos before,if_neg (by omega),List.getElem?_take_of_lt before]
 · rw [if_neg before]
   by_cases within:i < offset+data.length
   · rw [if_pos (by omega),if_pos (by omega)]
   · rw [if_neg (by omega),if_neg (by omega),List.getElem?_drop]
     congr 1
     omega

lemma length_splice {bytes data:List UInt8} {offset:ℕ}
 (inside:offset+data.length ≤ bytes.length) :
 (splice bytes offset data).length=bytes.length := by
 simp only [splice,List.length_append,List.length_take,List.length_drop]
 omega

/-- Runs of bytes of `target` that cover everything in which it differs make it. -/
lemma overlay_eq {part:DiffRun→List UInt8} {target bytes:List UInt8} {runs:List DiffRun}
 (same:bytes.length=target.length)
 (inside:∀run∈runs,run.offset+(part run).length ≤ target.length)
 (content:∀run∈runs,∀k<(part run).length,(part run)[k]?=target[run.offset+k]?)
 (outside:∀i,bytes[i]?=target[i]? ∨
  ∃ run∈runs,run.offset ≤ i ∧ i < run.offset+(part run).length) :
 overlay part runs bytes=target := by
 induction runs generalizing bytes with
 | nil =>
  apply List.ext_getElem?
  intro i
  rcases outside i with agrees|⟨_,mem,-⟩
  · exact agrees
  · cases mem
 | cons run runs ih =>
  have fits:=inside run List.mem_cons_self
  rw [←same] at fits
  refine ih ((length_splice fits).trans same) (fun run mem=>inside run (.tail _ mem))
   (fun run mem=>content run (.tail _ mem)) fun i => ?_
  rw [getElem?_splice fits]
  by_cases here:run.offset ≤ i ∧ i < run.offset+(part run).length
  · rw [if_pos here,content run List.mem_cons_self _ (by omega),Nat.add_sub_cancel' here.1]
    exact .inl rfl
  · rw [if_neg here]
    rcases outside i with agrees|⟨other,mem,covers⟩
    · exact .inl agrees
    · rcases List.mem_cons.1 mem with rfl|mem
      · exact absurd covers here
      · exact .inr ⟨other,mem,covers⟩

/-- The maximal runs of the dirty bytes, which lead from either view to the other. -/
structure ExactRuns (dirty : List Bool) (baseline working : List UInt8) (runs : List DiffRun) :
 Prop where
 nonempty : ∀ run∈runs,run.before.length=run.after.length ∧ 0 < run.after.length
 separated : runs.Pairwise fun run next=>run.offset+run.after.length < next.offset
 covers : ∀ i,dirty[i]?=some true ↔
  ∃ run∈runs,run.offset ≤ i ∧ i < run.offset+run.after.length
 undone : overlay (·.before) runs working=baseline
 redone : overlay (·.after) runs baseline=working

lemma mem_diffRuns_iff {P:DiffRun→Prop} : (∃ run∈diffRuns dirty baseline working,P run) ↔
 ∃ r∈FlagRuns.runs dirty,P ⟨r.1,slice baseline r.1 r.2,slice working r.1 r.2⟩ := by
 simp [diffRuns]

lemma overlay_diffRuns {part:DiffRun→List UInt8} {target bytes:List UInt8}
 (slices:∀r : ℕ×ℕ,
  part ⟨r.1,slice baseline r.1 r.2,slice working r.1 r.2⟩=slice target r.1 r.2)
 (same:bytes.length=target.length) (length:dirty.length=target.length)
 (clean:∀i : ℕ,dirty[i]?≠some true → bytes[i]?=target[i]?) :
 overlay part (diffRuns dirty baseline working) bytes=target := by
 have spec:=FlagRuns.runs_decomposes dirty
 have size {r:ℕ×ℕ} (mem:r∈FlagRuns.runs dirty) :
  (slice target r.1 r.2).length=r.2-r.1 ∧ r.1 < r.2 ∧ r.2 ≤ target.length := by
  have stop:=stop_le_of_mem_runs mem
  exact ⟨length_slice (by omega),(spec.nonempty r mem).2,by omega⟩
 apply overlay_eq same
 · intro run mem
   obtain ⟨r,found,rfl⟩:=List.mem_map.1 mem
   have size:=size found
   rw [slices r]
   dsimp only
   omega
 · intro run mem k bound
   obtain ⟨r,found,rfl⟩:=List.mem_map.1 mem
   have size:=size found
   rw [slices r] at bound ⊢
   exact getElem?_slice (by omega)
 · intro i
   by_cases set:dirty[i]?=some true
   · obtain ⟨r,mem,low,high⟩:=(spec.covers i).1 set
     have size:=size mem
     refine .inr (mem_diffRuns_iff.2 ⟨r,mem,low,?_⟩)
     rw [slices r]
     dsimp only
     omega
   · exact .inl (clean i set)

lemma diffRuns_exact (same:baseline.length=working.length)
 (length:dirty.length=working.length)
 (clean:∀i : ℕ,dirty[i]?≠some true → baseline[i]?=working[i]?) :
 ExactRuns dirty baseline working (diffRuns dirty baseline working) where
 nonempty run mem := by
  obtain ⟨r,found,rfl⟩:=List.mem_map.1 mem
  have stop:=stop_le_of_mem_runs found
  have bound:=((FlagRuns.runs_decomposes dirty).nonempty r found).2
  dsimp only
  rw [length_slice (by omega),length_slice (by omega)]
  omega
 separated := diffRuns_pairwise length
 covers i := by
  rw [(FlagRuns.runs_decomposes dirty).covers i,mem_diffRuns_iff]
  refine exists_congr fun r=>and_congr_right fun mem => ?_
  have stop:=stop_le_of_mem_runs mem
  have bound:=((FlagRuns.runs_decomposes dirty).nonempty r mem).2
  dsimp only
  rw [length_slice (by omega)]
  omega
 undone := overlay_diffRuns (fun _=>rfl) same.symm (length.trans same.symm)
  fun i set=>(clean i set).symm
 redone := overlay_diffRuns (fun _=>rfl) same length clean

end DiffRuns
end KDbg
