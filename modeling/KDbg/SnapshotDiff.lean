import KDbg.MemorySnapshot
import KDbg.FlagRuns
set_option autoImplicit false
/-! The comparison of two snapshots. Its two loops share the index, so they are one recursion over
the pairs of bytes that are left, which knows whether it is inside a run. -/
namespace FlagRuns

def extent (intervals:List (ℕ×ℕ)) : ℕ := (intervals.map fun r=>r.2-r.1).sum

lemma scan_length_pos (index start:ℕ) (flags:List Bool) :
 0 < (scan index (some start) flags).length := by
 induction flags generalizing index with
 | nil => exact Nat.one_pos
 | cons flag _ ih =>
  cases flag with
  | false => exact Nat.succ_pos _
  | true => exact ih _

/-- The intervals are as long together as there are set flags, with those of the open run. -/
lemma extent_scan (index:ℕ) (opened:Option ℕ) (flags:List Bool)
 (ordered:∀start,opened=some start → start < index) :
 extent (scan index opened flags)=opened.elim 0 (index - ·)+flags.count true := by
 induction index,opened,flags using scan.induct with
 | case1 => rfl
 | case2 => simp [scan,extent]
 | case3 _ _ ih => simpa [scan] using ih (by simp)
 | case4 _ _ ih =>
  rw [scan,ih (by simp),List.count_cons_self]
  simp only [Option.elim_some,Option.elim_none]
  omega
 | case5 _ start _ ih =>
  have before:=ordered start rfl
  rw [scan,ih (by simp;omega),List.count_cons_self]
  simp only [Option.elim_some]
  omega
 | case6 _ _ _ ih =>
  have rest:=ih (by simp)
  rw [extent] at rest
  rw [scan,extent,List.map_cons,List.sum_cons,rest]
  simp

lemma extent_runs (flags:List Bool) : extent (runs flags)=flags.count true := by
 rw [runs,extent_scan _ _ _ (by simp),Option.elim_none,Nat.zero_add]

end FlagRuns

namespace KDbg
open Interaction

structure SnapshotDiffRun where
 offset : ℕ
 length : ℕ
deriving DecidableEq,Repr

namespace MemorySnapshot

abbrev DiffM := SnapshotM (Result (List SnapshotDiffRun))

def kMaxDiffRuns : ℕ := 1000000

def reportDiff (completed total runs:ℕ) : SnapshotM Unit :=
 Prog.ask (SnapshotCall.progress
  { phase := .diff,completed := UInt64.ofNat completed,total := UInt64.ofNat total,runs })

/-- The checkpoint in both loops, and what follows it. -/
def diffCheckpoint (total runs index nextCheckpoint:ℕ) (rest:ℕ→DiffM) : DiffM := do
 if nextCheckpoint ≤ index then
  if ← stopRequested then return cancelled "MemorySnapshot::Diff" "Snapshot diff was cancelled"
  else
   reportDiff index total runs
   rest (index+kProgressCheckpointBytes)
 else rest nextCheckpoint

section Loop
variable (total maxRuns maxChangedBytes:ℕ)

def pushRun (start index:ℕ) (runs:List SnapshotDiffRun) (changedBytes:ℕ)
 (rest:List SnapshotDiffRun→ℕ→DiffM) : DiffM :=
 let length := index-start
 if maxChangedBytes-changedBytes < length then
  return .error (makeError .limitReached
   "Snapshot diff reached the configured changed-byte limit" "MemorySnapshot::Diff" 0
   (UInt64.ofNat maxChangedBytes) (UInt64.ofNat (changedBytes+length)))
 else guardAllocation "Snapshot diff" "MemorySnapshot::Diff"
  (rest (runs++[⟨start,length⟩]) (changedBytes+length))

/-- The pairs from `index` on; `opened` is `start` while the inner loop is running. -/
def diffLoop : List (UInt8×UInt8)→ℕ→Option ℕ→List SnapshotDiffRun→ℕ→ℕ→DiffM
 | [],_,none,runs,_,_ => do
  reportDiff total total runs.length
  return .ok runs
 | [],index,some start,runs,changedBytes,_ =>
  pushRun maxChangedBytes start index runs changedBytes fun runs _ => do
   reportDiff total total runs.length
   return .ok runs
 | (older,newer)::pairs,index,none,runs,changedBytes,nextCheckpoint =>
  diffCheckpoint total runs.length index nextCheckpoint fun nextCheckpoint =>
   if older=newer then diffLoop pairs (index+1) none runs changedBytes nextCheckpoint
   else if maxRuns ≤ runs.length then
    return .error (makeError .limitReached "Snapshot diff reached the configured run limit"
     "MemorySnapshot::Diff" 0 (UInt64.ofNat maxRuns) (UInt64.ofNat runs.length))
   else diffCheckpoint total runs.length (index+1) nextCheckpoint
    (diffLoop pairs (index+1) (some index) runs changedBytes)
 | (older,newer)::pairs,index,some start,runs,changedBytes,nextCheckpoint =>
  if older≠newer then
   diffCheckpoint total runs.length (index+1) nextCheckpoint
    (diffLoop pairs (index+1) (some start) runs changedBytes)
  else pushRun maxChangedBytes start index runs changedBytes fun runs changedBytes =>
   diffCheckpoint total runs.length index nextCheckpoint
    (diffLoop pairs (index+1) none runs changedBytes)

end Loop

def Comparable (older newer:MemorySnapshot) : Prop :=
 older.space.kind=newer.space.kind ∧ older.space.pid=newer.space.pid ∧
  older.address=newer.address ∧ older.bytes.length=newer.bytes.length

instance (older newer:MemorySnapshot) : Decidable (Comparable older newer) :=
 inferInstanceAs (Decidable (_ ∧ _))

def diff (older newer:MemorySnapshot) (maxRuns maxChangedBytes:ℕ) : DiffM := do
 if ¬Comparable older newer then
  return .error (makeError .invalidArgument
   "Snapshots cover different address spaces or ranges" "MemorySnapshot::Diff")
 else if maxRuns=0 ∨ kMaxDiffRuns < maxRuns ∨ maxChangedBytes=0 ∨
  kMaxSnapshotBytes < maxChangedBytes then
  return .error (makeError .invalidArgument
   "Snapshot diff budgets are zero or exceed the core limits" "MemorySnapshot::Diff")
 else if ← stopRequested then
  return cancelled "MemorySnapshot::Diff" "Snapshot diff was cancelled"
 else
  guardAllocation "Snapshot diff" "MemorySnapshot::Diff" do
   reportDiff 0 older.bytes.length 0
   diffLoop older.bytes.length maxRuns maxChangedBytes (older.bytes.zip newer.bytes) 0 none [] 0 0

/-- The stop token is set, or an allocation fails. -/
def interrupts : SnapshotEvent→Bool
 | ⟨.stopRequested,stop⟩ => (stop : Bool)
 | ⟨.allocate,allocation⟩ => match (allocation : Allocation) with
  | .grown => false
  | _ => true
 | _ => false

/-- The result is `all`, or an error; uninterrupted it is an error exactly if `all` does not fit the
 budgets, and says so. -/
def Computes (fits:Prop) (all:List SnapshotDiffRun) (p:DiffM) : Prop :=
 p.Ensures fun t r=>(∀ found,r=.ok found → found=all) ∧ ((∀ event∈t,interrupts event=false) →
  (∀ e,r=.error e → e.code=.limitReached) ∧ ((∃ found,r=.ok found) ↔ fits))

section Computes
variable {fits:Prop} {all:List SnapshotDiffRun} {p:DiffM}

lemma computes_ask {c:SnapshotCall} {f:SnapshotAnswer c→DiffM}
 (h:∀answer,interrupts ⟨c,answer⟩=true ∧ (∃ e,f answer=pure (.error e)) ∨
  Computes fits all (f answer)) : Computes fits all (Prog.ask c >>= f) := by
 refine Prog.ensures_ask_bind fun answer t r ran => ?_
 rcases h answer with ⟨stopped,e,same⟩|rest
 · rw [same] at ran
   obtain ⟨rfl,rfl⟩:=ran.of_pure
   exact ⟨by rintro _ ⟨⟩,fun going=>by simp [stopped] at going⟩
 · have after:=rest t r ran
   exact ⟨after.1,fun going=>after.2 (List.forall_mem_cons.1 going).2⟩

lemma computes_report {completed total runs:ℕ} (rest:Computes fits all p) :
 Computes fits all (do reportDiff completed total runs;p) :=
 computes_ask fun _ => .inr rest

lemma computes_stop (rest:Computes fits all p) : Computes fits all (do
 if ← stopRequested then return cancelled "MemorySnapshot::Diff" "Snapshot diff was cancelled"
 else p) :=
 computes_ask fun stop=>by
  cases stop with
  | true => exact .inl ⟨rfl,_,rfl⟩
  | false => exact .inr rest

lemma computes_guard {what operation:String} (rest:Computes fits all p) :
 Computes fits all (guardAllocation what operation p) :=
 computes_ask fun allocation=>by
  cases allocation with
  | grown => exact .inr rest
  | badAlloc | lengthError => exact .inl ⟨rfl,_,rfl⟩

lemma computes_limit {e:Error} (code:e.code=.limitReached) (h:¬fits) :
 Computes fits all (return .error e) := by
 refine Prog.ensures_pure ⟨by rintro _ ⟨⟩,fun _=>⟨?_,iff_of_false (by rintro ⟨_,⟨⟩⟩) h⟩⟩
 rintro _ ⟨⟩
 exact code

lemma computes_checkpoint {total runs index nextCheckpoint:ℕ} {rest:ℕ→DiffM}
 (h:∀nextCheckpoint,Computes fits all (rest nextCheckpoint)) :
 Computes fits all (diffCheckpoint total runs index nextCheckpoint rest) := by
 unfold diffCheckpoint
 split
 · exact computes_stop (computes_report (h _))
 · exact h _

end Computes

def differs (pairs:List (UInt8×UInt8)) : List Bool := pairs.map fun pair=>pair.1≠pair.2

def diffRunOf (interval:ℕ×ℕ) : SnapshotDiffRun := ⟨interval.1,interval.2-interval.1⟩

section Completes
open FlagRuns
variable {maxRuns maxChangedBytes:ℕ} {runs:List SnapshotDiffRun} {changedBytes:ℕ}

/-- What the loops still have to find is `later`. -/
def Completes (maxRuns maxChangedBytes:ℕ) (runs:List SnapshotDiffRun) (changedBytes:ℕ)
 (later:List (ℕ×ℕ)) : DiffM→Prop :=
 Computes (runs.length+later.length ≤ maxRuns ∧ changedBytes+extent later ≤ maxChangedBytes)
  (runs++later.map diffRunOf)

lemma completes_nil {total:ℕ} (counted:runs.length ≤ maxRuns)
 (within:changedBytes ≤ maxChangedBytes) :
 Completes maxRuns maxChangedBytes runs changedBytes []
  (do reportDiff total total runs.length;return .ok runs) := by
 refine computes_report ?_
 rw [List.map_nil,List.append_nil]
 refine Prog.ensures_pure ⟨by rintro _ ⟨⟩;rfl,fun _=>⟨by rintro _ ⟨⟩,?_⟩⟩
 exact iff_of_true ⟨runs,rfl⟩ ⟨counted,within⟩

lemma pushRun_completes {start index:ℕ} {later:List (ℕ×ℕ)} {rest:List SnapshotDiffRun→ℕ→DiffM}
 (within:changedBytes ≤ maxChangedBytes)
 (h:changedBytes+(index-start) ≤ maxChangedBytes →
  Completes maxRuns maxChangedBytes (runs++[⟨start,index-start⟩]) (changedBytes+(index-start))
   later (rest (runs++[⟨start,index-start⟩]) (changedBytes+(index-start)))) :
 Completes maxRuns maxChangedBytes runs changedBytes ((start,index)::later)
  (pushRun maxChangedBytes start index runs changedBytes rest) := by
 have first:extent ((start,index)::later)=index-start+extent later:=by simp [extent]
 unfold pushRun Completes
 dsimp only
 split
 · exact computes_limit rfl (by omega)
 · refine computes_guard ?_
   have after:=h (by omega)
   rw [Completes,List.append_assoc,List.length_append] at after
   rw [first,List.length_cons,Nat.add_comm later.length,←Nat.add_assoc,←Nat.add_assoc]
   exact after

lemma diffLoop_completes (total:ℕ) (pairs:List (UInt8×UInt8)) (index:ℕ) (opened:Option ℕ)
 (nextCheckpoint:ℕ) (counted:runs.length+opened.toList.length ≤ maxRuns)
 (within:changedBytes ≤ maxChangedBytes) :
 Completes maxRuns maxChangedBytes runs changedBytes (scan index opened (differs pairs))
  (diffLoop total maxRuns maxChangedBytes pairs index opened runs changedBytes nextCheckpoint) := by
 -- on the pairs that are left: what the scan finds in them from the same index and open run is
 -- what the loops still add to `runs`
 induction pairs generalizing index opened runs changedBytes nextCheckpoint with
 | nil =>
  cases opened with
  | none => exact completes_nil counted within
  | some start => exact pushRun_completes within fun fits=>completes_nil (by simpa using counted) fits
 | cons pair pairs ih =>
  obtain ⟨older,newer⟩:=pair
  have flags:differs ((older,newer)::pairs)=decide (older≠newer)::differs pairs:=rfl
  rw [flags]
  by_cases same:older=newer
  · rw [decide_eq_false (not_not.2 same)]
    cases opened with
    | none =>
     refine computes_checkpoint fun _ => ?_
     rw [if_pos same]
     exact ih _ _ _ counted within
    | some start =>
     rw [diffLoop,if_neg (not_not.2 same)]
     exact pushRun_completes within fun fits=>computes_checkpoint fun _ =>
      ih _ _ _ (by simpa using counted) fits
  · rw [decide_eq_true same]
    cases opened with
    | none =>
     refine computes_checkpoint fun _ => ?_
     rw [if_neg same]
     split
     · -- the run that begins here is one too many, however long it gets
       refine computes_limit rfl fun fits => ?_
       have found:=scan_length_pos (index+1) index (differs pairs)
       rw [scan] at fits
       omega
     · exact computes_checkpoint fun _=>ih _ _ _ (by simpa using by omega) within
    | some start =>
     rw [diffLoop,if_pos same]
     exact computes_checkpoint fun _=>ih _ _ _ counted within

end Completes

/-- The maximal runs of offsets at which the snapshots differ. -/
def differences (older newer:MemorySnapshot) : List (ℕ×ℕ) :=
 FlagRuns.runs (differs (older.bytes.zip newer.bytes))

/-- The interval of offsets of a run that is returned. -/
def SnapshotDiffRun.interval (run : SnapshotDiffRun) : ℕ×ℕ := (run.offset,run.offset+run.length)

lemma interval_differences (older newer:MemorySnapshot) :
 ((differences older newer).map diffRunOf).map SnapshotDiffRun.interval=differences older newer := by
 have spec:=FlagRuns.runs_decomposes (differs (older.bytes.zip newer.bytes))
 rw [List.map_map]
 refine (List.map_congr_left fun r mem => ?_).trans (List.map_id _)
 exact Prod.ext rfl (Nat.add_sub_of_le (spec.nonempty r mem).2.le)

lemma differences_decomposes {older newer:MemorySnapshot}
 (length:older.bytes.length=newer.bytes.length) :
 FlagRuns.Decomposes 0 (fun i=>older.bytes[i]?≠newer.bytes[i]?) (differences older newer) := by
 have spec:=FlagRuns.runs_decomposes (differs (older.bytes.zip newer.bytes))
 refine spec.mono le_rfl fun i => ?_
 rw [differs,List.getElem?_map]
 by_cases inside:i < older.bytes.length
 · have inside':=length ▸ inside
   simp [inside,inside']
 · simp [inside,←length]

/-- The number of offsets at which the snapshots differ. -/
def differingBytes (older newer:MemorySnapshot) : ℕ :=
 (older.bytes.zip newer.bytes).countP fun pair=>pair.1≠pair.2

lemma extent_differences (older newer:MemorySnapshot) :
 FlagRuns.extent (differences older newer)=differingBytes older newer := by
 rw [differences,FlagRuns.extent_runs,differs,List.count,List.countP_map]
 exact List.countP_congr fun _ _ => by simp

lemma diffLoop_swap (total maxRuns maxChangedBytes:ℕ) (older newer:List UInt8) :
 diffLoop total maxRuns maxChangedBytes (newer.zip older) =
  diffLoop total maxRuns maxChangedBytes (older.zip newer) := by
 induction older generalizing newer with
 | nil => rw [List.zip_nil_right,List.zip_nil_left]
 | cons _ _ ih =>
  cases newer with
  | nil => rfl
  | cons =>
   funext _ opened _ _ _
   cases opened <;> simp only [List.zip_cons_cons,diffLoop,ih,eq_comm,ne_eq]

lemma diff_swap {older newer:MemorySnapshot} {maxRuns maxChangedBytes:ℕ}
 (comparable:Comparable older newer) :
 newer.diff older maxRuns maxChangedBytes=older.diff newer maxRuns maxChangedBytes := by
 have back:Comparable newer older:=by simp_all [Comparable]
 unfold diff
 rw [if_neg (not_not.2 back),if_neg (not_not.2 comparable),comparable.2.2.2,diffLoop_swap]

/-- For every pattern of cancellation and of failing allocations, the runs that `Diff` returns are
 the maximal runs of offsets at which the snapshots differ. Uninterrupted and with accepted
 arguments, it fails exactly when these are too many or too many bytes differ. The order of the
 snapshots does not matter. -/
theorem diff_exact (older newer:MemorySnapshot) (maxRuns maxChangedBytes:ℕ) :
 ((older.diff newer maxRuns maxChangedBytes).Ensures fun t r =>
  (∀ found,r=.ok found → FlagRuns.Decomposes 0 (fun i=>older.bytes[i]?≠newer.bytes[i]?)
   (found.map SnapshotDiffRun.interval)) ∧
  (Comparable older newer → 0 < maxRuns ∧ maxRuns ≤ kMaxDiffRuns → 0 < maxChangedBytes ∧
   maxChangedBytes ≤ kMaxSnapshotBytes → (∀ event∈t,interrupts event=false) →
   (∀ e,r=.error e → e.code=.limitReached) ∧
   ((∃ found,r=.ok found) ↔ (differences older newer).length ≤ maxRuns ∧
    differingBytes older newer ≤ maxChangedBytes))) ∧
 (Comparable older newer →
  FlagRuns.Decomposes 0 (fun i=>older.bytes[i]?≠newer.bytes[i]?) (differences older newer) ∧
  newer.diff older maxRuns maxChangedBytes=older.diff newer maxRuns maxChangedBytes) := by
 refine ⟨?_,fun comparable=>⟨differences_decomposes comparable.2.2.2,diff_swap comparable⟩⟩
 unfold diff
 split
 · rename_i apart
   exact Prog.ensures_pure ⟨by rintro _ ⟨⟩,fun comparable=>absurd comparable apart⟩
 rename_i comparable
 split
 · exact Prog.ensures_pure ⟨by rintro _ ⟨⟩,fun _ _ _ _=>by omega⟩
 have loops:=@diffLoop_completes maxRuns maxChangedBytes [] 0 older.bytes.length
  (older.bytes.zip newer.bytes) 0 none 0 (Nat.zero_le _) (Nat.zero_le _)
 rw [Completes,List.length_nil,Nat.zero_add,Nat.zero_add,List.nil_append] at loops
 change Computes ((differences older newer).length ≤ maxRuns ∧
  FlagRuns.extent (differences older newer) ≤ maxChangedBytes) _ _ at loops
 rw [extent_differences] at loops
 intro t r ran
 obtain ⟨ok,whole⟩ := computes_stop (computes_guard (computes_report loops)) t r ran
 refine ⟨fun found h => ?_,fun _ _ _=>whole⟩
 rw [ok found h]
 exact (interval_differences older newer).symm ▸
  differences_decomposes (not_not.1 comparable).2.2.2

def sampleOlder : MemorySnapshot := { bytes := [1,2,3,4,5] }

def sampleNewer : MemorySnapshot := { bytes := [1,9,9,4,0] }

/-- Two runs of three bytes together: three bytes of budget are enough, two are not. -/
theorem sampleDiff_exact :
 (∃ t found,(sampleOlder.diff sampleNewer 2 3).Exec t (.ok found) ∧
  FlagRuns.Decomposes 0 (fun i=>sampleOlder.bytes[i]?≠sampleNewer.bytes[i]?)
   (found.map SnapshotDiffRun.interval)) ∧
 (∃ t error,(sampleOlder.diff sampleNewer 2 2).Exec t (.error error) ∧
  error.code=.limitReached) ∧
 sampleNewer.diff sampleOlder 2 3=sampleOlder.diff sampleNewer 2 3 := by
 have comparable : Comparable sampleOlder sampleNewer := by decide
 have calm {t : List SnapshotEvent} (answered : ∀ e∈t,e.answer=sampleMemory e.call) :
  ∀ e∈t,interrupts e=false := by
  rintro ⟨call,answer⟩ mem
  obtain rfl : answer=sampleMemory call := answered _ mem
  cases call <;> rfl
 obtain ⟨enough,swapped⟩ := diff_exact sampleOlder sampleNewer 2 3
 refine ⟨?_,?_,(swapped comparable).2⟩
 · obtain ⟨t,ran,answered⟩ := Prog.exec_run sampleMemory (sampleOlder.diff sampleNewer 2 3)
   obtain ⟨decomposed,ends⟩ := enough t _ ran
   obtain ⟨found,ok⟩ :=
    (ends comparable (by decide) (by decide) (calm answered)).2.2 (by decide)
   exact ⟨t,found,ok ▸ ran,decomposed found ok⟩
 · obtain ⟨t,ran,answered⟩ := Prog.exec_run sampleMemory (sampleOlder.diff sampleNewer 2 2)
   generalize Prog.run _ _=r at ran
   obtain ⟨limited,ends⟩ := ((diff_exact sampleOlder sampleNewer 2 2).1 t r ran).2 comparable
    (by decide) (by decide) (calm answered)
   cases r with
   | ok found => exact absurd (ends.1 ⟨found,rfl⟩) (by decide)
   | error error => exact ⟨t,error,ran,limited error rfl⟩

end MemorySnapshot
end KDbg
