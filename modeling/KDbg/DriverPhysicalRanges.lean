import KDbg.KDbgBackendExits
import KDbg.IntervalCover
set_option autoImplicit false
/-! `IOCTL_KDBG_GET_PHYSICAL_RANGES`: the list of RAM ranges that the driver reports, with
touching ranges joined, against the check that it makes on the ranges as the kernel has them. -/
namespace KDbg
open Interaction IntervalCover

namespace NtStatus

def bufferOverflow : NtStatus := 0x80000005
def integerOverflow : NtStatus := 0xC0000095

end NtStatus

def Device.PhysicalRangesResponse.reported (response : Device.PhysicalRangesResponse) :
 List PhysicalRange :=
 (List.range response.rangeCount.toNat).map fun i =>
  ⟨(response.ranges i).baseAddress,(response.ranges i).byteCount⟩

namespace Driver
open Device (WirePhysicalRange PhysicalRangesResponse kPhysicalRangesResponseSize
 kMaxPhysicalRanges)

/-- The part of the response that the loop over the kernel's ranges fills in. -/
structure RangeReport where
 totalBytes : UInt64 := 0
 ranges : List WirePhysicalRange := []

def isNegative (quadPart : UInt64) : Bool := decide (0x7FFFFFFFFFFFFFFF < quadPart)

def RangeReport.append (report : RangeReport) (item : PhysicalMemoryRange) :
 Except NtStatus RangeReport :=
 if kMaxPhysicalRanges.toNat ≤ report.ranges.length then .error .bufferOverflow
 else .ok { report with ranges := report.ranges++[⟨item.baseAddress,item.numberOfBytes⟩] }

def RangeReport.add (report : RangeReport) (item : PhysicalMemoryRange) :
 Except NtStatus RangeReport :=
 let base := item.baseAddress
 let bytes := item.numberOfBytes
 if isNegative base || isNegative bytes then .error .integerOverflow
 else if bytes=0 ∨ maxUInt64-bytes < base ∨ maxUInt64-bytes < report.totalBytes then
  .error .integerOverflow
 else
  let report := { report with totalBytes := report.totalBytes+bytes }
  match report.ranges.getLast? with
  | none => report.append item
  | some previous =>
   let previousEnd := previous.baseAddress+previous.byteCount
   if base < previousEnd then .error .integerOverflow
   else if base=previousEnd then
    .ok { report with ranges := report.ranges.dropLast ++
     [{ previous with byteCount := previous.byteCount+bytes }] }
   else report.append item

def RangeReport.addAll : List PhysicalMemoryRange→RangeReport→Except NtStatus RangeReport
 | [],report => .ok report
 | item::rest,report =>
  match report.add item with
  | .error status => .error status
  | .ok report => addAll rest report

def RangeReport.response (report : RangeReport) : PhysicalRangesResponse where
 size := kPhysicalRangesResponseSize
 flags := 0
 rangeCount := UInt32.ofNat report.ranges.length
 reserved := 0
 totalBytes := report.totalBytes
 ranges := fun i=>report.ranges.getD i ⟨0,0⟩

/-- The case `IOCTL_KDBG_GET_PHYSICAL_RANGES`: the status, the byte count and the response. -/
def physicalRangesIoctl (irp : Irp Unit) :
 KernelM (NtStatus×ℕ×Option PhysicalRangesResponse) := do
 match irp.buffer with
 | none => return (.bufferTooSmall,0,none)
 | some _ =>
  if irp.inputLength≠0 ∨ irp.outputLength≠kPhysicalRangesResponseSize then
   return (.bufferTooSmall,0,none)
  else
   match ← Kernel.physicalMemoryRanges with
   | none => return (.insufficientResources,0,none)
   | some ranges =>
    match RangeReport.addAll (reportedRanges ranges) {} with
    | .error status => return (status,0,none)
    | .ok report =>
     return (.success,kPhysicalRangesResponseSize.toNat,some report.response)

def rawLow (r : PhysicalMemoryRange) : ℕ := r.baseAddress.toNat
def rawHigh (r : PhysicalMemoryRange) : ℕ := r.baseAddress.toNat+r.numberOfBytes.toNat
def wireLow (w : WirePhysicalRange) : ℕ := w.baseAddress.toNat
def wireHigh (w : WirePhysicalRange) : ℕ := w.baseAddress.toNat+w.byteCount.toNat

/-- What the report has after the entries `done`: it covers the same addresses, with a gap
 between any two of its ranges. -/
structure Merged (done : List PhysicalMemoryRange) (report : RangeReport) : Prop where
 covers : ∀ x,Covers rawLow rawHigh done x ↔ Covers wireLow wireHigh report.ranges x
 ascending : Ascending rawLow rawHigh done
 apart : Apart wireLow wireHigh report.ranges
 valid : ∀ r∈done,rawLow r < rawHigh r ∧ rawHigh r<2^64
 wireValid : ∀ w∈report.ranges,wireLow w < wireHigh w ∧ wireHigh w<2^64
 below : ∀ r∈done,∃ w,report.ranges.getLast?=some w ∧ rawHigh r ≤ wireHigh w
 count : report.ranges.length ≤ kMaxPhysicalRanges.toNat
 total : report.totalBytes.toNat=(report.ranges.map fun w=>w.byteCount.toNat).sum

lemma merged_start : Merged [] {} where
 covers := fun _=>by simp [Covers]
 ascending := .nil
 apart := .nil
 valid := fun _ mem=>nomatch mem
 wireValid := fun _ mem=>nomatch mem
 below := fun _ mem=>nomatch mem
 count := Nat.zero_le _
 total := rfl

structure Accepted (report : RangeReport) (item : PhysicalMemoryRange) : Prop where
 proper : rawLow item < rawHigh item
 bounded : rawHigh item<2^64
 total : (report.totalBytes+item.numberOfBytes).toNat =
  report.totalBytes.toNat+item.numberOfBytes.toNat

variable {done:List PhysicalMemoryRange} {item:PhysicalMemoryRange} {report:RangeReport}

lemma Merged.append (merged:Merged done report)
 (accepted:Accepted report item) (gap:∀w,report.ranges.getLast?=some w → wireHigh w < rawLow item)
 (room:report.ranges.length < kMaxPhysicalRanges.toNat) :
 Merged (done++[item]) ⟨report.totalBytes+item.numberOfBytes,
  report.ranges++[⟨item.baseAddress,item.numberOfBytes⟩]⟩ := by
 have proper:=And.intro accepted.proper accepted.bounded
 have beyond:∀w∈report.ranges,wireHigh w < rawLow item:=by
  intro w mem
  obtain ⟨_,last,same⟩:=List.eq_nil_or_concat report.ranges |>.resolve_left
   (List.ne_nil_of_mem mem)
  rw [List.concat_eq_append] at same
  have lastGap:=gap last (by rw [same,List.getLast?_concat])
  rw [same] at mem
  rcases List.mem_append.1 mem with earlier|here
  · have apart:=merged.apart
    rw [same] at apart
    have before:=(List.pairwise_append.1 apart).2.2 w earlier last List.mem_cons_self
    have lastValid:=merged.wireValid last (by rw [same];exact List.mem_concat_self)
    omega
  · rw [List.mem_singleton.1 here]
    exact lastGap
 refine ⟨?_,?_,?_,?_,?_,?_,?_,?_⟩
 · intro x
   rw [covers_append,covers_append,covers_singleton,covers_singleton,merged.covers x]
   rfl
 · refine List.pairwise_append.2 ⟨merged.ascending,List.pairwise_singleton _ _,fun r mem => ?_⟩
   rw [List.forall_mem_singleton]
   obtain ⟨w,last,_⟩:=merged.below r mem
   have lastGap:=gap w last
   omega
 · exact List.pairwise_append.2 ⟨merged.apart,List.pairwise_singleton _ _,
    fun w mem=>List.forall_mem_singleton.2 (beyond w mem)⟩
 · exact List.forall_mem_append.2 ⟨merged.valid,List.forall_mem_singleton.2 proper⟩
 · exact List.forall_mem_append.2 ⟨merged.wireValid,List.forall_mem_singleton.2 proper⟩
 · refine List.forall_mem_append.2 ⟨fun r mem => ?_,
    List.forall_mem_singleton.2 ⟨_,List.getLast?_concat,le_rfl⟩⟩
   obtain ⟨w,last,high⟩:=merged.below r mem
   refine ⟨_,List.getLast?_concat,?_⟩
   have lastGap:=gap w last
   exact high.trans (lastGap.le.trans proper.1.le)
 · rw [List.length_append]
   exact room
 · rw [accepted.total,merged.total,List.map_append]
   simp

lemma Merged.extend {init:List WirePhysicalRange}
 {previous:WirePhysicalRange} (merged:Merged done report) (accepted:Accepted report item)
 (split:report.ranges=init++[previous]) (touch:wireHigh previous=rawLow item) :
 Merged (done++[item]) ⟨report.totalBytes+item.numberOfBytes,
  init++[{ previous with byteCount := previous.byteCount+item.numberOfBytes }]⟩ := by
 have bounded:=accepted.bounded
 have sum : (previous.byteCount+item.numberOfBytes).toNat =
  previous.byteCount.toNat+item.numberOfBytes.toNat := by
  unfold rawHigh at bounded
  unfold wireHigh rawLow at touch
  rw [UInt64.toNat_add,Nat.mod_eq_of_lt (by omega)]
 set joined : WirePhysicalRange :=
  { previous with byteCount := previous.byteCount+item.numberOfBytes } with joinedDef
 have low:wireLow joined=wireLow previous:=rfl
 have high:wireHigh joined=rawHigh item:=by
  rw [wireHigh,sum,←Nat.add_assoc]
  exact congrArg (· + item.numberOfBytes.toNat) touch
 have proper:=accepted.proper
 have previousValid:=merged.wireValid previous (by rw [split];exact List.mem_concat_self)
 have apart:=merged.apart
 rw [split] at apart
 obtain ⟨initApart,-,initBelow⟩:=List.pairwise_append.1 apart
 have lastHigh:∀r∈done,rawHigh r ≤ wireHigh previous:=by
  intro r mem
  obtain ⟨w,last,below⟩:=merged.below r mem
  rw [split,List.getLast?_concat] at last
  rw [Option.some.inj last]
  exact below
 refine ⟨?_,?_,?_,?_,?_,?_,?_,?_⟩
 · intro x
   rw [covers_append,covers_append,covers_singleton,covers_singleton,merged.covers x,split,
    covers_append,covers_singleton,or_assoc]
   refine or_congr_right ?_
   omega
 · exact List.pairwise_append.2 ⟨merged.ascending,List.pairwise_singleton _ _,
    fun r mem=>List.forall_mem_singleton.2 ((lastHigh r mem).trans touch.le)⟩
 · exact List.pairwise_append.2 ⟨initApart,List.pairwise_singleton _ _,
    fun w mem=>List.forall_mem_singleton.2 (initBelow w mem previous List.mem_cons_self)⟩
 · exact List.forall_mem_append.2 ⟨merged.valid,List.forall_mem_singleton.2 ⟨proper,bounded⟩⟩
 · refine List.forall_mem_append.2 ⟨fun w mem=>merged.wireValid w ?_,
    List.forall_mem_singleton.2 ⟨by omega,by omega⟩⟩
   rw [split]
   exact List.mem_append_left _ mem
 · refine List.forall_mem_append.2 ⟨fun r mem=>⟨joined,List.getLast?_concat,?_⟩,
    List.forall_mem_singleton.2 ⟨joined,List.getLast?_concat,high.ge⟩⟩
   have below:=lastHigh r mem
   omega
 · have count:=merged.count
   rw [split] at count
   rw [List.length_append] at count ⊢
   exact count
 · have total:=merged.total
   rw [split,List.map_append,List.sum_append] at total
   rw [accepted.total,total,List.map_append,List.sum_append]
   simp only [List.map_cons,List.map_nil,List.sum_singleton,joinedDef,sum]
   omega

lemma RangeReport.append_eq_ok {report report':RangeReport}
 (h:report.append item=.ok report') :
 report.ranges.length < kMaxPhysicalRanges.toNat ∧ report'={ report with
  ranges := report.ranges++[⟨item.baseAddress,item.numberOfBytes⟩] } := by
 unfold append at h
 split at h
 · cases h
 · rename_i room
   exact ⟨not_le.1 room,(Except.ok.inj h).symm⟩

lemma accepted_of_checks
 (checks:¬(item.numberOfBytes=0 ∨ maxUInt64-item.numberOfBytes < item.baseAddress ∨
  maxUInt64-item.numberOfBytes < report.totalBytes)) : Accepted report item := by
 simp only [not_or,UInt64.not_lt,UInt64.le_iff_toNat_le,toNat_maxUInt64_sub] at checks
 obtain ⟨nonzero,_,_⟩:=checks
 have positive : 0 < item.numberOfBytes.toNat :=
  Nat.pos_of_ne_zero fun zero=>nonzero (UInt64.toNat_inj.1 zero)
 have small:=item.numberOfBytes.toNat_lt
 refine ⟨?_,?_,?_⟩
 · unfold rawLow rawHigh
   omega
 · unfold rawHigh
   omega
 · rw [UInt64.toNat_add,Nat.mod_eq_of_lt (by omega)]

lemma Merged.add {report report':RangeReport} (merged:Merged done report)
 (h:report.add item=.ok report') : Merged (done++[item]) report' := by
 simp only [RangeReport.add] at h
 split at h
 · cases h
 split at h
 · cases h
 rename_i checks
 have accepted:=accepted_of_checks checks
 split at h
 · rename_i empty
   obtain ⟨room,rfl⟩:=RangeReport.append_eq_ok h
   refine merged.append accepted ?_ room
   intro w last
   rw [empty] at last
   cases last
 · rename_i previous last
   obtain ⟨_,split⟩:=List.getLast?_eq_some_iff.1 last
   have bounded:=(merged.wireValid previous (by rw [split];exact List.mem_concat_self)).2
   have finish:(previous.baseAddress+previous.byteCount).toNat=wireHigh previous:=by
    exact Nat.mod_eq_of_lt bounded
   split at h
   · cases h
   rename_i above
   rw [UInt64.not_lt,UInt64.le_iff_toNat_le,finish] at above
   split at h
   · rename_i touch
     cases h
     have extended:=merged.extend accepted split (by rw [←finish,←touch];rfl)
     rw [split,List.dropLast_concat]
     exact extended
   · rename_i apart
     obtain ⟨room,rfl⟩:=RangeReport.append_eq_ok h
     refine merged.append accepted ?_ room
     intro w found
     rw [Option.some.inj (found.symm.trans last)]
     refine lt_of_le_of_ne above fun same=>apart ?_
     exact UInt64.toNat_inj.1 (same.symm.trans finish.symm)

lemma Merged.addAll {rest:List PhysicalMemoryRange} {report report':RangeReport}
 (merged:Merged done report) (h:RangeReport.addAll rest report=.ok report') :
 Merged (done++rest) report' := by
 induction rest generalizing done report with
 | nil =>
  cases h
  rw [List.append_nil]
  exact merged
 | cons _ _ ih =>
  rw [RangeReport.addAll] at h
  split at h
  · cases h
  · rename_i next added
    have extended:=ih (merged.add added) h
    rwa [List.append_assoc] at extended

lemma isPhysicalRamRange_iff {raw:List PhysicalMemoryRange}
 (valid:∀r∈reportedRanges raw,rawLow r < rawHigh r ∧ rawHigh r<2^64)
 {address length:UInt64} (nonzero:length≠0) :
 isPhysicalRamRange raw address length=true ↔
  ∃ r∈reportedRanges raw,rawLow r ≤ address.toNat ∧
   address.toNat+length.toNat ≤ rawHigh r := by
 constructor
 · exact covers_of_isPhysicalRamRange
 · rintro ⟨r,mem,low,high⟩
   obtain ⟨_,bounded⟩:=valid r mem
   have fits:¬maxUInt64-length < address:=by
    rw [UInt64.lt_iff_toNat_lt,toNat_maxUInt64_sub]
    omega
   have finish:(address+length).toNat=address.toNat+length.toNat:=by
    rw [UInt64.toNat_add,Nat.mod_eq_of_lt (by omega)]
   have highEnd:(r.baseAddress+r.numberOfBytes).toNat=rawHigh r:=by
    exact Nat.mod_eq_of_lt bounded
   have regular:¬(r.numberOfBytes=0 ∨ maxUInt64-r.numberOfBytes < r.baseAddress):=by
    rw [UInt64.lt_iff_toNat_lt,toNat_maxUInt64_sub,←UInt64.toNat_inj]
    unfold rawLow rawHigh at *
    simp only [UInt64.toNat_zero]
    omega
   rw [isPhysicalRamRange,checkedEnd,if_neg nonzero,if_neg fits]
   refine List.any_eq_true.2 ⟨r,mem,?_⟩
   rw [PhysicalMemoryRange.holds,if_neg regular,Bool.and_eq_true,decide_eq_true_eq,
    decide_eq_true_eq,UInt64.le_iff_toNat_le,UInt64.le_iff_toNat_le,finish,highEnd]
   exact ⟨low,high⟩

lemma contains_iff {w:WirePhysicalRange} (proper:wireLow w < wireHigh w)
 (bounded:wireHigh w<2^64) {address length:UInt64} (nonzero:length≠0) :
 PhysicalRange.contains ⟨w.baseAddress,w.byteCount⟩ address length=true ↔
  wireLow w ≤ address.toNat ∧ address.toNat+length.toNat ≤ wireHigh w := by
 constructor
 · exact PhysicalRange.covers_of_contains
 · rintro ⟨low,high⟩
   have valid:PhysicalRange.isValid ⟨w.baseAddress,w.byteCount⟩=true:=by
    rw [PhysicalRange.isValid,Bool.and_eq_true,bne_iff_ne,decide_eq_true_eq,
     UInt64.le_iff_toNat_le,toNat_maxUInt64_sub,ne_eq,←UInt64.toNat_inj]
    unfold wireLow wireHigh at *
    simp only [UInt64.toNat_zero]
    omega
   have fits:¬maxUInt64-length < address:=by
    rw [UInt64.lt_iff_toNat_lt,toNat_maxUInt64_sub]
    omega
   have finish:(address+length).toNat=address.toNat+length.toNat:=by
    rw [UInt64.toNat_add,Nat.mod_eq_of_lt (by omega)]
   have highEnd:(w.baseAddress+w.byteCount).toNat=wireHigh w:=by
    exact Nat.mod_eq_of_lt bounded
   rw [PhysicalRange.contains,valid,if_neg (by simpa using nonzero),if_neg fits,
    Bool.and_eq_true,decide_eq_true_eq,decide_eq_true_eq,UInt64.le_iff_toNat_le,
    UInt64.le_iff_toNat_le,finish,highEnd]
   exact ⟨low,high⟩

lemma RangeReport.reported_response (count:report.ranges.length ≤ kMaxPhysicalRanges.toNat) :
 report.response.reported=report.ranges.map fun w=>⟨w.baseAddress,w.byteCount⟩ := by
 have small:kMaxPhysicalRanges.toNat<2^32:=by decide
 have length:(UInt32.ofNat report.ranges.length).toNat=report.ranges.length:=by
  rw [UInt32.toNat_ofNat',Nat.mod_eq_of_lt (by omega)]
 refine List.ext_getElem ?_ ?_
 · simp [PhysicalRangesResponse.reported,response,length]
 · intro i _ right
   rw [List.length_map] at right
   simp [PhysicalRangesResponse.reported,response,right]

lemma physicalRangesIoctl_exec {irp:Irp Unit} {raw:List PhysicalMemoryRange}
 {status:NtStatus} {information:ℕ} {response:PhysicalRangesResponse}
 (ran:(physicalRangesIoctl irp).Exec [⟨.physicalMemoryRanges,some raw⟩]
  (status,information,some response)) :
 ∃ report,RangeReport.addAll (reportedRanges raw) {}=.ok report ∧
  response=report.response ∧ information=kPhysicalRangesResponseSize.toNat := by
 unfold physicalRangesIoctl at ran
 split at ran
 · cases ran
 rw [Prog.exec_guard] at ran
 obtain ⟨-,traced,-⟩ | ⟨-,ran⟩:=ran
 · cases traced
 obtain ⟨_,_,traced,ran⟩:=ran.of_ask
 cases traced
 dsimp only at ran
 split at ran
 · obtain ⟨-,same⟩:=ran.of_pure
   cases same
 · rename_i report added
   obtain ⟨-,same⟩:=ran.of_pure
   cases same
   exact ⟨report,added,rfl,rfl⟩

lemma collectRanges_response (valid:∀w∈report.ranges,wireLow w < wireHigh w ∧ wireHigh w<2^64)
 {rest done:List WirePhysicalRange} (split:report.ranges=done++rest) (total:UInt64)
 (fits:total.toNat+(rest.map fun w=>w.byteCount.toNat).sum<2^64)
 (ranges:List PhysicalRange) :
 ∃ sum,KDbgBackend.collectRanges report.response rest.length done.length total ranges =
  .ok (sum,ranges++rest.map fun w=>⟨w.baseAddress,w.byteCount⟩) ∧
  sum.toNat=total.toNat+(rest.map fun w=>w.byteCount.toNat).sum := by
 induction rest generalizing done total ranges with
 | nil => exact ⟨total,by simp [KDbgBackend.collectRanges],by simp⟩
 | cons w rest ih =>
  rw [List.map_cons,List.sum_cons] at fits
  have item:report.response.ranges done.length=w:=by
   simp [RangeReport.response,split]
  obtain ⟨_,_⟩:=valid w (by rw [split];simp)
  have entry : ¬(!PhysicalRange.isValid ⟨w.baseAddress,w.byteCount⟩ ||
   decide (maxUInt64-w.byteCount < total))=true := by
   rw [Bool.or_eq_true,decide_eq_true_eq,UInt64.lt_iff_toNat_lt,Bool.not_eq_true',
    PhysicalRange.isValid,Bool.and_eq_false_iff,bne_eq_false_iff_eq,decide_eq_false_iff_not,
    UInt64.le_iff_toNat_le,toNat_maxUInt64_sub,←UInt64.toNat_inj]
   unfold wireLow wireHigh at *
   simp only [UInt64.toNat_zero]
   omega
  have step:(total+w.byteCount).toNat=total.toNat+w.byteCount.toNat:=by
   rw [UInt64.toNat_add,Nat.mod_eq_of_lt (by omega)]
  have splitRest:report.ranges=(done++[w])++rest:=by
   rw [split,List.append_assoc,List.singleton_append]
  obtain ⟨sum,collected,sumEq⟩:=ih splitRest (total+w.byteCount) (by omega)
   (ranges++[⟨w.baseAddress,w.byteCount⟩])
  refine ⟨sum,?_,?_⟩
  · rw [List.length_cons,KDbgBackend.collectRanges,item,if_neg entry]
    rw [List.length_append,List.append_assoc] at collected
    exact collected
  · rw [sumEq,step,List.map_cons,List.sum_cons,Nat.add_assoc]

/-- User mode decodes the report to the list that the driver reported. -/
lemma decodeRanges_response (merged:Merged done report)
 (nonempty:report.ranges≠[]) :
 KDbgBackend.decodeRanges kPhysicalRangesResponseSize report.response =
  .ok report.response.reported := by
 have total:=merged.total
 have count:=merged.count
 have positive:=List.length_pos_iff.2 nonempty
 have small:kMaxPhysicalRanges.toNat<2^32:=by decide
 have length:report.response.rangeCount.toNat=report.ranges.length:=by
  rw [RangeReport.response,UInt32.toNat_ofNat',Nat.mod_eq_of_lt (by omega)]
 have header : ¬(kPhysicalRangesResponseSize≠kPhysicalRangesResponseSize ∨
  report.response.size≠kPhysicalRangesResponseSize ∨ report.response.flags≠0 ∨
  report.response.reserved≠0 ∨ report.response.rangeCount=0 ∨
  kMaxPhysicalRanges < report.response.rangeCount) := by
  rw [UInt32.lt_iff_toNat_lt,←UInt32.toNat_inj,length,UInt32.toNat_zero]
  simp only [RangeReport.response,ne_eq,not_true_eq_false,false_or]
  omega
 obtain ⟨sum,collected,sumEq⟩:=collectRanges_response merged.wireValid
  (List.nil_append report.ranges).symm 0
  (by rw [UInt64.toNat_zero,Nat.zero_add,←total];exact report.totalBytes.toNat_lt) []
 have sameTotal:sum=report.response.totalBytes:=by
  rw [UInt64.toNat_zero,Nat.zero_add,←total] at sumEq
  exact UInt64.toNat_inj.1 sumEq
 rw [List.length_nil,List.nil_append,←RangeReport.reported_response count] at collected
 rw [KDbgBackend.decodeRanges,if_neg header,length,collected]
 dsimp only
 rw [if_neg (not_not.2 sameTotal)]

lemma getPhysicalRanges_exec {s:KDbgBackend.Impl} (opened:s.device=true)
 {returned:UInt32} {response:PhysicalRangesResponse} {r:Result (List PhysicalRange)} :
 (KDbgBackend.getPhysicalRanges s).Exec [⟨.getPhysicalRanges, .ok (returned,response)⟩] r ↔
  r=KDbgBackend.decodeRanges returned response := by
 constructor
 · intro ran
   obtain ⟨u,_,v,traced,sent,ran⟩:=ran.of_bind
   obtain ⟨closed,-⟩ | ⟨-,_,asked,rfl⟩:=KDbgBackend.ioctl_exec sent
   · cases opened.symm.trans closed
   · rw [KDbgBackend.ask_exec asked] at traced
     cases traced
     exact ran.of_pure.2
 · rintro rfl
   rw [KDbgBackend.getPhysicalRanges,KDbgBackend.Impl.ioctl,opened]
   exact (Prog.exec_ask_bind _ _ _ _).2 ⟨_,[],rfl, .ret _⟩

def rangeLow (r : PhysicalRange) : ℕ := r.base.toNat
def rangeHigh (r : PhysicalRange) : ℕ := r.base.toNat+r.length.toNat

/-- What the driver reports is the kernel's list in normal form, and user mode takes it as it
 is. -/
theorem reported_ranges_normal {irp : Irp Unit} {raw : List PhysicalMemoryRange}
 {information : ℕ} {response : PhysicalRangesResponse}
 (ran : (physicalRangesIoctl irp).Exec [⟨.physicalMemoryRanges,some raw⟩]
  (.success,information,some response)) :
 (∀ range∈response.reported,0 < range.length.toNat) ∧
  Apart rangeLow rangeHigh response.reported ∧
  (∀ x,Covers rawLow rawHigh (reportedRanges raw) x ↔
   Covers rangeLow rangeHigh response.reported x) ∧
  response.totalBytes.toNat=(response.reported.map fun range=>range.length.toNat).sum ∧
  (response.reported≠[] → ∀ (s : KDbgBackend.Impl) (r : Result (List PhysicalRange)),
   s.device=true→((KDbgBackend.getPhysicalRanges s).Exec
    [⟨.getPhysicalRanges, .ok (UInt32.ofNat information,response)⟩] r ↔
     r=.ok response.reported)) := by
 obtain ⟨report,added,rfl,rfl⟩ := physicalRangesIoctl_exec ran
 have merged := merged_start.addAll added
 have reported := RangeReport.reported_response merged.count
 refine ⟨?_,?_,?_,?_,?_⟩
 · rw [reported]
   refine List.forall_mem_map.2 fun w mem => ?_
   exact Nat.lt_add_right_iff_pos.1 (merged.wireValid w mem).1
 · rw [reported,Apart,List.pairwise_map]
   exact merged.apart
 · intro x
   simp only [reported,Covers,List.mem_map,exists_exists_and_eq_and]
   exact merged.covers x
 · rw [reported,List.map_map]
   exact merged.total
 · intro nonempty s r opened
   rw [getPhysicalRanges_exec opened]
   have some : report.ranges≠[] := by
    rintro empty
    exact nonempty (by rw [reported,empty,List.map_nil])
   rw [← decodeRanges_response merged some]
   rfl

/-- The check on the kernel's ranges and the reported ranges agree on every request except one
 that straddles ranges of the kernel's list which touch each other. -/
theorem ram_check_agrees_iff {irp : Irp Unit} {raw : List PhysicalMemoryRange}
 {status : NtStatus} {information : ℕ} {response : PhysicalRangesResponse}
 (ran : (physicalRangesIoctl irp).Exec [⟨.physicalMemoryRanges,some raw⟩]
  (status,information,some response)) {address length : UInt64} (nonzero : length≠0) :
 (isPhysicalRamRange raw address length=true ↔
  ∃ range∈response.reported,range.contains address length=true) ↔
  ¬ Straddles rawLow rawHigh (reportedRanges raw) address.toNat
   (address.toNat+length.toNat) := by
 obtain ⟨report,added,rfl,-⟩ := physicalRangesIoctl_exec ran
 have merged := merged_start.addAll added
 rw [List.nil_append] at merged
 have positive : 0 < length.toNat :=
  Nat.pos_of_ne_zero fun zero=>nonzero (UInt64.toNat_inj.1 zero)
 have reported : (∃ range∈report.response.reported,range.contains address length=true) ↔
  ∀ x,address.toNat ≤ x → x < address.toNat+length.toNat →
   Covers rawLow rawHigh (reportedRanges raw) x := by
  rw [RangeReport.reported_response merged.count]
  simp only [merged.covers,List.mem_map,exists_exists_and_eq_and]
  constructor
  · rintro ⟨w,mem,holds⟩ x _ _
    obtain ⟨proper,bounded⟩ := merged.wireValid w mem
    have held := (contains_iff proper bounded nonzero).1 holds
    exact ⟨w,mem,by omega,by omega⟩
  · intro covered
    obtain ⟨w,mem,held⟩ := exists_of_apart merged.apart (by omega) covered
    obtain ⟨proper,bounded⟩ := merged.wireValid w mem
    exact ⟨w,mem,(contains_iff proper bounded nonzero).2 held⟩
 rw [reported,isPhysicalRamRange_iff merged.valid nonzero]
 constructor
 · intro agree straddles
   obtain ⟨r,mem,low,high⟩ := agree.2 fun x above below=>straddles.covers above below
   exact absurd (straddles.not_held merged.ascending mem low) (not_lt.2 high)
 · intro apart
   constructor
   · rintro ⟨r,mem,low,high⟩ x above below
     exact ⟨r,mem,low.trans above,below.trans_le high⟩
   · intro covered
     by_contra none
     refine apart (straddles_of_covered (fun r mem=>(merged.valid r mem).1) merged.ascending
      (by omega) covered fun r mem low => ?_)
     by_contra high
     exact none ⟨r,mem,low,not_lt.1 high⟩

/-! Two touching ranges of the kernel's list. -/

def touchingRanges : List PhysicalMemoryRange := [⟨0x1000,0x1000⟩,⟨0x2000,0x1000⟩]

def rangesIrp : Irp Unit := ⟨some (),0,kPhysicalRangesResponseSize⟩

def joinedReport : RangeReport := ⟨0x2000,[⟨0x1000,0x2000⟩]⟩

lemma touchingRanges_reported : (physicalRangesIoctl rangesIrp).Exec
 [⟨.physicalMemoryRanges,some touchingRanges⟩]
 (.success,kPhysicalRangesResponseSize.toNat,some joinedReport.response) := by
 have added:RangeReport.addAll (reportedRanges touchingRanges) {}=.ok joinedReport:=rfl
 refine (Prog.exec_ask_bind _ _ _ _).2 ⟨some touchingRanges,[],rfl,?_⟩
 dsimp only
 exact .ret _

theorem touchingRanges_normal :
 joinedReport.response.reported=[⟨0x1000,0x2000⟩] ∧
  Apart rangeLow rangeHigh joinedReport.response.reported :=
 ⟨by decide,(reported_ranges_normal touchingRanges_reported).2.1⟩

theorem touchingRanges_agree :
 isPhysicalRamRange touchingRanges 0x1000 0x1000=true ↔
  ∃ range∈joinedReport.response.reported,range.contains 0x1000 0x1000=true := by
 refine (ram_check_agrees_iff touchingRanges_reported (by decide)).2 ?_
 intro straddles
 have ascending : Ascending rawLow rawHigh (reportedRanges touchingRanges) := by
  unfold Ascending
  decide
 have first : (⟨0x1000,0x1000⟩ : PhysicalMemoryRange)∈reportedRanges touchingRanges := by decide
 exact absurd (straddles.not_held ascending first (by decide)) (by decide)

theorem touchingRanges_disagree :
 ¬ ∀ (irp : Irp Unit) (raw : List PhysicalMemoryRange) (status : NtStatus) (information : ℕ)
  (response : PhysicalRangesResponse),
  (physicalRangesIoctl irp).Exec [⟨.physicalMemoryRanges,some raw⟩]
   (status,information,some response) →
  ∀ address length : UInt64,length≠0 →
   (isPhysicalRamRange raw address length=true ↔
    ∃ range∈response.reported,range.contains address length=true) := by
 intro agree
 have both := agree _ _ _ _ _ touchingRanges_reported 0x1800 0x1000 (by decide)
 have refused : isPhysicalRamRange touchingRanges 0x1800 0x1000=false := by decide
 have contained : ∃ range∈joinedReport.response.reported,
  range.contains 0x1800 0x1000=true := ⟨⟨0x1000,0x2000⟩,by decide,by decide⟩
 exact Bool.false_ne_true (both.2 contained)

end Driver
end KDbg
