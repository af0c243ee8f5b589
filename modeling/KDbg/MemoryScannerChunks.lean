import KDbg.MemoryScanner
import KDbg.WindowScan
set_option autoImplicit false
/-! What a scan finds: the loops over the offsets of a window, the chunks of a
region and the regions, as windows over the data that was read. -/
namespace KDbg
open Interaction WindowScan

namespace MemoryScanner

def Unread (t : List ScanEvent) : Prop :=
 ∀ e∈t,∀ (address : UInt64) (length : UInt32),e.call≠.read address length

lemma unread_nil : Unread [] := fun _ mem=>absurd mem List.not_mem_nil

lemma Unread.append {t u:List ScanEvent} (first:Unread t) (second:Unread u) :
 Unread (t++u) :=
 fun e mem=>(List.mem_append.1 mem).elim (first e) (second e)

lemma unread_pollStop {counter:ℕ} {t:List ScanEvent} {stopped:Bool}
 (ran:(pollStop counter).Exec t stopped) : Unread t := by
 unfold pollStop at ran
 split at ran
 · obtain ⟨_,u,rfl,rest⟩:=ran.of_ask
   obtain ⟨rfl,-⟩:=rest.of_pure
   exact List.forall_mem_singleton.2 fun _ _=>nofun
 · obtain ⟨rfl,-⟩:=ran.of_pure
   exact unread_nil

/-- A state of a scan follows another in which there was room: candidates were found, and those
 within the limit were kept. -/
structure Collected (maxResults : ℕ) (s after : Scan) (found : List ScanCandidate) : Prop where
 output : after.output=(s.output++found).take maxResults
 truncated : after.truncated=decide (maxResults≤(s.output++found).length)

structure Open (maxResults : ℕ) (s : Scan) : Prop where
 truncated : s.truncated=false
 room : s.output.length < maxResults

structure Kept (s after : Scan) : Prop where
 output : after.output=s.output
 truncated : after.truncated=s.truncated
 isPartial : after.report.isPartial=s.report.isPartial

lemma Kept.trans {s mid after:Scan} (first:Kept s mid) (second:Kept mid after) :
 Kept s after :=
 ⟨second.output.trans first.output,second.truncated.trans first.truncated,
  second.isPartial.trans first.isPartial⟩

lemma Kept.counting (s:Scan) (progress:ScanProgress) {report:ScanReadReport}
 (same:report.isPartial=s.report.isPartial) : Kept s { s with progress,report } :=
 ⟨rfl,rfl,same⟩

lemma isPartial_attempting (report:ScanReadReport) (items bytes:UInt64) :
 { report with itemsAttempted := items,requestedBytes := bytes }.isPartial =
   report.isPartial := rfl

lemma isPartial_receiving (report:ScanReadReport) (bytes:UInt64) :
 { report with completedBytes := bytes }.isPartial=report.isPartial := rfl

lemma isPartial_completing (report:ScanReadReport) (items:UInt64) :
 { report with itemsCompleted := items }.isPartial=report.isPartial := rfl

lemma kept_attempted (s:Scan) (request:ℕ) : Kept s (s.attempted request) :=
 .counting s _ (isPartial_attempting _ _ _)

lemma kept_received (s:Scan) (size:ℕ) : Kept s (s.received size) :=
 .counting s _ (isPartial_receiving _ _)

lemma kept_completed (s:Scan) : Kept s s.completed :=
 .counting s _ (isPartial_completing _ _)

lemma kept_counted (s:Scan) : Kept s s.counted :=
 .counting s _ rfl

lemma kept_regionDone (s:Scan) : Kept s s.regionDone :=
 .counting s _ rfl

lemma Open.kept {maxResults:ℕ} {s s':Scan} (opened:Open maxResults s) (kept:Kept s s') :
 Open maxResults s' :=
 ⟨kept.truncated.trans opened.truncated,kept.output ▸ opened.room⟩

namespace Collected
variable {maxResults:ℕ} {s mid after:Scan} {found more:List ScanCandidate}

lemma none (opened:Open maxResults s) (output:after.output=s.output)
 (truncated:after.truncated=s.truncated) : Collected maxResults s after [] := by
 have room:=opened.room
 constructor
 · rw [output,List.append_nil,List.take_of_length_le (by omega)]
 · rw [truncated,opened.truncated,List.append_nil]
   exact (decide_eq_false (by omega)).symm

lemma opened (collected:Collected maxResults s after found)
 (going:after.truncated=false) : Open maxResults after := by
 have short:=collected.truncated
 rw [going] at short
 have less:=of_decide_eq_false short.symm
 refine ⟨going,?_⟩
 rw [collected.output,List.length_take]
 omega

lemma output_of_going (collected:Collected maxResults s after found)
 (going:after.truncated=false) : after.output=s.output++found := by
 have short:=collected.truncated
 rw [going] at short
 have less:=of_decide_eq_false short.symm
 rw [collected.output,List.take_of_length_le (by omega)]

lemma trans (first:Collected maxResults s mid found) (going:mid.truncated=false)
 (second:Collected maxResults mid after more) :
 Collected maxResults s after (found++more) := by
 have kept:=first.output_of_going going
 constructor
 · rw [second.output,kept,List.append_assoc]
 · rw [second.truncated,kept,List.append_assoc]

lemma append (collected:Collected maxResults s after found) (full:after.truncated=true)
 (more:List ScanCandidate) : Collected maxResults s after (found++more) := by
 have reached:=collected.truncated
 rw [full] at reached
 have most:=of_decide_eq_true reached.symm
 constructor
 · rw [collected.output,←List.append_assoc,List.take_append_of_le_length most]
 · rw [full,←List.append_assoc,List.length_append]
   exact (decide_eq_true (by omega)).symm

lemma congr {s' after':Scan} (collected:Collected maxResults s after found)
 (output:s'.output=s.output) (output':after'.output=after.output)
 (truncated:after'.truncated=after.truncated) : Collected maxResults s' after' found := by
 constructor
 · rw [output',output,collected.output]
 · rw [truncated,output,collected.truncated]

end Collected

def candidateAt (query : CompiledScanQuery) (address : ℕ) (value : List UInt8) :
 Option ScanCandidate :=
 if address%query.query.alignment=0 ∧ matchInitialValue query value=true then
  some ⟨UInt64.ofNat address,value,value⟩
 else none

section Window
variable {query:CompiledScanQuery} {regionBase regionEnd windowBase:ℕ}
 {carry window:List UInt8} {s:Scan}

section
variable {offset:ℕ} {t:List ScanEvent}

structure Inside (query : CompiledScanQuery) (regionBase regionEnd windowBase : ℕ)
 (carry window : List UInt8) : Prop where
 low : regionBase ≤ windowBase
 high : windowBase+window.length ≤ regionEnd
 fresh : carry.length < query.width

lemma visitOffset_collected (inside:Inside query regionBase regionEnd windowBase carry window)
 (within:offset+query.width ≤ window.length)
 (aligned:(windowBase+offset)%query.query.alignment=0)
 (opened:Open query.query.maxResults s) :
 let after := visitOffset query regionBase regionEnd windowBase carry window offset s
 Collected query.query.maxResults s after
  (candidateAt query (windowBase+offset) ((window.drop offset).take query.width)).toList ∧
  after.report=s.report := by
 obtain ⟨_,_,_⟩:=inside
 have inRegion : ¬(windowBase+offset < regionBase ∨ regionEnd ≤ windowBase+offset ∨
  regionEnd-(windowBase+offset) < query.width) := by omega
 have notCarried:¬(carry≠[] ∧ offset+query.width ≤ carry.length):=by omega
 have room:=opened.room
 unfold visitOffset candidateAt
 dsimp only
 rw [if_neg inRegion,if_neg notCarried]
 cases matched:matchInitialValue query ((window.drop offset).take query.width) with
 | false =>
  rw [if_pos (by decide:(!false)=true),if_neg fun both=>Bool.false_ne_true both.2]
  exact ⟨.none opened rfl rfl,rfl⟩
 | true =>
  rw [if_neg (by decide:¬(!true)=true),if_pos ⟨aligned,rfl⟩,opened.truncated]
  refine ⟨⟨?_,rfl⟩,rfl⟩
  refine (List.take_of_length_le ?_).symm
  rw [List.length_append]
  change _+1 ≤ _
  omega

/-- What the loop over the offsets finds from one of them on. -/
def offsetHits (query : CompiledScanQuery) (windowBase : ℕ) (window : List UInt8) (offset : ℕ) :
 List ScanCandidate :=
 (List.range' offset (window.length+1-query.width-offset)).filterMap fun i =>
  candidateAt query (windowBase+i) ((window.drop i).take query.width)

lemma candidateAt_unaligned {address:ℕ} (value:List UInt8)
 (unaligned:address%query.query.alignment≠0) : candidateAt query address value=none :=
 if_neg fun both=>unaligned both.1

lemma offsetHits_step (positive:0 < query.query.alignment)
 (aligned:(windowBase+offset)%query.query.alignment=0)
 (within:offset+query.width ≤ window.length) :
 offsetHits query windowBase window offset =
  (candidateAt query (windowBase+offset) ((window.drop offset).take query.width)).toList ++
   offsetHits query windowBase window (offset+query.query.alignment) := by
 refine filterMap_range'_step positive (by omega) fun i _ _ => ?_
 refine candidateAt_unaligned _ fun other => ?_
 have between:=Nat.sub_mod_eq_zero_of_mod_eq (other.trans aligned.symm)
 have gap:windowBase+i-(windowBase+offset)=i-offset:=by omega
 rw [Nat.mod_eq_of_lt (by omega)] at between
 omega

lemma scanOffsets_exec (inside:Inside query regionBase regionEnd windowBase carry window)
 (positive:0 < query.query.alignment) {counter:ℕ}
 (aligned:(windowBase+offset)%query.query.alignment=0)
 (opened:Open query.query.maxResults s) {after:Scan}
 (ran:(scanOffsets query regionBase regionEnd windowBase carry window offset counter s).Exec t
  (.ok (),after)) :
 Collected query.query.maxResults s after (offsetHits query windowBase window offset) ∧
  after.report=s.report ∧ Unread t := by
 generalize size : window.length+1-offset=n
 induction n using Nat.strong_induction_on generalizing offset counter s t with
 | _ n ih =>
  rw [scanOffsets] at ran
  split at ran
  · obtain ⟨rfl,same⟩:=ran.of_pure
    cases same
    have nothing:offsetHits query windowBase window offset=[]:=by
     rw [offsetHits,Nat.sub_eq_zero_of_le (by omega)]
     rfl
    rw [nothing]
    exact ⟨.none opened rfl rfl,rfl,unread_nil⟩
  · obtain ⟨u,stopped,v,rfl,polled,rest⟩:=ran.of_bind
    cases stopped with
    | true => simp at rest
    | false =>
     have within:offset+query.width ≤ window.length:=by omega
     obtain ⟨collected,report⟩:=visitOffset_collected inside within aligned opened
     rw [offsetHits_step positive aligned within]
     have quiet:=unread_pollStop polled
     rw [if_neg (by decide)] at rest
     dsimp only at rest
     split at rest
     · rename_i full
       obtain ⟨rfl,same⟩:=rest.of_pure
       cases same
       exact ⟨collected.append full _,report,quiet.append unread_nil⟩
     · rename_i going
       rw [Bool.not_eq_true] at going
       have next : (windowBase+(offset+query.query.alignment))%query.query.alignment =
        0 := by
        rw [←Nat.add_assoc,Nat.add_mod_right,aligned]
       obtain ⟨further,report',quiet'⟩ :=
        ih _ (by omega) next (collected.opened going) rest rfl
       exact ⟨collected.trans going further,report'.trans report,quiet.append quiet'⟩

/-- The first offset of a window that is at a multiple of the alignment. -/
lemma first_aligned {alignment:ℕ} (positive:0 < alignment) (base:ℕ) :
 let first := if base%alignment=0 then 0 else alignment-base%alignment
 (base+first)%alignment=0 ∧ ∀i < first,(base+i)%alignment≠0 := by
 have split:=Nat.div_add_mod base alignment
 have lt:=Nat.mod_lt base positive
 split
 · rename_i whole
   exact ⟨whole,fun i less=>absurd less (Nat.not_lt_zero i)⟩
 · constructor
   · have sum : base+(alignment-base%alignment) =
      alignment*(base/alignment)+alignment := by omega
     rw [sum,Nat.mul_add_mod,Nat.mod_self]
   · intro i _
     have sum:base+i=alignment*(base/alignment)+(base%alignment+i):=by omega
     rw [sum,Nat.mul_add_mod,Nat.mod_eq_of_lt (by omega)]
     omega

lemma scanWindow_exec (inside:Inside query regionBase regionEnd windowBase carry window)
 (positive:0 < query.query.alignment) (opened:Open query.query.maxResults s) {after:Scan}
 (ran:(scanWindow query regionBase regionEnd windowBase carry window s).Exec t
  (.ok (),after)) :
 Collected query.query.maxResults s after
  (hits query.width (candidateAt query) windowBase window) ∧
  after.report=s.report ∧ Unread t := by
 unfold scanWindow at ran
 split at ran
 · obtain ⟨rfl,same⟩:=ran.of_pure
   cases same
   rw [hits,Nat.sub_eq_zero_of_le (by omega)]
   exact ⟨.none opened rfl rfl,rfl,unread_nil⟩
 · have place:=first_aligned positive windowBase
   dsimp only at ran place
   generalize (if windowBase%query.query.alignment=0 then 0
    else query.query.alignment-windowBase%query.query.alignment)=first at ran place
   obtain ⟨aligned,none⟩:=place
   have same : hits query.width (candidateAt query) windowBase window =
    offsetHits query windowBase window first := by
    rw [hits,List.range_eq_range',filterMap_range'_skip first fun i _ _ =>
     candidateAt_unaligned _ (none i (by omega)),Nat.zero_add]
    rfl
   rw [same]
   exact scanOffsets_exec inside positive aligned opened ran

end

end Window

abbrev ReadOracle := UInt64→UInt32→Result (List UInt8)

section
variable {memory:ReadOracle} {t u:List ScanEvent} {nextReport:UInt64} {s:Scan}

def Agrees (memory : ReadOracle) (t : List ScanEvent) : Prop :=
 ∀ (address : UInt64) (length : UInt32) (answer : Result (List UInt8)),
  (⟨.read address length,answer⟩ : ScanEvent)∈t → answer=memory address length

lemma Agrees.mono (sub:u ⊆ t) (agrees:Agrees memory t) : Agrees memory u :=
 fun address length answer mem=>agrees address length answer (sub mem)

def Whole (t : List ScanEvent) : Prop :=
 ∀ (address : UInt64) (length : UInt32) (answer : Result (List UInt8)),
  (⟨.read address length,answer⟩ : ScanEvent)∈t → answer.isOk=true

lemma Unread.whole (quiet:Unread t) : Whole t :=
 fun address length _ mem=>absurd rfl (quiet _ mem address length)

lemma Whole.append (first:Whole t) (second:Whole u) : Whole (t++u) :=
 fun address length answer mem =>
  (List.mem_append.1 mem).elim (first address length answer) (second address length answer)

def chunkAt (memory : ReadOracle) (cursor request : ℕ) : Chunk UInt8 :=
 match memory (UInt64.ofNat cursor) (UInt32.ofNat request) with
 | .ok data => if data.length=request then .read data else .lost request
 | .error _ => .lost request

def chunksFrom (memory : ReadOracle) (query : CompiledScanQuery) (positive : 0 < query.width)
 (regionEnd cursor : ℕ) : List (Chunk UInt8) :=
 if regionEnd ≤ cursor then []
 else
  chunkAt memory cursor (chunkRequest query (regionEnd-cursor)) ::
   chunksFrom memory query positive regionEnd
    (cursor+chunkRequest query (regionEnd-cursor))
termination_by regionEnd-cursor
decreasing_by
 have taken : 0 < chunkRequest query (regionEnd-cursor) := chunkRequest_pos positive (by omega)
 omega

lemma reportDue_exec {next:UInt64} {after:Scan}
 (ran:(reportDue nextReport s).Exec t (next,after)) : Kept s after ∧ Unread t := by
 unfold reportDue at ran
 split at ran
 · obtain ⟨_,u,rfl,rest⟩:=ran.of_ask
   obtain ⟨rfl,same⟩:=rest.of_pure
   obtain ⟨-,rfl⟩:=Prod.mk.inj same
   exact ⟨kept_counted s,List.forall_mem_singleton.2 fun _ _=>nofun⟩
 · obtain ⟨rfl,same⟩:=ran.of_pure
   obtain ⟨-,rfl⟩:=Prod.mk.inj same
   exact ⟨⟨rfl,rfl,rfl⟩,unread_nil⟩

lemma failedRead_isPartial (s:Scan) (error:Error) :
 (s.failedRead error).report.isPartial=true := by
 unfold Scan.failedRead preserveFirstError
 split <;> rfl

lemma Open.failedRead {maxResults:ℕ} (opened:Open maxResults s) (error:Error) :
 Open maxResults (s.failedRead error) := by
 exact ⟨opened.truncated,opened.room⟩

/-- What was found, and that a scan which does not call itself partial had no failed read. -/
structure Scanned (maxResults : ℕ) (s after : Scan) (t : List ScanEvent)
 (found : List ScanCandidate) : Prop where
 collected : Collected maxResults s after found
 whole : after.report.isPartial=false → s.report.isPartial=false ∧ Whole t

lemma whole_read {stopped:Bool} {address:UInt64} {length:UInt32} {data:List UInt8}
 (whole:Whole t) :
 Whole (⟨.stopRequested,stopped⟩::⟨.read address length, .ok data⟩::t) := by
 intro address' length' answer mem
 rcases List.mem_cons.1 mem with same|mem
 · cases same
 · rcases List.mem_cons.1 mem with same|mem
   · cases same
     rfl
   · exact whole address' length' answer mem

lemma scanChunks_exec {query:CompiledScanQuery} (positive:0 < query.width)
 (stride:0 < query.query.alignment) {regionBase regionEnd cursor:ℕ} {carry:List UInt8}
 {after:Scan} (carried:regionBase+carry.length ≤ cursor)
 (fresh:carry.length < query.width) (opened:Open query.query.maxResults s)
 (ran:(scanChunks query positive regionBase regionEnd cursor carry nextReport s).Exec t
  (.ok (),after)) (agrees:Agrees memory t) :
 Scanned query.query.maxResults s after t
  (chunkHits query.width (candidateAt query) cursor carry
   (chunksFrom memory query positive regionEnd cursor)) := by
 generalize size : regionEnd-cursor=n
 induction n using Nat.strong_induction_on generalizing cursor carry nextReport s t with
 | _ n ih =>
  rw [scanChunks] at ran
  rw [chunksFrom]
  split at ran
  · rename_i done
    obtain ⟨rfl,same⟩:=ran.of_pure
    cases same
    rw [if_pos done]
    exact ⟨.none opened rfl rfl,fun clean=>⟨clean,unread_nil.whole⟩⟩
  · rename_i left
    rw [if_neg left]
    have taken : 0 < chunkRequest query (regionEnd-cursor) :=
     chunkRequest_pos positive (by omega)
    have most : chunkRequest query (regionEnd-cursor) ≤ regionEnd-cursor :=
     Nat.min_le_left _ _
    generalize chunkRequest query (regionEnd-cursor)=request at ran taken most ⊢
    obtain ⟨_,u,rfl,rest⟩:=ran.of_ask
    split at rest
    · simp at rest
    obtain ⟨answer,v,rfl,body⟩:=rest.of_ask
    have known : answer=memory (UInt64.ofNat cursor) (UInt32.ofNat request) :=
     agrees _ _ _ (List.mem_cons_of_mem _ List.mem_cons_self)
    have later:Agrees memory v:=agrees.mono fun e mem =>
     List.mem_cons_of_mem _ (List.mem_cons_of_mem _ mem)
    cases answer with
    | error error =>
     have chunk:chunkAt memory cursor request=.lost request:=by rw [chunkAt,←known]
     rw [chunk]
     obtain ⟨w,⟨_,reported⟩,x,rfl,due,further⟩:=body.of_bind
     obtain ⟨kept,-⟩:=reportDue_exec due
     have emptied:regionBase+([] : List UInt8).length ≤ cursor+request:=by
      rw [List.length_nil]
      omega
     have begun : Open query.query.maxResults reported :=
      ((opened.kept (kept_attempted s request)).failedRead error).kept kept
     have scanned:=ih _ (by omega) emptied positive begun further
      (later.mono (List.subset_append_right _ _)) rfl
     have output:s.output=reported.output:=by
      rw [kept.output]
      rfl
     refine ⟨scanned.collected.congr output rfl rfl,fun clean => ?_⟩
     have clear:=(scanned.whole clean).1
     rw [kept.isPartial,failedRead_isPartial] at clear
     cases clear
    | ok data =>
     dsimp only at body
     split at body
     · simp at body
     rename_i full
     rw [not_not] at full
     have chunk:chunkAt memory cursor request=.read data:=by
      rw [chunkAt,←known]
      exact if_pos full
     rw [chunk,chunkHits]
     obtain ⟨w,⟨result,mid⟩,x,rfl,visited,further⟩:=body.of_bind
     cases result with
     | error => simp at further
     | ok =>
      have inside : Inside query regionBase regionEnd (cursor-carry.length) carry
       (carry++data) := by
       refine ⟨by omega,?_,fresh⟩
       rw [List.length_append]
       omega
      have counted : Kept s ((s.attempted request).received data.length).completed :=
       ((kept_attempted s request).trans (kept_received _ _)).trans (kept_completed _)
      obtain ⟨collected,report,quiet⟩ :=
       scanWindow_exec inside stride (opened.kept counted) visited
      have found:=collected.congr counted.output.symm rfl rfl
      have partly:mid.report.isPartial=s.report.isPartial:=by
       rw [report,counted.isPartial]
      dsimp only at further
      split at further
      · rename_i reached
        obtain ⟨rfl,same⟩:=further.of_pure
        cases same
        refine ⟨found.append reached _,fun clean=>⟨partly ▸ clean,?_⟩⟩
        rw [List.append_nil]
        exact whole_read quiet.whole
      · rename_i going
        rw [Bool.not_eq_true] at going
        obtain ⟨y,⟨_,_⟩,z,rfl,due,ahead⟩:=further.of_bind
        obtain ⟨kept,quiet'⟩:=reportDue_exec due
        have rest' : (carry++data).length-min (if 1 < query.width then query.width-1
         else 0) (carry++data).length=(carry++data).length+1-query.width := by
         split <;> omega
        rw [rest'] at ahead
        have short:=length_tail positive (carry++data)
        have carried' : regionBase+(tail query.width (carry++data)).length ≤
         cursor+request := by
         rw [short,List.length_append]
         omega
        have fresh' : (tail query.width (carry++data)).length < query.width := by
         omega
        have seen:z ⊆ w++(y++z):=fun e mem =>
         List.mem_append_right _ (List.mem_append_right _ mem)
        have scanned:=ih _ (by omega) carried' fresh' ((found.opened going).kept kept) ahead
         (later.mono seen) rfl
        rw [full]
        refine ⟨found.trans going (scanned.collected.congr kept.output.symm rfl rfl),
         fun clean => ?_⟩
        obtain ⟨clear,rest⟩:=scanned.whole clean
        refine ⟨?_,whole_read (quiet.whole.append (quiet'.whole.append rest))⟩
        rw [←partly,←kept.isPartial,clear]

end

/-- The chunks in which a region is read; one whose end does not fit 64 bits is not read. -/
def regionChunks (memory : ReadOracle) (query : CompiledScanQuery) (positive : 0 < query.width)
 (region : MemoryRegion) : List (Chunk UInt8) :=
 if maxUInt64-region.base < region.size then []
 else
  chunksFrom memory query positive (region.base.toNat+region.size.toNat) region.base.toNat

def regionSpans (memory : ReadOracle) (query : CompiledScanQuery) (positive : 0 < query.width)
 (region : MemoryRegion) : List (ℕ×List UInt8) :=
 spans region.base.toNat [] (regionChunks memory query positive region)

def regionHits (memory : ReadOracle) (query : CompiledScanQuery) (positive : 0 < query.width)
 (region : MemoryRegion) : List ScanCandidate :=
 spanHits query.width (candidateAt query) (regionSpans memory query positive region)

section Regions
variable {query:CompiledScanQuery} {memory:ReadOracle} {s after:Scan} {t:List ScanEvent}

lemma scanRegion_exec (positive:0 < query.width) (stride:0 < query.query.alignment)
 {region:MemoryRegion} (opened:Open query.query.maxResults s)
 (ran:(scanRegion query region s).Exec t (.ok (),after)) (agrees:Agrees memory t) :
 Scanned query.query.maxResults s after t (regionHits memory query positive region) ∧
  ¬maxUInt64-region.base < region.size := by
 unfold scanRegion at ran
 split at ran
 · simp at ran
 split at ran
 · simp at ran
 rename_i fits
 refine ⟨?_,fits⟩
 have start:region.base.toNat+([] : List UInt8).length ≤ region.base.toNat:=Nat.le_refl _
 have scanned:=scanChunks_exec positive stride start positive opened ran agrees
 rw [chunkHits_eq positive] at scanned
 rw [regionHits,regionSpans,regionChunks,if_neg fits]
 exact scanned

lemma whole_region {stopped:Bool} {state:ScanProgress} {answer:Unit}
 {t u:List ScanEvent} (first:Whole t) (second:Whole u) :
 Whole (⟨.stopRequested,stopped⟩::(t++⟨.progress state,answer⟩::u)) := by
 intro address length read mem
 rcases List.mem_cons.1 mem with same|mem
 · cases same
 · rcases List.mem_append.1 mem with mem|mem
   · exact first address length read mem
   · rcases List.mem_cons.1 mem with same|mem
     · cases same
     · exact second address length read mem

lemma scanRegions_exec (positive:0 < query.width) (stride:0 < query.query.alignment)
 {regions:List MemoryRegion} (opened:Open query.query.maxResults s)
 (ran:(scanRegions query regions s).Exec t (.ok (),after)) (agrees:Agrees memory t) :
 Scanned query.query.maxResults s after t
  (regions.flatMap (regionHits memory query positive)) ∧
  (after.truncated=false → ∀region∈regions,¬maxUInt64-region.base < region.size) := by
 induction regions generalizing s t with
 | nil =>
  obtain ⟨rfl,same⟩:=ran.of_pure
  cases same
  exact ⟨⟨.none opened rfl rfl,fun clean=>⟨clean,unread_nil.whole⟩⟩,
   fun _ _ mem=>absurd mem List.not_mem_nil⟩
 | cons _ _ ih =>
  obtain ⟨stopped,u,rfl,body⟩:=ran.of_ask
  split at body
  · simp at body
  obtain ⟨v,⟨result,mid⟩,w,rfl,turn,further⟩:=body.of_bind
  cases result with
  | error => simp at further
  | ok =>
   have first:Agrees memory v:=agrees.mono fun e mem =>
    List.mem_cons_of_mem _ (List.mem_append_left _ mem)
   obtain ⟨scanned,fits⟩:=scanRegion_exec positive stride opened turn first
   obtain ⟨answer,x,rfl,more⟩:=further.of_ask
   have done:=kept_regionDone mid
   have found:=scanned.collected.congr rfl done.output done.truncated
   split at more
   · rename_i reached
     obtain ⟨rfl,same⟩:=more.of_pure
     obtain ⟨-,rfl⟩:=Prod.mk.inj same
     refine ⟨⟨found.append (done.truncated.trans reached) _,fun clean => ?_⟩,fun going => ?_⟩
     · obtain ⟨clear,whole⟩:=scanned.whole (done.isPartial ▸ clean)
       exact ⟨clear,whole_region whole unread_nil.whole⟩
     · rw [done.truncated,reached] at going
       cases going
   · rename_i going
     rw [Bool.not_eq_true] at going
     have going' : mid.regionDone.truncated=false := done.truncated.trans going
     have seen : x ⊆ ⟨.stopRequested,stopped⟩ ::
      (v++⟨.progress mid.regionDone.progress,answer⟩::x) := fun e mem =>
      List.mem_cons_of_mem _ (List.mem_append_right _ (List.mem_cons_of_mem _ mem))
     obtain ⟨later,fitting⟩:=ih (found.opened going') more (agrees.mono seen)
     refine ⟨⟨found.trans going' later.collected,fun clean => ?_⟩,fun open' => ?_⟩
     · obtain ⟨clear,whole⟩:=later.whole clean
       obtain ⟨clear',whole'⟩:=scanned.whole (done.isPartial ▸ clear)
       exact ⟨clear',whole_region whole' whole⟩
     · exact List.forall_mem_cons.2 ⟨fits,fitting open'⟩

end Regions

end MemoryScanner
end KDbg
