import KDbg.MemoryScannerChunks
import KDbg.ValueCodecIntegers
set_option autoImplicit false
/-! A first scan finds exactly the values that match, up to its limit. -/
namespace KDbg
open Interaction WindowScan

variable {compiled:CompiledScanQuery}

section
variable {library:FloatingText}

lemma compileOperands_chunkSize (library:FloatingText) (query:ScanQuery) (chunkSize:ℕ) :
 compileOperands library { query with chunkSize } =
  (compileOperands library query).map fun operands =>
   { operands with query := { query with chunkSize } } := by
 unfold compileOperands
 split
 · split
   · rfl
   split
   · rfl
   cases parseAobPattern query.value <;> rfl
 split
 · split
   · rfl
   split
   · rfl
   cases encodeValue library query.type query.value query.hexadecimal <;> rfl
 cases encodeValue library query.type query.value query.hexadecimal with
 | error => rfl
 | ok =>
  dsimp only
  split
  · rfl
  split
  · rfl
  cases encodeValue library query.type query.secondValue query.hexadecimal with
  | error => rfl
  | ok =>
   dsimp only
   split <;> rfl

/-- Queries that differ in their chunk size compile to queries that do. -/
lemma compileScanQuery_chunkSize {query:ScanQuery} {chunkSize:ℕ}
 {compiled':CompiledScanQuery} (h:compileScanQuery library query=.ok compiled)
 (h':compileScanQuery library { query with chunkSize }=.ok compiled') :
 ∃ size,compiled' =
  { compiled with query := { compiled.query with chunkSize := size } } := by
 obtain ⟨_,same,rfl⟩:=compileScanQuery_ok h
 obtain ⟨_,same',rfl⟩:=compileScanQuery_ok h'
 rw [compileOperands_chunkSize,same] at same'
 cases same'
 exact ⟨_,rfl⟩

lemma alignment_pos {query:ScanQuery} (h:compileScanQuery library query=.ok compiled)
 (positive:0 < compiled.width) : 0 < compiled.query.alignment := by
 obtain ⟨_,-,rfl⟩:=compileScanQuery_ok h
 dsimp only at positive ⊢
 split
 · omega
 · split <;> omega

lemma maxResults_compiled {query:ScanQuery} (h:compileScanQuery library query=.ok compiled)
 : compiled.query.maxResults=query.maxResults := by
 obtain ⟨_,-,rfl⟩:=compileScanQuery_ok h
 rfl

end

namespace MemoryScanner

structure Answers (regions : List MemoryRegion) (memory : ReadOracle) (t : List ScanEvent) :
 Prop where
 regions : ∀ answer : Result (List MemoryRegion),
  (⟨.regions,answer⟩ : ScanEvent)∈t → answer=.ok regions
 reads : Agrees memory t

def allowedRegions (regions : List MemoryRegion) (compiled : CompiledScanQuery) :
 List MemoryRegion :=
 regions.filter fun region=>regionAllowed region compiled.query

variable {query:CompiledScanQuery}

section
variable {t:List ScanEvent} {candidate:ScanCandidate}

lemma width_pos (fits:validateCompiledLimits compiled=.ok ()) : 0 < compiled.width := by
 unfold validateCompiledLimits at fits
 split at fits
 · cases fits
 · omega

lemma maxResults_pos {query:ScanQuery} (limits:validateQueryLimits query=.ok ()) :
 0 < query.maxResults := by
 unfold validateQueryLimits at limits
 split at limits
 · cases limits
 · omega

lemma mem_of_other {e first:ScanEvent} (other:e.call≠first.call) :
 e∈first::t ↔ e∈t := by
 rw [List.mem_cons]
 refine or_iff_right fun same=>other ?_
 rw [same]

inductive FirstScanExit (library:FloatingText) (query:ScanQuery) (scanner:MemoryScanner)
 (t:List ScanEvent) : Result ScanSummary×MemoryScanner→Prop where
 | refused (error:Error) (report:ScanReadReport) :
  FirstScanExit library query scanner t
   (.error error,{ scanner with lastReadReport := report })
 | scanned {compiled:CompiledScanQuery} {regions:List MemoryRegion} {u:List ScanEvent}
  {s:Scan} (compiles:compileScanQuery library query=.ok compiled)
  (width:0 < compiled.width) (room:0 < query.maxResults)
  (listed:(⟨.regions, .ok regions⟩ : ScanEvent)∈t)
  (ran:(scanRegions compiled (allowedRegions regions compiled)
   { progress := startProgress (allowedRegions regions compiled) }).Exec u (.ok (),s))
  (reads:∀ (address:UInt64) (length:UInt32) (answer:Result (List UInt8)),
   (⟨.read address length,answer⟩ : ScanEvent)∈t ↔
    (⟨.read address length,answer⟩ : ScanEvent)∈u) :
  FirstScanExit library query scanner t (.ok (summarize s),scanner.publish compiled s)

lemma firstScan_exit {library:FloatingText} {query:ScanQuery} {scanner:MemoryScanner}
 {out:Result ScanSummary×MemoryScanner} (ran:(firstScan library query scanner).Exec t out)
 : FirstScanExit library query scanner t out := by
 obtain ⟨_,u,rfl,rest⟩:=ran.of_ask
 split at rest
 · obtain ⟨rfl,rfl⟩:=rest.of_pure
   exact .refused _ _
 cases limits:validateQueryLimits query with
 | error =>
  rw [limits] at rest
  obtain ⟨rfl,rfl⟩:=rest.of_pure
  exact .refused _ _
 | ok =>
  rw [limits] at rest
  cases compiles:compileScanQuery library query with
  | error =>
   rw [compiles] at rest
   obtain ⟨rfl,rfl⟩:=rest.of_pure
   exact .refused _ _
  | ok compiled =>
   rw [compiles] at rest
   dsimp only at rest
   cases fits:validateCompiledLimits compiled with
   | error =>
    rw [fits] at rest
    obtain ⟨rfl,rfl⟩:=rest.of_pure
    exact .refused _ _
   | ok =>
    rw [fits] at rest
    obtain ⟨answer,v,rfl,body⟩:=rest.of_ask
    cases answer with
    | error =>
     obtain ⟨rfl,rfl⟩:=body.of_pure
     exact .refused _ _
    | ok =>
     obtain ⟨_,w,rfl,scan⟩:=body.of_ask
     obtain ⟨x,⟨result,s⟩,y,rfl,scanned,last⟩:=scan.of_bind
     cases result with
     | error =>
      obtain ⟨rfl,rfl⟩:=last.of_pure
      exact .refused _ _
     | ok =>
      obtain ⟨rfl,rfl⟩:=last.of_pure
      refine .scanned compiles (width_pos fits) (maxResults_pos limits)
       (List.mem_cons_of_mem _ List.mem_cons_self) scanned fun _ _ _ => ?_
      rw [List.append_nil]
      refine (mem_of_other ?_).trans ((mem_of_other ?_).trans (mem_of_other ?_)) <;> nofun

lemma length_chunkAt (memory:ReadOracle) (cursor request:ℕ) :
 (chunkAt memory cursor request).length=request := by
 unfold chunkAt
 split
 · split
   · rename_i whole
     exact whole
   · rfl
 · rfl

lemma sum_chunksFrom (memory:ReadOracle)
 (positive:0 < query.width) (regionEnd cursor:ℕ) :
 ((chunksFrom memory query positive regionEnd cursor).map Chunk.length).sum =
  regionEnd-cursor := by
 generalize size : regionEnd-cursor=n
 induction n using Nat.strong_induction_on generalizing cursor with
 | _ n ih =>
  rw [chunksFrom]
  split
  · rw [List.map_nil,List.sum_nil]
    omega
  · have taken : 0 < chunkRequest query (regionEnd-cursor) :=
     chunkRequest_pos positive (by omega)
    have most : chunkRequest query (regionEnd-cursor) ≤ regionEnd-cursor :=
     Nat.min_le_left _ _
    rw [List.map_cons,List.sum_cons,ih _ (by omega) _ rfl,length_chunkAt]
    omega

lemma placed_candidateAt {address:ℕ} {value:List UInt8}
 (found:candidateAt query address value=some candidate) :
 candidate.address=UInt64.ofNat address ∧ candidate.previous=value ∧
  candidate.current=value := by
 unfold candidateAt at found
 split at found
 · cases found
   exact ⟨rfl,rfl,rfl⟩
 · cases found

lemma placed_address (query:CompiledScanQuery) :
 Placed (candidateAt query) (fun candidate=>candidate.address.toNat) (2^64) := by
 intro _ _ _ below found
 dsimp only
 rw [(placed_candidateAt found).1]
 exact UInt64.toNat_ofNat_of_lt' below

lemma regionHits_ascending (memory:ReadOracle)
 (positive:0 < query.width) (region:MemoryRegion) :
 (regionHits memory query positive region).Pairwise
  (fun candidate later=>candidate.address.toNat < later.address.toNat) ∧
  ∀candidate∈regionHits memory query positive region,
   region.base.toNat ≤ candidate.address.toNat ∧
    candidate.address.toNat < region.base.toNat+region.size.toNat := by
 have sum : ((regionChunks memory query positive region).map Chunk.length).sum ≤
  region.size.toNat ∧ region.base.toNat +
   ((regionChunks memory query positive region).map Chunk.length).sum≤2^64 := by
  have lt:=region.base.toNat_lt
  unfold regionChunks
  split
  · rw [List.map_nil,List.sum_nil]
    omega
  · rename_i fits
    rw [UInt64.lt_iff_toNat_lt,toNat_maxUInt64_sub] at fits
    rw [sum_chunksFrom]
    omega
 obtain ⟨ascending,inside⟩:=spanHits_ascending positive (placed_address query) sum.2
 refine ⟨ascending,fun candidate mem => ?_⟩
 have within:=inside candidate mem
 omega

def Apart (regions : List MemoryRegion) : Prop :=
 regions.Pairwise fun region later =>
  region.base.toNat+region.size.toNat ≤ later.base.toNat

lemma allHits_ascending (memory:ReadOracle)
 (positive:0 < query.width) {regions:List MemoryRegion} (apart:Apart regions) :
 ((allowedRegions regions query).flatMap (regionHits memory query positive)).Pairwise
  (fun candidate later=>candidate.address < later.address) := by
 refine (flatMap_ascending (apart.filter _) fun region _ =>
  regionHits_ascending memory positive region).imp fun less => ?_
 exact UInt64.lt_iff_toNat_lt.2 less

/-- A value at a multiple of the alignment, in one span of a region, that matches the query. -/
def Matching (memory : ReadOracle) (query : CompiledScanQuery) (positive : 0 < query.width)
 (region : MemoryRegion) (candidate : ScanCandidate) : Prop :=
 ∃ span∈regionSpans memory query positive region,∃ i,i+query.width ≤ span.2.length ∧
  (span.1+i)%query.query.alignment=0 ∧
  matchInitialValue query ((span.2.drop i).take query.width)=true ∧
  candidate=⟨UInt64.ofNat (span.1+i),(span.2.drop i).take query.width,
   (span.2.drop i).take query.width⟩

lemma candidateAt_eq_some {address:ℕ} {value:List UInt8} :
 candidateAt query address value=some candidate ↔
  address%query.query.alignment=0 ∧ matchInitialValue query value=true ∧
   candidate=⟨UInt64.ofNat address,value,value⟩ := by
 unfold candidateAt
 split
 · rename_i both
   rw [Option.some.injEq]
   exact ⟨fun same=>⟨both.1,both.2,same.symm⟩,fun all=>all.2.2.symm⟩
 · rename_i neither
   exact ⟨nofun,fun all=>absurd ⟨all.1,all.2.1⟩ neither⟩

lemma mem_regionHits {memory:ReadOracle}
 {positive:0 < query.width} {region:MemoryRegion} :
 candidate∈regionHits memory query positive region ↔
  Matching memory query positive region candidate := by
 rw [regionHits,spanHits,List.mem_flatMap]
 refine exists_congr fun _=>and_congr_right fun _=>mem_hits.trans ?_
 exact exists_congr fun i=>and_congr_right fun _=>candidateAt_eq_some

end

def contentOracle (content : UInt64→UInt8) : ReadOracle :=
 fun address length => .ok (bytesAt content address length.toNat)

lemma chunksFrom_content (content:UInt64→UInt8)
 (positive:0 < query.width) (regionEnd cursor:ℕ) :
 ∃ pieces : List (List UInt8),
  chunksFrom (contentOracle content) query positive regionEnd cursor=pieces.map .read ∧
  pieces.flatten=bytesAt content (UInt64.ofNat cursor) (regionEnd-cursor) := by
 generalize size : regionEnd-cursor=n
 induction n using Nat.strong_induction_on generalizing cursor with
 | _ n ih =>
  rw [chunksFrom]
  split
  · obtain rfl : n=0 := by omega
    exact ⟨[],rfl,rfl⟩
  · have taken : 0 < chunkRequest query (regionEnd-cursor) :=
     chunkRequest_pos positive (by omega)
    have most : chunkRequest query (regionEnd-cursor) ≤ regionEnd-cursor :=
     Nat.min_le_left _ _
    have small:chunkRequest query (regionEnd-cursor)<2^32:=by
     unfold chunkRequest
     omega
    generalize chunkRequest query (regionEnd-cursor)=request at taken most small ⊢
    obtain ⟨pieces,chunks,joined⟩:=ih _ (by omega) (cursor+request) rfl
    have chunk : chunkAt (contentOracle content) cursor request =
     .read (bytesAt content (UInt64.ofNat cursor) request) := by
     unfold chunkAt contentOracle
     dsimp only
     rw [UInt32.toNat_ofNat_of_lt' small,if_pos (length_bytesAt _ _ _)]
    refine ⟨bytesAt content (UInt64.ofNat cursor) request::pieces,?_,?_⟩
    · rw [chunk,chunks,List.map_cons]
    · have parts:n=request+(regionEnd-(cursor+request)):=by omega
      rw [List.flatten_cons,joined,parts,bytesAt_add,UInt64.ofNat_add]

def contentHits (content : UInt64→UInt8) (query : CompiledScanQuery) (region : MemoryRegion) :
 List ScanCandidate :=
 if maxUInt64-region.base < region.size then []
 else hits query.width (candidateAt query) region.base.toNat
  (bytesAt content region.base region.size.toNat)

lemma regionHits_content (content:UInt64→UInt8)
 (positive:0 < query.width) (region:MemoryRegion) :
 regionHits (contentOracle content) query positive region =
  contentHits content query region := by
 unfold regionHits regionSpans regionChunks contentHits spanHits
 split
 · rw [spans,List.flatMap_singleton,hits_nil positive]
 · obtain ⟨_,chunks,joined⟩:=chunksFrom_content content positive
    (region.base.toNat+region.size.toNat) region.base.toNat
   rw [chunks,spans_read,List.flatMap_singleton,List.nil_append,joined,UInt64.ofNat_toNat,
    Nat.add_sub_cancel_left]

/-- The chunk size of a query does not show in what there is to find. -/
lemma contentHits_chunkSize (content:UInt64→UInt8) (query:CompiledScanQuery)
 (chunkSize:ℕ) :
 contentHits content { query with query := { query.query with chunkSize } } =
  contentHits content query := rfl

lemma allowedRegions_chunkSize (regions:List MemoryRegion) (query:CompiledScanQuery)
 (chunkSize:ℕ) :
 allowedRegions regions { query with query := { query.query with chunkSize } } =
  allowedRegions regions query := rfl

section Exact
variable {library:FloatingText} {query:ScanQuery} {scanner after:MemoryScanner}
 {summary:ScanSummary} {t:List ScanEvent} {regions:List MemoryRegion}

section
variable {content:UInt64→UInt8}

structure Found (library : FloatingText) (query : ScanQuery) (regions : List MemoryRegion)
 (t : List ScanEvent) (summary : ScanSummary) (after : MemoryScanner)
 (compiled : CompiledScanQuery) : Prop where
 compiles : compileScanQuery library query=.ok compiled
 width : 0 < compiled.width
 candidates : ∀ memory,Agrees memory t → after.candidates =
  ((allowedRegions regions compiled).flatMap (regionHits memory compiled width)).take
   query.maxResults
 truncated : ∀ memory,Agrees memory t → summary.truncated=decide (query.maxResults ≤
  ((allowedRegions regions compiled).flatMap (regionHits memory compiled width)).length)
 count : summary.resultCount=after.candidates.length
 fitting : (∃ memory,Agrees memory t) → summary.truncated=false →
  ∀ region∈allowedRegions regions compiled,¬ maxUInt64-region.base < region.size
 whole : (∃ memory,Agrees memory t) → after.lastReadReport.isPartial=false→Whole t

lemma found_of_firstScan (ran:(firstScan library query scanner).Exec t (.ok summary,after))
 (listed:∀answer : Result (List MemoryRegion),
  (⟨.regions,answer⟩ : ScanEvent)∈t → answer=.ok regions) :
 ∃ compiled,Found library query regions t summary after compiled := by
 generalize done : ((.ok summary,after) : Result ScanSummary×MemoryScanner)=out at ran
 cases firstScan_exit ran with
 | refused => cases done
 | @scanned compiled found u s compiles width room listed' ran' reads =>
  cases done
  obtain rfl : found=regions := Except.ok.inj (listed _ listed')
  have stride:=alignment_pos compiles width
  have limit:=maxResults_compiled compiles
  have opened : Open compiled.query.maxResults
   { progress := startProgress (allowedRegions found compiled) } :=
   ⟨rfl,by rw [limit];exact room⟩
  have scan {memory:ReadOracle} (agrees:Agrees memory t) :=
   scanRegions_exec width stride opened ran' fun address length answer mem =>
    agrees address length answer ((reads address length answer).2 mem)
  refine ⟨compiled,compiles,width,fun _ agrees => ?_,fun _ agrees => ?_,rfl,?_,?_⟩
  · rw [←limit]
    exact (scan agrees).1.collected.output
  · rw [←limit]
    exact (scan agrees).1.collected.truncated
  · rintro ⟨_,agrees⟩
    exact (scan agrees).2
  · rintro ⟨_,agrees⟩ clean address length answer mem
    exact ((scan agrees).1.whole clean).2 address length answer
     ((reads address length answer).1 mem)

def Shows (content : UInt64→UInt8) (t : List ScanEvent) : Prop :=
 ∀ (address : UInt64) (length : UInt32) (data : List UInt8),
  (⟨.read address length, .ok data⟩ : ScanEvent)∈t → data=bytesAt content address length.toNat

lemma agrees_of_whole (shown:Shows content t) (whole:Whole t) :
 Agrees (contentOracle content) t := by
 intro address length answer mem
 cases answer with
 | error => cases whole address length _ mem
 | ok data => exact congrArg Except.ok (shown address length data mem)

lemma isPartial_of_complete {report:ScanReadReport}
 (complete:classifyScanPublication true report=.complete) : report.isPartial=false := by
 unfold classifyScanPublication at complete
 rw [if_neg (by decide)] at complete
 split at complete
 · cases complete
 · rename_i incomplete
   simp only [scanReadReportIsIncomplete,Bool.or_eq_true,not_or,Bool.not_eq_true] at incomplete
   exact incomplete.1.1.1.1.1.1

lemma flatMap_regionHits_content (content:UInt64→UInt8) (positive:0 < compiled.width)
 (regions:List MemoryRegion) :
 regions.flatMap (regionHits (contentOracle content) compiled positive) =
  regions.flatMap (contentHits content compiled) :=
 congrArg (regions.flatMap ·) (funext (regionHits_content content positive))

lemma Found.candidates_content (found:Found library query regions t summary after compiled)
 (agrees:Agrees (contentOracle content) t) :
 after.candidates =
  ((allowedRegions regions compiled).flatMap (contentHits content compiled)).take
   query.maxResults := by
 rw [found.candidates _ agrees,flatMap_regionHits_content]

lemma mem_contentHits {region:MemoryRegion} (fits:¬maxUInt64-region.base < region.size)
 {address:ℕ} (low:region.base.toNat ≤ address)
 (high:address+compiled.width ≤ region.base.toNat+region.size.toNat)
 (aligned:address%compiled.query.alignment=0) (matched:matchInitialValue compiled
  (bytesAt content (UInt64.ofNat address) compiled.width)=true) :
 ∃ value,⟨UInt64.ofNat address,value,value⟩∈contentHits content compiled region := by
 obtain ⟨i,rfl⟩:=Nat.exists_eq_add_of_le low
 refine ⟨bytesAt content (UInt64.ofNat (region.base.toNat+i)) compiled.width,?_⟩
 rw [contentHits,if_neg fits,mem_hits]
 refine ⟨i,by rw [length_bytesAt];omega,?_⟩
 rw [take_drop_bytesAt _ _ (by omega)]
 have place:region.base+UInt64.ofNat i=UInt64.ofNat (region.base.toNat+i):=by
  rw [UInt64.ofNat_add,UInt64.ofNat_toNat]
 rw [place]
 exact candidateAt_eq_some.2 ⟨aligned,matched,rfl⟩

end

/-- The candidates of a first scan are the first of all matching values, in the order of their
 addresses; with every read successful the chunk size does not matter, and a complete scan that
 was not cut off has missed nothing. -/
theorem firstScan_exact {memory : ReadOracle}
 (ran : (firstScan library query scanner).Exec t (.ok summary,after))
 (answers : Answers regions memory t) (apart : Apart regions) :
 ∃ (compiled : CompiledScanQuery) (width : 0 < compiled.width),
  compileScanQuery library query=.ok compiled ∧
  (∃ all : List ScanCandidate,
   all.Pairwise (fun candidate later=>candidate.address < later.address) ∧
   (∀ candidate,candidate∈all ↔ ∃ region∈regions,
    regionAllowed region compiled.query=true ∧
     Matching memory compiled width region candidate) ∧
   after.candidates=all.take query.maxResults ∧
   (summary.truncated=true ↔ query.maxResults ≤ all.length)) ∧
  summary.resultCount=after.candidates.length ∧
  (∀ content,Agrees (contentOracle content) t →
   ∀ (chunkSize : ℕ) (scanner' after' : MemoryScanner) (summary' : ScanSummary)
    (t' : List ScanEvent),
    (firstScan library { query with chunkSize } scanner').Exec t' (.ok summary',after') →
    Answers regions (contentOracle content) t' → after'.candidates=after.candidates) ∧
  (classifyScanPublication true after.lastReadReport=.complete →
   summary.truncated=false → ∀ content,Shows content t →
   ∀ region∈regions,regionAllowed region compiled.query=true →
   ∀ address,region.base.toNat ≤ address →
    address+compiled.width ≤ region.base.toNat+region.size.toNat →
    address%compiled.query.alignment=0 →
    matchInitialValue compiled (bytesAt content (UInt64.ofNat address) compiled.width)=true →
    ∃ candidate∈after.candidates,candidate.address.toNat=address) := by
 obtain ⟨compiled,found⟩ := found_of_firstScan ran answers.regions
 refine ⟨compiled,found.width,found.compiles,
  ⟨_,allHits_ascending memory found.width apart,?_,found.candidates memory answers.reads,?_⟩,
  found.count,?_,?_⟩
 · intro _
   rw [List.mem_flatMap,allowedRegions]
   refine exists_congr fun _ => ?_
   rw [List.mem_filter,and_assoc,mem_regionHits]
 · rw [found.truncated memory answers.reads,decide_eq_true_iff]
 · intro _ agrees _ _ _ _ _ ran' answers'
   obtain ⟨_,found'⟩ := found_of_firstScan ran' answers'.regions
   rw [found.candidates_content agrees,found'.candidates_content answers'.reads]
   obtain ⟨_,rfl⟩ := compileScanQuery_chunkSize found.compiles found'.compiles
   rw [contentHits_chunkSize,allowedRegions_chunkSize]
 · intro complete going content shown region listed allowed address low high aligned matched
   have some : ∃ memory,Agrees memory t := ⟨memory,answers.reads⟩
   have agrees := agrees_of_whole shown (found.whole some (isPartial_of_complete complete))
   have mem : region∈allowedRegions regions compiled := List.mem_filter.2 ⟨listed,allowed⟩
   have fits := found.fitting some going region mem
   obtain ⟨value,hit⟩ := mem_contentHits fits low high aligned matched
   have short : ((allowedRegions regions compiled).flatMap
    (contentHits content compiled)).length ≤ query.maxResults := by
    have limit := found.truncated _ agrees
    rw [going,flatMap_regionHits_content] at limit
    exact Nat.le_of_not_le (of_decide_eq_false limit.symm)
   have listed' : ⟨UInt64.ofNat address,value,value⟩∈after.candidates := by
    rw [found.candidates_content agrees,List.take_of_length_le short]
    exact List.mem_flatMap.2 ⟨region,mem,hit⟩
   refine ⟨_,listed',UInt64.toNat_ofNat_of_lt' ?_⟩
   rw [UInt64.lt_iff_toNat_lt,toNat_maxUInt64_sub] at fits
   change _<2^64
   have positive := found.width
   omega

end Exact

/-- Two regions, of three and four bytes. -/
def sampleRegions : List MemoryRegion :=
 [{ base := 0x1000,size := 3,committed := true,readable := true },
  { base := 0x2000,size := 4,committed := true,readable := true }]

/-- The number seven in two bytes, at any address, read two bytes at a time. -/
def sampleQuery : ScanQuery where
 type := .uint16
 value := [0x37]
 alignment := 1
 maxResults := 10
 chunkSize := 2

def sampleContent (address : UInt64) : UInt8 :=
 if address=0x1001 ∨ address=0x2001 then 7 else 0

def sampleProcess (content : UInt64→UInt8) (stop : Bool) : (c : ScanCall)→ScanAnswer c
 | .isOpen => true
 | .regions => (.ok sampleRegions : Result (List MemoryRegion))
 | .read address length => contentOracle content address length
 | .stopRequested => stop
 | .progress _ => ()

def sampleScan (chunkSize : ℕ) : ScanM (Result ScanSummary×MemoryScanner) :=
 firstScan sampleLibrary { sampleQuery with chunkSize } {}

/-- Both values lie across a boundary of the chunks; larger chunks find the same. -/
theorem sampleFirstScan_exact :
 ∃ t t' after after',(sampleScan 2).Exec t (.ok ⟨2,7,false⟩,after) ∧
  (sampleScan 16).Exec t' (.ok ⟨2,7,false⟩,after') ∧ after'.candidates=after.candidates ∧
  (∃ candidate∈after.candidates,candidate.address.toNat=0x1001) ∧
  ∃ candidate∈after.candidates,candidate.address.toNat=0x2001 := by
 have answers {t : List ScanEvent}
  (answered : ∀ e∈t,e.answer=sampleProcess sampleContent false e.call) :
  Answers sampleRegions (contentOracle sampleContent) t :=
  ⟨fun _ mem=>answered _ mem,fun _ _ _ mem=>answered _ mem⟩
 have ends (chunkSize : ℕ) (two : chunkSize∈[2,16]) :
  ((sampleScan chunkSize).run (sampleProcess sampleContent false)).1=.ok ⟨2,7,false⟩ ∧
   classifyScanPublication true ((sampleScan chunkSize).run
    (sampleProcess sampleContent false)).2.lastReadReport=.complete := by
  revert chunkSize
  decide +kernel
 obtain ⟨t,ran,answered⟩ :=
  Prog.exec_run (sampleProcess sampleContent false) (sampleScan 2)
 obtain ⟨t',ran',answered'⟩ :=
  Prog.exec_run (sampleProcess sampleContent false) (sampleScan 16)
 obtain ⟨ok,complete⟩ := ends 2 (by decide)
 obtain ⟨ok',-⟩ := ends 16 (by decide)
 generalize Prog.run _ (sampleScan 2)=out at ran ok complete
 generalize Prog.run _ (sampleScan 16)=out' at ran' ok'
 obtain ⟨r,after⟩ := out
 obtain ⟨r',after'⟩ := out'
 cases ok
 cases ok'
 have given := answers answered
 have shown : Shows sampleContent t := fun address length _ mem =>
  Except.ok.inj (given.reads address length _ mem)
 obtain ⟨_,_,compiles,-,-,same,missed⟩ :=
  firstScan_exact ran given (by unfold Apart sampleRegions;decide)
 cases compiles
 have found := missed complete rfl _ shown
 refine ⟨t,t',after,after',ran,ran',same _ given.reads 16 _ _ _ _ ran' (answers answered'),?_,?_⟩
 · exact found _ List.mem_cons_self rfl 0x1001 (by decide) (by decide) (by decide) (by decide)
 · exact found _ (List.mem_cons_of_mem _ List.mem_cons_self) rfl 0x2001 (by decide) (by decide)
    (by decide) (by decide)

section Unknown
variable {library:FloatingText} {query:ScanQuery} {regions:List MemoryRegion}

lemma utf8ToUtf16_ne_nil {text:List UInt8} {units:List UInt16} (filled:text≠[])
 (converted:utf8ToUtf16 text=.ok units) : units≠[] := by
 cases text with
 | nil => exact absurd rfl filled
 | cons first rest =>
  simp only [utf8ToUtf16,List.length_cons,utf8Loop] at converted
  split at converted
  · cases converted
  split at converted
  · cases converted
  split at converted
  · cases converted
  split at converted
  · cases converted
  obtain ⟨later,-,same⟩:=Fallible.exists_of_bind converted
  cases same
  rw [utf16Units]
  split <;> simp

lemma encodeValue_text_ne_nil {type:ScanValueType} {text first:List UInt8}
 {hexadecimal:Bool} (kind:type.isText=true) (filled:text≠[])
 (encoded:encodeValue library type text hexadecimal=.ok first) : first≠[] := by
 have encoded:encodeText type text=.ok first:=by
  cases type <;> first | exact encoded | cases kind
 rw [encodeText] at encoded
 split at encoded
 · cases encoded
 split at encoded
 · cases encoded
   exact filled
 split at encoded
 · cases encoded
 rename_i units converted
 split at encoded
 · cases encoded
 cases encoded
 obtain ⟨unit,later,rfl⟩:=List.exists_cons_of_ne_nil (utf8ToUtf16_ne_nil filled converted)
 simp [littleEndian]

/-- A query for a text has the width of its value. -/
lemma width_of_text (compiles:compileScanQuery library query=.ok compiled)
 (unknown:query.comparison=.unknownInitial) (text:query.type.isText=true) :
 compiled.query.type=query.type ∧ compiled.query.comparison=.unknownInitial ∧
  0 < compiled.width := by
 obtain ⟨operands,ok,rfl⟩:=compileScanQuery_ok compiles
 refine ⟨rfl,unknown,?_⟩
 have bytes:¬query.type=.byteArray:=fun same=>by simp [same,ScanValueType.isText] at text
 have free:fixedValueWidth query.type=0:=by
  revert text
  cases query.type <;> simp [ScanValueType.isText,fixedValueWidth]
 rw [compileOperands,if_neg bytes,if_pos (.inl unknown),if_neg (by simp [free])] at ok
 split at ok
 · cases ok
 rename_i filled
 split at ok
 · cases ok
 rename_i first encoded
 cases ok
 refine List.length_pos_iff.2 (encodeValue_text_ne_nil text (by simpa using filled) encoded)

/-- Texts that start with different letters are not both equal to a third. -/
lemma textEqual_heads {type:ScanValueType} {rest value:List UInt8} {caseSensitive:Bool}
 (zero:textEqual type (0::rest) value caseSensitive=true)
 (one:textEqual type (1::rest) value caseSensitive=true) : False := by
 unfold textEqual at zero one
 rw [List.length_cons] at zero one
 split at zero
 · rename_i exact
   rw [if_pos exact] at one
   have same:=(beq_iff_eq.1 zero).trans (beq_iff_eq.1 one).symm
   simp at same
 rename_i folded
 rw [if_neg folded] at one
 split at zero
 · rename_i utf8
   rw [if_pos utf8] at one
   have same:=(beq_iff_eq.1 zero).trans (beq_iff_eq.1 one).symm
   exact absurd (List.cons.inj same).1 (by decide)
 rename_i utf8
 rw [if_neg utf8] at one
 split at zero
 · cases zero
 rename_i units
 rw [if_neg units] at one
 have same:=(beq_iff_eq.1 zero).trans (beq_iff_eq.1 one).symm
 cases rest with
 | nil => simp at units
 | cons high rest =>
  have heads:=(List.cons.inj same).1
  simp only [foldUnit,UInt8.reduceToNat] at heads
  split_ifs at heads <;> omega

lemma not_text_of_accepts (compiles:compileScanQuery library query=.ok compiled)
 (unknown:query.comparison=.unknownInitial)
 (accepts:∀current,current.length=compiled.width → matchInitialValue compiled current=true) :
 query.type.isText=false := by
 by_contra text
 rw [Bool.not_eq_false] at text
 obtain ⟨type,comparison,positive⟩:=width_of_text compiles unknown text
 have equal {current:List UInt8} (long:current.length=compiled.width) :
  textEqual query.type current compiled.first compiled.query.caseSensitive=true := by
  have accepted:=accepts current long
  have bytes:¬query.type=.byteArray:=fun same=>by simp [same,ScanValueType.isText] at text
  simpa [matchInitialValue,long,type,comparison,bytes,text,List.take_of_length_le] using accepted
 have long (letter:UInt8) : (letter::List.replicate (compiled.width-1) 0).length =
  compiled.width := by
  simp
  omega
 exact textEqual_heads (equal (long 0)) (equal (long 1))

lemma accepts_of_not_text (compiles:compileScanQuery library query=.ok compiled)
 (unknown:query.comparison=.unknownInitial) (plain:query.type.isText=false)
 {current:List UInt8} (long:compiled.width ≤ current.length) :
 matchInitialValue compiled current=true := by
 obtain ⟨operands,ok,rfl⟩:=compileScanQuery_ok compiles
 have bytes:¬query.type=.byteArray:=by
  intro same
  rw [compileOperands,if_pos same,if_pos (by simp [unknown])] at ok
  cases ok
 unfold matchInitialValue
 dsimp only at long ⊢
 rw [if_neg (by omega),if_neg bytes,if_neg (by simp [plain]),unknown]
 rfl

/-- Every aligned place of a region is found, and nothing else. -/
lemma mem_contentHits_iff {content:UInt64→UInt8} {region:MemoryRegion}
 (positive:0 < compiled.width)
 (accepts:∀current,current.length=compiled.width → matchInitialValue compiled current=true)
 {address:ℕ} :
 (∃ candidate∈contentHits content compiled region,candidate.address.toNat=address) ↔
  region.base.toNat+region.size.toNat<2^64 ∧ region.base.toNat ≤ address ∧
   address+compiled.width ≤ region.base.toNat+region.size.toNat ∧
   address%compiled.query.alignment=0 := by
 have fits_iff : ¬maxUInt64-region.base < region.size ↔
  region.base.toNat+region.size.toNat<2^64 := by
  rw [UInt64.lt_iff_toNat_lt,toNat_maxUInt64_sub]
  have := region.base.toNat_lt
  omega
 constructor
 · rintro ⟨candidate,hit,rfl⟩
   rw [contentHits] at hit
   split at hit
   · cases hit
   rename_i fits
   have small:=fits_iff.1 fits
   obtain ⟨i,inside,found⟩:=mem_hits.1 hit
   obtain ⟨aligned,-,rfl⟩:=candidateAt_eq_some.1 found
   rw [length_bytesAt] at inside
   have place : (UInt64.ofNat (region.base.toNat+i)).toNat=region.base.toNat+i :=
    UInt64.toNat_ofNat_of_lt' (by change _<2^64;omega)
   rw [place]
   exact ⟨small,by omega,by omega,aligned⟩
 · rintro ⟨small,low,high,aligned⟩
   obtain ⟨value,hit⟩:=mem_contentHits (fits_iff.2 small) low high aligned
    (accepts _ (length_bytesAt content _ _))
   exact ⟨_,hit,UInt64.toNat_ofNat_of_lt' (by change _<2^64;omega)⟩

/-- What a first scan for an unknown value keeps: the first places, up to the limit, of all
 aligned ones at which a value fits in an allowed region. -/
def KeepsEveryPlace (compiled : CompiledScanQuery) (regions : List MemoryRegion) (limit : ℕ)
 (candidates : List ScanCandidate) : Prop :=
 ∃ all : List ScanCandidate,
  all.Pairwise (fun candidate later=>candidate.address < later.address) ∧
  candidates=all.take limit ∧
  ∀ address,(∃ candidate∈all,candidate.address.toNat=address) ↔
   ∃ region∈regions,regionAllowed region compiled.query=true ∧
    region.base.toNat+region.size.toNat<2^64 ∧ region.base.toNat ≤ address ∧
    address+compiled.width ≤ region.base.toNat+region.size.toNat ∧
    address%compiled.query.alignment=0

lemma firstScan_keeps {scanner after:MemoryScanner} {summary:ScanSummary}
 {t:List ScanEvent} {content:UInt64→UInt8} (compiles:compileScanQuery library query=.ok compiled)
 (accepts:∀current,current.length=compiled.width → matchInitialValue compiled current=true)
 (ran:(firstScan library query scanner).Exec t (.ok summary,after))
 (answers:Answers regions (contentOracle content) t) (apart:Apart regions) :
 KeepsEveryPlace compiled regions query.maxResults after.candidates := by
 obtain ⟨compiled',found⟩:=found_of_firstScan ran answers.regions
 obtain rfl : compiled=compiled' := Except.ok.inj (compiles.symm.trans found.compiles)
 refine ⟨_,allHits_ascending (contentOracle content) found.width apart,
  found.candidates _ answers.reads,fun address => ?_⟩
 rw [flatMap_regionHits_content]
 simp only [List.mem_flatMap,allowedRegions,List.mem_filter]
 constructor
 · rintro ⟨candidate,⟨region,⟨listed,allowed⟩,hit⟩,rfl⟩
   exact ⟨region,listed,allowed,(mem_contentHits_iff found.width accepts).1 ⟨_,hit,rfl⟩⟩
 · rintro ⟨region,listed,allowed,place⟩
   obtain ⟨candidate,hit,rfl⟩:=(mem_contentHits_iff found.width accepts).2 place
   exact ⟨candidate,⟨region,⟨listed,allowed⟩,hit⟩,rfl⟩

/-- A scan for an unknown value keeps every place exactly for the types that are not texts. -/
theorem unknownInitial_keeps_iff (compiles : compileScanQuery library query=.ok compiled)
 (unknown : query.comparison=.unknownInitial) :
 ((∀ current,current.length=compiled.width → matchInitialValue compiled current=true) ∧
  ∀ (scanner after : MemoryScanner) (summary : ScanSummary) (t : List ScanEvent)
   (regions : List MemoryRegion) (content : UInt64→UInt8),
   (firstScan library query scanner).Exec t (.ok summary,after) →
   Answers regions (contentOracle content) t→Apart regions →
   KeepsEveryPlace compiled regions query.maxResults after.candidates) ↔
  query.type.isText=false := by
 constructor
 · rintro ⟨accepts,-⟩
   exact not_text_of_accepts compiles unknown accepts
 · intro plain
   have accepts (current : List UInt8) (long : current.length=compiled.width) :
    matchInitialValue compiled current=true :=
    accepts_of_not_text compiles unknown plain long.ge
   exact ⟨accepts,fun _ _ _ _ _ _ ran answers apart =>
    firstScan_keeps compiles accepts ran answers apart⟩

end Unknown

def unknownQuery (type : ScanValueType) : ScanQuery where
 type := type
 comparison := .unknownInitial
 value := [0x41]

/-- Every byte is kept of a scan for an unknown number. -/
theorem unknownNumber_kept : ∃ compiled,
 compileScanQuery sampleLibrary (unknownQuery .int8)=.ok compiled ∧
  matchInitialValue compiled [0x42]=true :=
 have compiles : compileScanQuery sampleLibrary (unknownQuery .int8)=.ok _ := rfl
 ⟨_,compiles,((unknownInitial_keeps_iff compiles rfl).2 rfl).1 [0x42] rfl⟩

/-- For a text the value that was to give the width is the only one that is found. -/
theorem unknownText_lost : ∃ compiled,
 compileScanQuery sampleLibrary (unknownQuery .utf8)=.ok compiled ∧
  compiled.width=1 ∧ matchInitialValue compiled [0x42]=false :=
 ⟨_,rfl,rfl,by decide⟩

end MemoryScanner
end KDbg
