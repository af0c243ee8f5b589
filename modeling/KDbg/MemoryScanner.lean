import KDbg.Interaction
import KDbg.ValueCodec
set_option autoImplicit false
/-!
# The memory scanner

`MemoryScanner::FirstScan`. The scanner asks for the regions and the bytes of a
process and for its stop token, and tells its progress. Sizes and positions are
natural numbers: a region whose end does not fit 64 bits is refused before any
of its bytes is read.
-/
namespace KDbg
open Interaction

structure MemoryRegion where
 base : UInt64 := 0
 size : UInt64 := 0
 type : UInt32 := 0
 committed : Bool := false
 readable : Bool := false
 writable : Bool := false
 executable : Bool := false
 guard : Bool := false
deriving DecidableEq,Repr

structure ScanCandidate where
 address : UInt64 := 0
 previous : List UInt8 := []
 current : List UInt8 := []
deriving DecidableEq,Repr

structure ScanProgress where
 phase : String := ""
 bytesTotal : UInt64 := 0
 bytesScanned : UInt64 := 0
 regionsTotal : ℕ := 0
 regionsScanned : ℕ := 0
 candidates : ℕ := 0
deriving DecidableEq,Repr

structure ScanSummary where
 resultCount : ℕ := 0
 bytesScanned : UInt64 := 0
 truncated : Bool := false
deriving DecidableEq,Repr

structure ScanReadReport where
 itemsAttempted : UInt64 := 0
 itemsCompleted : UInt64 := 0
 itemsSkipped : UInt64 := 0
 requestedBytes : UInt64 := 0
 completedBytes : UInt64 := 0
 failedReads : UInt64 := 0
 shortReads : UInt64 := 0
 isPartial : Bool := false
 cancelled : Bool := false
 firstError : Error := {}
deriving DecidableEq,Repr

inductive ScanCall where
 | isOpen
 | regions
 | read (address : UInt64) (length : UInt32)
 | stopRequested
 | progress (state : ScanProgress)

def ScanAnswer : ScanCall→Type
 | .isOpen => Bool
 | .regions => Result (List MemoryRegion)
 | .read _ _ => Result (List UInt8)
 | .stopRequested => Bool
 | .progress _ => Unit

abbrev ScanEvent := Event ScanCall ScanAnswer
abbrev ScanM := Prog ScanCall ScanAnswer

structure MemoryScanner where
 candidates : List ScanCandidate := []
 activeQuery : CompiledScanQuery := { query := {} }
 hasScan : Bool := false
 generation : UInt64 := 0
 lastReadReport : ScanReadReport := {}

namespace MemoryScanner

def kMaxResults : ℕ := 2000000
def kMaxChunkBytes : ℕ := 16*1024*1024
def kMaxQueryTextBytes : ℕ := 4*1024*1024
def kMaxValueWidth : ℕ := 1024*1024
def kMaxCandidateBytes : ℕ := 512*1024*1024
def kProgressUpdateBytes : UInt64 := 4*1024*1024

def isOpen : ScanM Bool := Prog.ask ScanCall.isOpen

def regions : ScanM (Result (List MemoryRegion)) := Prog.ask ScanCall.regions

def read (address : UInt64) (length : UInt32) : ScanM (Result (List UInt8)) :=
 Prog.ask (ScanCall.read address length)

def stopRequested : ScanM Bool := Prog.ask ScanCall.stopRequested

def reportProgress (state : ScanProgress) : ScanM Unit := Prog.ask (ScanCall.progress state)

def saturatingAdd (total amount : UInt64) : UInt64 :=
 if maxUInt64-total < amount then maxUInt64 else total+amount

def addProgressBytes (total : UInt64) (amount : ℕ) : UInt64 :=
 saturatingAdd total (UInt64.ofNat amount)

def addReportBytes (total amount : UInt64) : UInt64 := saturatingAdd total amount

def nextProgressBoundary (current : UInt64) : UInt64 := saturatingAdd current kProgressUpdateBytes

def preserveFirstError (report : ScanReadReport) (error : Error) : ScanReadReport :=
 if report.firstError.code=.none then { report with firstError := error } else report

def cancelledError (operation : String) : Error :=
 makeError .cancelled "Memory scan was cancelled" operation

def markCancelled (report : ScanReadReport) (operation : String) : ScanReadReport :=
 preserveFirstError { report with cancelled := true,isPartial := true }
  (cancelledError operation)

def validateQueryLimits (query : ScanQuery) : Result Unit :=
 if query.maxResults=0 ∨ kMaxResults < query.maxResults then
  .error (makeError .limitReached "Scan result limit is zero or exceeds the core cap"
   "MemoryScanner::ValidateQueryLimits" 0 (UInt64.ofNat kMaxResults)
   (UInt64.ofNat query.maxResults))
 else if query.chunkSize=0 ∨ kMaxChunkBytes < query.chunkSize then
  .error (makeError .limitReached "Scan chunk size is zero or exceeds the core cap"
   "MemoryScanner::ValidateQueryLimits" 0 (UInt64.ofNat kMaxChunkBytes)
   (UInt64.ofNat query.chunkSize))
 else if kMaxQueryTextBytes < query.value.length ∨
  kMaxQueryTextBytes < query.secondValue.length then
  .error (makeError .limitReached "Scan query text exceeds the core cap"
   "MemoryScanner::ValidateQueryLimits")
 else .ok ()

def validateCompiledLimits (query : CompiledScanQuery) : Result Unit :=
 if query.width=0 ∨ kMaxValueWidth < query.width then
  .error (makeError .limitReached "Scan value width is zero or exceeds the core cap"
   "MemoryScanner::ValidateCompiledLimits" 0 (UInt64.ofNat kMaxValueWidth)
   (UInt64.ofNat query.width))
 else if kMaxCandidateBytes/(query.width*2) < query.query.maxResults then
  .error (makeError .limitReached "Scan candidate payload budget exceeds the core cap"
   "MemoryScanner::ValidateCompiledLimits")
 else .ok ()

def regionAllowed (region : MemoryRegion) (query : ScanQuery) : Bool :=
 if !region.committed || !region.readable || region.guard || region.size == 0 then false
 else if query.requireWritable && !region.writable then false
 else if !query.includeExecutable && region.executable then false
 else if region.type=0x00020000 ∧ !query.scanPrivate then false
 else if region.type=0x00040000 ∧ !query.scanMapped then false
 else if region.type=0x01000000 ∧ !query.scanImage then false
 else true

/-- The variables of a scan that `ScanRegion` changes. -/
structure Scan where
 output : List ScanCandidate := []
 progress : ScanProgress := {}
 report : ScanReadReport := {}
 truncated : Bool := false
deriving DecidableEq,Repr

namespace Scan

def cancel (s : Scan) (operation : String) : Scan :=
 { s with report := markCancelled s.report operation }

def attempted (s : Scan) (request : ℕ) : Scan :=
 { s with report := { s.report with
  itemsAttempted := s.report.itemsAttempted+1
  requestedBytes := addReportBytes s.report.requestedBytes (UInt64.ofNat request) } }

def failedRead (s : Scan) (error : Error) : Scan :=
 { s with report := preserveFirstError { s.report with
  itemsSkipped := s.report.itemsSkipped+1
  failedReads := s.report.failedReads+1
  isPartial := true } error }

def received (s : Scan) (size : ℕ) : Scan :=
 { s with
   progress := { s.progress with bytesScanned := addProgressBytes s.progress.bytesScanned size }
   report := { s.report with
    completedBytes := addReportBytes s.report.completedBytes (UInt64.ofNat size) } }

def shortRead (s : Scan) (error : Error) : Scan :=
 { s with report := preserveFirstError { s.report with
  itemsSkipped := s.report.itemsSkipped+1
  shortReads := s.report.shortReads+1
  isPartial := true } error }

def completed (s : Scan) : Scan :=
 { s with report := { s.report with itemsCompleted := s.report.itemsCompleted+1 } }

def counted (s : Scan) : Scan :=
 { s with progress := { s.progress with candidates := s.output.length } }

def regionDone (s : Scan) : Scan :=
 { s with progress := { s.progress with
  regionsScanned := s.progress.regionsScanned+1
  candidates := s.output.length } }

end Scan

def visitOffset (query : CompiledScanQuery) (regionBase regionEnd windowBase : ℕ)
 (carry window : List UInt8) (offset : ℕ) (s : Scan) : Scan :=
 let address := windowBase+offset
 if address < regionBase ∨ regionEnd ≤ address ∨ regionEnd-address < query.width then s
 else if carry≠[] ∧ offset+query.width ≤ carry.length then s
 else
  let value := (window.drop offset).take query.width
  if !matchInitialValue query value then s
  else
   let output := s.output++[⟨UInt64.ofNat address,value,value⟩]
   { s with output,truncated := s.truncated || decide (query.query.maxResults ≤ output.length) }

/-- The stop token is asked once in 1024 turns of the loop. -/
def pollStop (counter : ℕ) : ScanM Bool :=
 if counter%0x400=0 then stopRequested else pure false

/-- The loop over the offsets of a window. A compiled query has an alignment. -/
def scanOffsets (query : CompiledScanQuery) (regionBase regionEnd windowBase : ℕ)
 (carry window : List UInt8) (offset counter : ℕ) (s : Scan) : ScanM (Result Unit×Scan) :=
 if window.length < offset+query.width ∨ query.query.alignment=0 then return (.ok (),s)
 else do
  if ← pollStop counter then
   return (.error (cancelledError "MemoryScanner::ScanRegion"),
    s.cancel "MemoryScanner::ScanRegion")
  else
   let s := visitOffset query regionBase regionEnd windowBase carry window offset s
   if s.truncated then return (.ok (),s)
   else
    scanOffsets query regionBase regionEnd windowBase carry window
     (offset+query.query.alignment) (counter+1) s
termination_by window.length+1-offset
decreasing_by omega

def scanWindow (query : CompiledScanQuery) (regionBase regionEnd windowBase : ℕ)
 (carry window : List UInt8) (s : Scan) : ScanM (Result Unit×Scan) :=
 if window.length < query.width then return (.ok (),s)
 else
  let remainder := windowBase%query.query.alignment
  let first := if remainder=0 then 0 else query.query.alignment-remainder
  scanOffsets query regionBase regionEnd windowBase carry window first 0 s

/-- The report of the progress after a chunk, if one is due. -/
def reportDue (nextReport : UInt64) (s : Scan) : ScanM (UInt64×Scan) := do
 if nextReport ≤ s.progress.bytesScanned then
  reportProgress s.counted.progress
  return (nextProgressBoundary s.progress.bytesScanned,s.counted)
 else return (nextReport,s)

def shortReadError (request size : ℕ) : Error :=
 makeError .shortRead "Memory scan returned a short read" "MemoryScanner::ScanRegion" 0
  (UInt64.ofNat request) (UInt64.ofNat size)

/-- The bytes that the loop over the chunks asks for at a cursor. -/
def chunkRequest (query : CompiledScanQuery) (remaining : ℕ) : ℕ :=
 min remaining (min (max query.query.chunkSize query.width) 0xFFFFFFFF)

lemma chunkRequest_pos {query:CompiledScanQuery} (positive:0 < query.width) {remaining:ℕ}
 (left:0 < remaining) : 0 < chunkRequest query remaining := by
 unfold chunkRequest
 omega

def scanChunks (query : CompiledScanQuery) (positive : 0 < query.width)
 (regionBase regionEnd cursor : ℕ) (carry : List UInt8) (nextReport : UInt64) (s : Scan) :
 ScanM (Result Unit×Scan) :=
 if regionEnd ≤ cursor then return (.ok (),s)
 else do
  if ← stopRequested then
   return (.error (cancelledError "MemoryScanner::ScanRegion"),
    s.cancel "MemoryScanner::ScanRegion")
  else
   let request := chunkRequest query (regionEnd-cursor)
   let s := s.attempted request
   match ← read (UInt64.ofNat cursor) (UInt32.ofNat request) with
   | .error error =>
    let (nextReport,s) ← reportDue nextReport (s.failedRead error)
    scanChunks query positive regionBase regionEnd (cursor+request) [] nextReport s
   | .ok data =>
    let s := s.received data.length
    if data.length≠request then
     return (.error (shortReadError request data.length),
      s.shortRead (shortReadError request data.length))
    else
     let window := carry++data
     match ← scanWindow query regionBase regionEnd (cursor-carry.length) carry window
      s.completed with
     | (.error error,s) => return (.error error,s)
     | (.ok _,s) =>
      if s.truncated then return (.ok (),s)
      else
       let carryCount := min (if 1 < query.width then query.width-1 else 0) window.length
       let (nextReport,s) ← reportDue nextReport s
       scanChunks query positive regionBase regionEnd (cursor+request)
        (window.drop (window.length-carryCount)) nextReport s
termination_by regionEnd-cursor
decreasing_by
 all_goals
  have taken : 0 < chunkRequest query (regionEnd-cursor) :=
   chunkRequest_pos positive (by omega)
  omega

def scanRegion (query : CompiledScanQuery) (region : MemoryRegion) (s : Scan) :
 ScanM (Result Unit×Scan) :=
 if valid : query.width=0 ∨ 0xFFFFFFFF < query.width then
  return (.error (makeError .invalidArgument "Invalid scan width" "MemoryScanner::ScanRegion"),s)
 else if maxUInt64-region.base < region.size then
  return (.error (makeError .addressOverflow "Scan region address range overflows"
   "MemoryScanner::ScanRegion"),s)
 else
  scanChunks query (by omega) region.base.toNat (region.base.toNat+region.size.toNat)
   region.base.toNat [] (nextProgressBoundary s.progress.bytesScanned) s

def scanRegions (query : CompiledScanQuery) : List MemoryRegion→Scan→ScanM (Result Unit×Scan)
 | [],s => return (.ok (),s)
 | region::rest,s => do
  if ← stopRequested then
   return (.error (cancelledError "MemoryScanner::FirstScan"),
    s.cancel "MemoryScanner::FirstScan")
  else
   match ← scanRegion query region s with
   | (.error error,s) => return (.error error,s)
   | (.ok _,s) =>
    reportProgress s.regionDone.progress
    if s.truncated then return (.ok (),s.regionDone)
    else scanRegions query rest s.regionDone

def totalBytes (regions : List MemoryRegion) : UInt64 :=
 regions.foldl (fun total region=>saturatingAdd total region.size) 0

/-- What a successful first scan leaves in the scanner. -/
def publish (scanner : MemoryScanner) (compiled : CompiledScanQuery) (s : Scan) :
 MemoryScanner where
 candidates := s.output
 activeQuery := compiled
 hasScan := true
 generation := scanner.generation+1
 lastReadReport := s.report

def summarize (s : Scan) : ScanSummary :=
 ⟨s.output.length,s.progress.bytesScanned,s.truncated⟩

def startProgress (regions : List MemoryRegion) : ScanProgress :=
 { phase := "first-scan",bytesTotal := totalBytes regions,regionsTotal := regions.length }

/-- A scan of the allowed regions, with a query that has passed the checks. -/
def scanCompiled (compiled : CompiledScanQuery) (scanner : MemoryScanner) :
 ScanM (Result ScanSummary×MemoryScanner) := do
 match ← regions with
 | .error error => return (.error error,scanner)
 | .ok found =>
  let allowed := found.filter fun region=>regionAllowed region compiled.query
  reportProgress (startProgress allowed)
  match ← scanRegions compiled allowed { progress := startProgress allowed } with
  | (.error error,s) => return (.error error,{ scanner with lastReadReport := s.report })
  | (.ok _,s) => return (.ok (summarize s),scanner.publish compiled s)

def firstScan (library : FloatingText) (query : ScanQuery) (scanner : MemoryScanner) :
 ScanM (Result ScanSummary×MemoryScanner) := do
 let scanner := { scanner with lastReadReport := {} }
 if !(← isOpen) then
  return (.error (makeError .backendDisconnected "No process is attached"
   "MemoryScanner::FirstScan"),scanner)
 else
  match validateQueryLimits query with
  | .error error => return (.error error,scanner)
  | .ok _ =>
   match compileScanQuery library query with
   | .error error => return (.error error,scanner)
   | .ok compiled =>
    match validateCompiledLimits compiled with
    | .error error => return (.error error,scanner)
    | .ok _ => scanCompiled compiled scanner

end MemoryScanner

inductive ScanPublicationState where
 | complete
 | partly
 | failed
deriving DecidableEq,Repr

def scanReadReportIsIncomplete (report : ScanReadReport) : Bool :=
 report.isPartial || report.cancelled || report.itemsSkipped != 0 || report.failedReads != 0 ||
  report.shortReads != 0 || decide (report.itemsCompleted < report.itemsAttempted) ||
  decide (report.completedBytes < report.requestedBytes)

def classifyScanPublication (resultOk : Bool) (report : ScanReadReport) : ScanPublicationState :=
 if !resultOk then .failed
 else if scanReadReportIsIncomplete report then .partly
 else .complete

end KDbg
