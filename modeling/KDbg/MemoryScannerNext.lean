import KDbg.MemoryScanner
set_option autoImplicit false
/-!
# The next scan

`MemoryScanner::NextScan` and `Reset`. Candidates that lie close together are read
at once; where such a read does not come whole, each of them is read alone.
-/
namespace KDbg
open Interaction

namespace MemoryScanner

def kMaxNextScanReadAmplification : UInt64 := 16

/-- The loop that grows a batch: how many candidates it has, and where it ends. -/
def extendBatch (compiled : CompiledScanQuery) (batchStart : UInt64) :
 List ScanCandidate→ℕ→UInt64→ℕ×UInt64
 | [],size,batchEnd => (size,batchEnd)
 | candidate::rest,size,batchEnd =>
  let width := UInt64.ofNat compiled.width
  if candidate.address < batchStart ∨ maxUInt64-candidate.address < width then
   (size,batchEnd)
  else
   let stop := candidate.address+width
   let span := stop-batchStart
   let usefulBytes := UInt64.ofNat (size+1)*width
   if UInt64.ofNat compiled.query.chunkSize < span ∨
    usefulBytes*kMaxNextScanReadAmplification < span then
    (size,batchEnd)
   else extendBatch compiled batchStart rest (size+1) (max batchEnd stop)

def batchFrom (compiled : CompiledScanQuery) (first : ScanCandidate)
 (rest : List ScanCandidate) : ℕ×UInt64 :=
 extendBatch compiled first.address rest 1 (first.address+UInt64.ofNat compiled.width)

/-- The bytes of a batch, if there is more than one candidate in it and they come whole. -/
def readBatch (batchStart batchEnd : UInt64) (size : ℕ) : ScanM (List UInt8) := do
 if 1 < size then
  let batchLength := (batchEnd-batchStart).toUInt32
  match ← read batchStart batchLength with
  | .error _ => return []
  | .ok bytes => return if bytes.length=batchLength.toNat then bytes else []
 else return []

def nextShortReadError (width size : ℕ) : Error :=
 makeError .shortRead "Next scan returned a short read" "MemoryScanner::NextScan" 0
  (UInt64.ofNat width) (UInt64.ofNat size)

/-- What a candidate's own read adds to the scan: its bytes, or a skipped candidate. -/
def separateValue (compiled : CompiledScanQuery) (answer : Result (List UInt8)) (s : Scan) :
 Option (List UInt8)×Scan :=
 match answer with
 | .error error => (none,s.failedRead error)
 | .ok bytes =>
  if bytes.length≠compiled.width then
   (none,(s.received bytes.length).shortRead (nextShortReadError compiled.width bytes.length))
  else (some bytes,s)

/-- The bytes of a candidate now, out of its batch or by a read of its own. -/
def currentValue (compiled : CompiledScanQuery) (batchStart : UInt64) (batchBytes : List UInt8)
 (candidate : ScanCandidate) (s : Scan) : ScanM (Option (List UInt8)×Scan) := do
 if batchBytes≠[] then
  let offset := (candidate.address-batchStart).toNat
  return (some ((batchBytes.drop offset).take compiled.width),s)
 else
  match separateValue compiled
   (← read candidate.address (UInt32.ofNat compiled.width)) s with
  | (some bytes,s) => return (some bytes,s)
  | (none,s) =>
   reportProgress s.counted.progress
   return (none,s.counted)

/-- A value that was read whole is compared with the one before. -/
def acceptValue (arithmetic : FloatingArithmetic) (compiled : CompiledScanQuery)
 (candidate : ScanCandidate) (current : List UInt8) (s : Scan) : Scan :=
 let s := (s.received compiled.width).completed
 if !matchNextValue arithmetic compiled candidate.current current then s
 else
  let output := s.output++[⟨candidate.address,candidate.current,current⟩]
  { s with
    output
    truncated := s.truncated || decide (compiled.query.maxResults ≤ output.length) }

def visitBatch (arithmetic : FloatingArithmetic) (compiled : CompiledScanQuery)
 (batchStart : UInt64) (batchBytes : List UInt8) :
 List ScanCandidate→UInt64→Scan→ScanM (Result UInt64×Scan)
 | [],nextReport,s => return (.ok nextReport,s)
 | candidate::rest,nextReport,s => do
  if ← stopRequested then
   return (.error (cancelledError "MemoryScanner::NextScan"),
    s.cancel "MemoryScanner::NextScan")
  else
   match ← currentValue compiled batchStart batchBytes candidate
    (s.attempted compiled.width) with
   | (none,s) => visitBatch arithmetic compiled batchStart batchBytes rest nextReport s
   | (some current,s) =>
    let s := acceptValue arithmetic compiled candidate current s
    if s.truncated then return (.ok nextReport,s)
    else
     let (nextReport,s) ← reportDue nextReport s
     visitBatch arithmetic compiled batchStart batchBytes rest nextReport s

def scanBatches (arithmetic : FloatingArithmetic) (compiled : CompiledScanQuery) :
 List ScanCandidate→UInt64→Scan→ScanM (Result Unit×Scan)
 | [],_,s => return (.ok (),s)
 | first::rest,nextReport,s => do
  if ← stopRequested then
   return (.error (cancelledError "MemoryScanner::NextScan"),
    s.cancel "MemoryScanner::NextScan")
  else
   let batch := batchFrom compiled first rest
   let batchBytes ← readBatch first.address batch.2 batch.1
   match ← visitBatch arithmetic compiled first.address batchBytes
    (first::rest.take (batch.1-1)) nextReport s with
   | (.error error,s) => return (.error error,s)
   | (.ok nextReport,s) =>
    if s.truncated then return (.ok (),s)
    else scanBatches arithmetic compiled (rest.drop (batch.1-1)) nextReport s
termination_by candidates => candidates.length
decreasing_by
 rw [List.length_drop,List.length_cons]
 omega

def nextProgress (compiled : CompiledScanQuery) (candidates : ℕ) : ScanProgress :=
 { phase := "next-scan"
   regionsTotal := 1
   bytesTotal := UInt64.ofNat candidates*UInt64.ofNat compiled.width }

def Scan.finished (s : Scan) : ScanProgress :=
 { s.progress with regionsScanned := 1,candidates := s.output.length }

/-- What a successful next scan leaves in the scanner. -/
def narrow (scanner : MemoryScanner) (compiled : CompiledScanQuery) (s : Scan) : MemoryScanner :=
 { scanner with
   candidates := s.output
   activeQuery := compiled
   generation := scanner.generation+1
   lastReadReport := s.report }

/-- A scan of the candidates, with a query that has passed the checks. -/
def nextCompiled (arithmetic : FloatingArithmetic) (compiled : CompiledScanQuery)
 (scanner : MemoryScanner) : ScanM (Result ScanSummary×MemoryScanner) := do
 let progress := nextProgress compiled scanner.candidates.length
 reportProgress progress
 match ← scanBatches arithmetic compiled scanner.candidates kProgressUpdateBytes
  { progress } with
 | (.error error,s) => return (.error error,{ scanner with lastReadReport := s.report })
 | (.ok _,s) =>
  reportProgress s.finished
  return (.ok (summarize s),scanner.narrow compiled s)

/-- The query of a next scan, once it has passed the checks. -/
def compileNext (library : FloatingText) (query : ScanQuery) (scanner : MemoryScanner) :
 Result CompiledScanQuery := do
 validateQueryLimits query
 let compiled ← compileScanQuery library query
 validateCompiledLimits compiled
 if compiled.width≠scanner.activeQuery.width ∨
  compiled.query.type≠scanner.activeQuery.query.type then
  throw (makeError .invalidArgument
   "Next scan must use the same value type and width as the first scan"
   "MemoryScanner::NextScan")
 return compiled

def nextScan (library : FloatingText) (arithmetic : FloatingArithmetic) (query : ScanQuery)
 (scanner : MemoryScanner) : ScanM (Result ScanSummary×MemoryScanner) := do
 let scanner := { scanner with lastReadReport := {} }
 if !scanner.hasScan then
  return (.error (makeError .invalidArgument "Run a first scan before a next scan"
   "MemoryScanner::NextScan"),scanner)
 else if !(← isOpen) then
  return (.error (makeError .backendDisconnected "The attached process is no longer available"
   "MemoryScanner::NextScan"),scanner)
 else
  match compileNext library query scanner with
  | .error error => return (.error error,scanner)
  | .ok compiled => nextCompiled arithmetic compiled scanner

def reset (scanner : MemoryScanner) : MemoryScanner :=
 { generation := scanner.generation+1 }

end MemoryScanner
end KDbg
