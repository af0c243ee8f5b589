import KDbg.KDbgBackendSession
set_option autoImplicit false
/-! `PageTableReverseMapper`: which virtual pages of the selected processes map
a physical page frame. It walks every page table that it reaches from the root
tables of the processes. -/
namespace KDbg
open Interaction

inductive MappingConfidence where
 | unknown
 | low
 | medium
 | high
deriving DecidableEq,Repr

structure ProcessUsage where
 pid : UInt32 := 0
 processName : String := ""
 virtualAddress : UInt64 := 0
 pteAddress : UInt64 := 0
 pageSize : UInt64 := 0x1000
 mappingType : String := ""
 source : String := ""
 confidence : MappingConfidence := .unknown
 shared : Bool := false
 writable : Bool := false
 userAccessible : Bool := false
 noExecute : Bool := false
deriving DecidableEq,Repr

structure PfnUsageResult where
 pfn : UInt64 := 0
 mappings : List ProcessUsage := []
 provider : String := ""
deriving DecidableEq,Repr

structure ProcessScanTarget where
 pid : UInt32 := 0
 processName : String := ""
 directoryTableBase : UInt64 := 0
 la57 : Bool := false
deriving DecidableEq,Repr

structure ReverseMapLimits where
 maxTablePages : ℕ := 262144
 maxResults : ℕ := 4096
 includePageTablePages : Bool := true
 continueOnReadError : Bool := true
deriving DecidableEq,Repr

/-- What the mapper asks of its stop token and of the backend. -/
inductive ReverseMapCall where
 | stopRequested
 | connected
 | getProcessContext (pid : UInt32)
 | readPhysical (physicalAddress : UInt64) (length : UInt32)

def ReverseMapAnswer : ReverseMapCall→Type
 | .stopRequested => Bool
 | .connected => Bool
 | .getProcessContext _ => Result KDbgBackend.ProcessContext
 | .readPhysical _ _ => Result (List UInt8)

abbrev ReverseMapEvent := Event ReverseMapCall ReverseMapAnswer
abbrev ReverseMapM := Prog ReverseMapCall ReverseMapAnswer

namespace ReverseMap

def stopRequested : ReverseMapM Bool := Prog.ask ReverseMapCall.stopRequested

def connected : ReverseMapM Bool := Prog.ask ReverseMapCall.connected

def getProcessContext (pid : UInt32) : ReverseMapM (Result KDbgBackend.ProcessContext) :=
 Prog.ask (ReverseMapCall.getProcessContext pid)

def readPhysical (physicalAddress : UInt64) (length : UInt32) :
 ReverseMapM (Result (List UInt8)) :=
 Prog.ask (ReverseMapCall.readPhysical physicalAddress length)

end ReverseMap

structure PageTableReverseMapper where
 targets : List ProcessScanTarget
 limits : ReverseMapLimits := {}
deriving DecidableEq,Repr

namespace PageTableReverseMapper

def kPageSize : UInt64 := 0x1000

def shiftForLevel : ℕ→UInt64
 | 5 => 48
 | 4 => 39
 | 3 => 30
 | 2 => 21
 | 1 => 12
 | _ => 0

def nextTableName : ℕ→String
 | 5 => "page-table: PML4"
 | 4 => "page-table: PDPT"
 | 3 => "page-table: PD"
 | 2 => "page-table: PT"
 | _ => "page-table"

def name : String := "selected-process-page-table-scan"

structure MappingKey where
 pid : UInt32
 virtualAddress : UInt64
 pteAddress : UInt64
 pageSize : UInt64
 mappingType : String
deriving DecidableEq,Repr

def keyOf (usage : ProcessUsage) : MappingKey :=
 ⟨usage.pid,usage.virtualAddress,usage.pteAddress,usage.pageSize,usage.mappingType⟩

/-- The variables that the walk of `Query` shares. -/
structure Scan where
 mappings : List ProcessUsage := []
 seenMappings : List MappingKey := []
 tablePagesRead : ℕ := 0
 activePath : List UInt64 := []
deriving DecidableEq,Repr

/-- What the entries above a table say of the addresses under it. -/
structure Effective where
 virtualPrefix : UInt64 := 0
 writable : Bool := true
 user : Bool := true
 noExecute : Bool := false
deriving DecidableEq,Repr

def queryError (code : ErrorCode) (message : String) : Error :=
 makeError code message "PageTableReverseMapper::Query"

def appendMapping (limits : ReverseMapLimits) (usage : ProcessUsage) (s : Scan) :
 Result Unit×Scan :=
 if keyOf usage∈s.seenMappings then (.ok (),s)
 else if limits.maxResults ≤ s.mappings.length then
  (.error (makeError .limitReached "PFN reverse mapping reached the result limit"
   "PageTableReverseMapper::Query" 0 (UInt64.ofNat limits.maxResults)
   (UInt64.ofNat (s.mappings.length+1))),s)
 else
  (.ok (),{ s with
   seenMappings := keyOf usage::s.seenMappings
   mappings := s.mappings++[usage] })

def Effective.under (above : Effective) (level index : ℕ) (entry : UInt64) : Effective where
 virtualPrefix := above.virtualPrefix ||| (UInt64.ofNat index <<< shiftForLevel level)
 writable := above.writable && (decodePageEntry entry).writable
 user := above.user && (decodePageEntry entry).user
 noExecute := above.noExecute || (decodePageEntry entry).noExecute

def entryUsage (target : ProcessScanTarget) (rawAddress pteAddress pageSize : UInt64)
 (mappingType : String) (confidence : MappingConfidence) (here : Effective) : ProcessUsage where
 pid := target.pid
 processName := target.processName
 virtualAddress := canonicalizeVirtualAddress rawAddress target.la57
 pteAddress := pteAddress
 pageSize := pageSize
 mappingType := mappingType
 source := name
 confidence := confidence
 writable := here.writable
 userAccessible := here.user
 noExecute := here.noExecute

section Walk
variable (limits : ReverseMapLimits) (target : ProcessScanTarget) (targetPfn : UInt64)

def largeLeaf (level : PagingLevel) (pageSize : UInt64) (mappingType : String)
 (entry entryPa : UInt64) (here : Effective) (s : Scan) : Result Unit×Scan :=
 match leafPhysicalAddress level entry 0 with
 | .error _ => (.ok (),s)
 | .ok baseAddress =>
  let basePfn := baseAddress >>> 12
  let pages := pageSize/kPageSize
  if basePfn ≤ targetPfn ∧ targetPfn-basePfn < pages then
   appendMapping limits (entryUsage target
    (here.virtualPrefix+((targetPfn-basePfn) <<< 12)) entryPa pageSize mappingType .high
    here) s
  else (.ok (),s)

def tableMapping (nextPfn : UInt64) (level : ℕ) (entryPa : UInt64) (here : Effective) (s : Scan) :
 Result Unit×Scan :=
 if limits.includePageTablePages ∧ nextPfn=targetPfn then
  appendMapping limits (entryUsage target here.virtualPrefix entryPa kPageSize
   (nextTableName level) .medium here) s
 else (.ok (),s)

abbrev TableWalk := UInt64→Effective→Scan→ReverseMapM (Result Unit×Scan)

section Table
variable (level : ℕ) (nested : TableWalk) (tablePfn : UInt64) (above : Effective)

/-- A turn of the loop over the entries of a table; `nested` walks the table one level down. -/
def visitEntry (index : ℕ) (entry : UInt64) (s : Scan) : ReverseMapM (Result Unit×Scan) := do
 let flags := decodePageEntry entry
 let here := above.under level index entry
 let entryPa := (tablePfn <<< 12)+UInt64.ofNat index*8
 let nextPfn := (entry &&& kX64PageEntryAddressMask) >>> 12
 if !flags.present then return (.ok (),s)
 else if (level=5 ∨ level=4) ∧ flags.pageSize then return (.ok (),s)
 else if level=3 ∧ flags.pageSize then
  return largeLeaf limits target targetPfn .pdpt 0x40000000 "1 GiB large page" entry entryPa
   here s
 else if level=2 ∧ flags.pageSize then
  return largeLeaf limits target targetPfn .pd 0x200000 "2 MiB large page" entry entryPa here s
 else if level=1 then
  if nextPfn=targetPfn then
   return appendMapping limits (entryUsage target here.virtualPrefix entryPa kPageSize
    "4 KiB page" .high here) s
  else return (.ok (),s)
 else
  match tableMapping limits target targetPfn nextPfn level entryPa here s with
  | (.error error,s) => return (.error error,s)
  | (.ok _,s) =>
   match ← nested nextPfn here s with
   | (.error error,s) =>
    return (.error error,{ s with activePath := s.activePath.erase tablePfn })
   | (.ok _,s) => return (.ok (),s)

def entryAt (page : List UInt8) (index : ℕ) : UInt64 :=
 UInt64.ofNat (ofLittleEndian ((page.drop (8*index)).take 8))

def visitEntries (page : List UInt8) : List ℕ→Scan→ReverseMapM (Result Unit×Scan)
 | [],s => return (.ok (),s)
 | index::rest,s => do
  match ← visitEntry limits target targetPfn level nested tablePfn above index
   (entryAt page index) s with
  | (.error error,s) => return (.error error,s)
  | (.ok _,s) =>
   visitEntries page rest s

def Scan.enter (s : Scan) (tablePfn : UInt64) : Scan :=
 { s with activePath := tablePfn::s.activePath }

def Scan.leave (s : Scan) (tablePfn : UInt64) : Scan :=
 { s with activePath := s.activePath.erase tablePfn }

def tablePage : Result (List UInt8)→Except (Result Unit) (List UInt8)
 | .error error => .error (if limits.continueOnReadError then .ok () else .error error)
 | .ok page =>
  if page.length≠0x1000 then
   .error (if limits.continueOnReadError then .ok ()
    else .error (queryError .shortRead "Page-table read returned fewer than 4096 bytes"))
  else .ok page

def walkTable (s : Scan) : ReverseMapM (Result Unit×Scan) := do
 if ← ReverseMap.stopRequested then
  return (.error (queryError .cancelled "PFN reverse mapping was cancelled"),s)
 else if tablePfn∈s.activePath then return (.ok (),s)
 else if limits.maxTablePages ≤ s.tablePagesRead then
  return (.error (makeError .limitReached "PFN reverse mapping reached the table-page limit"
   "PageTableReverseMapper::Query" 0 (UInt64.ofNat limits.maxTablePages)
   (UInt64.ofNat s.tablePagesRead)),(s.enter tablePfn).leave tablePfn)
 else if maxUInt64 >>> 12 < tablePfn then
  return (.ok (),(s.enter tablePfn).leave tablePfn)
 else
  let read ← ReverseMap.readPhysical (tablePfn <<< 12) 0x1000
  let s := { s.enter tablePfn with tablePagesRead := s.tablePagesRead+1 }
  match tablePage limits read with
  | .error result => return (result,s.leave tablePfn)
  | .ok page =>
   match ← visitEntries limits target targetPfn level nested tablePfn above page
    (List.range 512) s with
   | (.error error,s) => return (.error error,s)
   | (.ok _,s) => return (.ok (),s.leave tablePfn)

end Table

/-- The lambda `walk`. Entries of level 1 name no table, so level 0 is never walked. -/
def walk : ℕ→TableWalk
 | 0,_,_,s => return (.ok (),s)
 | level+1,tablePfn,above,s =>
  walkTable limits target targetPfn (level+1) (walk level) tablePfn above s

def rootMapping (rootPfn : UInt64) (s : Scan) : Result Unit×Scan :=
 if limits.includePageTablePages ∧ rootPfn=targetPfn then
  appendMapping limits
   { pid := target.pid
     processName := target.processName
     mappingType := if target.la57 then "page-table: PML5 root" else "page-table: PML4 root"
     source := name
     confidence := .high } s
 else (.ok (),s)

def walkRoot (directoryTableBase : UInt64) (s : Scan) : ReverseMapM (Result Scan) := do
 let rootPfn := (directoryTableBase &&& ~~~0xFFF) >>> 12
 match rootMapping limits target targetPfn rootPfn s with
 | (.error error,_) => return .error error
 | (.ok _,s) =>
  match ← walk limits target targetPfn (if target.la57 then 5 else 4) rootPfn {}
   { s with activePath := [] } with
  | (.error error,s) =>
   if error.code=.limitReached ∨ error.code=.cancelled ∨ !limits.continueOnReadError then
    return .error error
   else return .ok s
  | (.ok _,s) => return .ok s

end Walk

def scanTarget (limits : ReverseMapLimits) (targetPfn : UInt64) (target : ProcessScanTarget)
 (s : Scan) : ReverseMapM (Result Scan) := do
 if ← ReverseMap.stopRequested then
  return .error (queryError .cancelled "PFN reverse mapping was cancelled")
 else if target.pid=0 then return .ok s
 else if target.directoryTableBase=0 then
  match ← ReverseMap.getProcessContext target.pid with
  | .error error => if limits.continueOnReadError then return .ok s else return .error error
  | .ok context => walkRoot limits target targetPfn context.directoryTableBase s
 else walkRoot limits target targetPfn target.directoryTableBase s

def scanTargets (limits : ReverseMapLimits) (targetPfn : UInt64) :
 List ProcessScanTarget→Scan→ReverseMapM (Result Scan)
 | [],s => return .ok s
 | target::targets,s => do
  match ← scanTarget limits targetPfn target s with
  | .error error => return .error error
  | .ok s => scanTargets limits targetPfn targets s

/-- The order of `std::tie` on the keys. -/
def usageLess (left right : ProcessUsage) : Bool :=
 decide (left.pid < right.pid) || left.pid == right.pid &&
  (decide (left.virtualAddress < right.virtualAddress) ||
   left.virtualAddress == right.virtualAddress &&
  (decide (left.pteAddress < right.pteAddress) || left.pteAddress == right.pteAddress &&
  (decide (left.pageSize < right.pageSize) || left.pageSize == right.pageSize &&
   decide (left.mappingType < right.mappingType))))

def query (mapper : PageTableReverseMapper) (targetPfn : UInt64) :
 ReverseMapM (Result PfnUsageResult) := do
 if kX64MaxPageFrameNumber < targetPfn then
  return .error (queryError .invalidPfn "PFN exceeds the 40-bit x64 page-table address field")
 else
  if !(← ReverseMap.connected) then
   return .error (queryError .backendDisconnected "Memory backend is not connected")
  else if mapper.targets=[] then
   return .error (queryError .invalidArgument "No process scan target is configured")
  else if mapper.limits.maxTablePages=0 ∨ mapper.limits.maxResults=0 then
   return .error (queryError .invalidArgument "Reverse-map limits must be non-zero")
  else
   match ← scanTargets mapper.limits targetPfn mapper.targets {} with
   | .error error => return .error error
   | .ok s =>
    return .ok
     { pfn := targetPfn
       mappings := s.mappings.mergeSort fun left right => !usageLess right left
       provider := name }

end PageTableReverseMapper
end KDbg
