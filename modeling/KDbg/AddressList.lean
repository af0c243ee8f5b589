import KDbg.ValueCodec
import KDbg.VerifiedWriter
set_option autoImplicit false
/-!
# Address lists

The entries of `AddressList`, the checks that each of its operations makes on them, and the
operations that work through the memory backend. An entry can be named by a pointer path,
which is resolved anew each time the entry is read or written.
-/
namespace KDbg
open Interaction

def Result.check (bad : Prop) [Decidable bad] (error : Error) : Result Unit :=
 Fallible.require (¬bad) error

@[simp] lemma Result.check_eq_ok {bad:Prop} [Decidable bad] {error:Error} :
 Result.check bad error=.ok () ↔ ¬bad :=
 Fallible.require_eq_ok

@[simp] lemma Result.seq_eq_ok {x y:Result Unit} :
 (do x;y)=.ok () ↔ x=.ok () ∧ y=.ok () := by
 cases x <;> simp [bind,Except.bind]

structure AddressPointerPath where
 space : MemorySpace := {}
 baseAddress : UInt64 := 0
 offsets : List Int64 := []
 pointerSize : UInt32 := 8
deriving DecidableEq

namespace PointerResolver

def kMaxDepth : ℕ := 32

def operation : String := "PointerResolver::Resolve"

/-- An offset added to an address. The two places of `Resolve` that do this differ in what they
 call the offset. -/
def addOffset (name : String) (path : AddressPointerPath) (address : UInt64) (offset : Int64) :
 Result UInt64 := do
 let sum ←
  if 0 ≤ offset then
   if maxUInt64-offset.toUInt64 < address then
    throw (makeError .addressOverflow (name ++ " overflowed") operation)
   else pure (address+offset.toUInt64)
  else
   -- the magnitude of the least value has no negation of its own type
   let magnitude := (-(offset+1)).toUInt64+1
   if address < magnitude then
    throw (makeError .addressOverflow (name ++ " underflowed") operation)
   else pure (address-magnitude)
 if path.pointerSize=4 ∧ 0xFFFFFFFF < sum then
  throw (makeError .addressOverflow "32-bit pointer-path result exceeded the address width"
   operation)
 else return sum

/-- The loop of `Resolve` from an offset on: only the last offset is added without a read. -/
def follow (path : AddressPointerPath) (current : UInt64) : List Int64→BackendM (Result UInt64)
 | [] => return .ok current
 | [offset] => return addOffset "Pointer-path final offset" path current offset
 | offset::offsets => do
  match ← readMemory path.space current path.pointerSize with
  | .error error => return .error error
  | .ok bytes =>
   if bytes.length≠path.pointerSize.toNat then
    return .error (makeError .shortRead "Pointer read returned fewer bytes than requested"
     operation)
   else
    let pointer := UInt64.ofNat (ofLittleEndian bytes)
    if pointer=0 then
     return .error (makeError .notFound "Pointer path encountered a null intermediate pointer"
      operation)
    else match addOffset "Pointer-path offset" path pointer offset with
     | .error error => return .error error
     | .ok current => follow path current offsets

def resolve (path : AddressPointerPath) : BackendM (Result UInt64) :=
 if path.pointerSize≠4 ∧ path.pointerSize≠8 then
  return .error (makeError .invalidArgument "Pointer size must be 4 or 8 bytes" operation)
 else if path.baseAddress=0 ∨ kMaxDepth < path.offsets.length ∨
  (path.pointerSize=4 ∧ 0xFFFFFFFF < path.baseAddress) then
  return .error (makeError
   (if kMaxDepth < path.offsets.length then .limitReached else .invalidArgument)
   "Pointer path has an invalid base address or exceeds the depth cap" operation 0
   (UInt64.ofNat kMaxDepth) (UInt64.ofNat path.offsets.length))
 else if path.space.kind≠.processVirtual ∧ path.space.pid≠0 then
  return .error (makeError .invalidArgument "Non-process pointer paths must not carry a PID"
   operation)
 else if path.space.kind=.processVirtual ∧ path.space.pid=0 then
  return .error (makeError .invalidArgument "Process pointer paths require a non-zero PID"
   operation)
 else follow path path.baseAddress path.offsets

end PointerResolver

structure AddressEntry where
 id : UInt64 := 0
 description : List UInt8 := []
 space : MemorySpace := {}
 address : UInt64 := 0
 type : ScanValueType := .uint32
 width : UInt64 := 4
 pointerPath : Option AddressPointerPath := none
 frozen : Bool := false
 freezeValue : List UInt8 := []
 currentValue : List UInt8 := []
 resolvedAddress : UInt64 := 0
 lastError : Option Error := none
deriving DecidableEq

def AddressEntry.failed (entry : AddressEntry) (error : Error) : AddressEntry :=
 { entry with lastError := some error }

structure AddressRefreshSummary where
 refreshed : ℕ := 0
 failed : ℕ := 0
deriving DecidableEq,Repr

structure FreezeSummary where
 verified : ℕ := 0
 failed : ℕ := 0
deriving DecidableEq,Repr

structure AddressList where
 entries : List AddressEntry := []
 nextId : UInt64 := 1
deriving DecidableEq

namespace AddressList

def kMaxEntries : ℕ := 100000
def kMaxValueWidth : ℕ := 1024*1024
def kMaxDescriptionBytes : ℕ := 64*1024
def kMaxRowBytes : ℕ := 2*kMaxValueWidth+kMaxDescriptionBytes+1024

def validateSpace (space : MemorySpace) (context : String) : Result Unit :=
 match space.kind with
 | .physical | .kernelVirtual => Result.check (space.pid≠0)
  (makeError .invalidArgument "Non-process address-list entries must not carry a PID" context)
 | .processVirtual => Result.check (space.pid=0)
  (makeError .invalidArgument "Process address-list entries require a non-zero PID" context)

/-- The part of `ValidateEntry` about the pointer path. -/
def validatePointer (entry : AddressEntry) (path : AddressPointerPath) (context : String) :
 Result Unit := do
 validateSpace path.space context
 Result.check (path.pointerSize≠4 ∧ path.pointerSize≠8)
  (makeError .invalidArgument "Address-list pointer size must be 4 or 8 bytes" context)
 Result.check (path.baseAddress=0 ∨ PointerResolver.kMaxDepth < path.offsets.length ∨
  path.space.kind≠entry.space.kind ∨ path.space.pid≠entry.space.pid)
  (makeError .invalidArgument
   "Address-list pointer path has an invalid base, depth, or memory space" context)

def validateEntry (entry : AddressEntry) (context : String) : Result Unit := do
 validateSpace entry.space context
 Result.check (entry.address=0 ∨ maxUInt64-entry.width < entry.address ∨ entry.width=0 ∨
  kMaxValueWidth < entry.width.toNat)
  (makeError .invalidArgument "Address-list entry has an invalid type or width" context)
 Result.check ((fixedValueWidth entry.type≠0 ∧
  entry.width.toNat≠fixedValueWidth entry.type) ∨
  (entry.type=.utf16 ∧ entry.width &&& 1≠0))
  (makeError .invalidArgument "Address-list width is inconsistent with its value type" context 0
   (UInt64.ofNat (fixedValueWidth entry.type)) entry.width)
 Result.check (kMaxDescriptionBytes < entry.description.length ∨ 0x0D∈entry.description ∨
  0x0A∈entry.description)
  (makeError .limitReached "Address-list description is too long or contains a line break"
   context)
 Result.check ((entry.currentValue≠[] ∧ entry.currentValue.length≠entry.width.toNat) ∨
  (entry.frozen=true ∧ entry.freezeValue.length≠entry.width.toNat) ∨
  (entry.frozen=false ∧ entry.freezeValue≠[]))
  (makeError .invalidArgument "Address-list entry contains a value with the wrong width" context)
 match entry.pointerPath with
 | none => .ok ()
 | some path => validatePointer entry path context

def requireProcessWrite (entry : AddressEntry) (context : String) : Result Unit := do
 validateEntry entry context
 Result.check (entry.space.kind≠.processVirtual) (makeError .unsupported
  "Generic address-list writes and freeze are restricted to process virtual memory" context)

/-- `Add`: the id that the entry got, or 0. How its `push_back` ends is an argument. -/
def add (list : AddressList) (entry : AddressEntry) (allocation : Allocation) :
 UInt64×AddressList :=
 if kMaxEntries ≤ list.entries.length then (0,list)
 else if entry.id=0 ∧ (list.nextId=0 ∨ list.nextId=maxUInt64) then (0,list)
 else if entry.id≠0 ∧ (entry.id=maxUInt64 ∨ list.entries.any (·.id == entry.id)) then (0,list)
 else
  let entry := { entry with
   id := if entry.id=0 then list.nextId else entry.id
   width := if entry.width=0 then UInt64.ofNat (fixedValueWidth entry.type) else entry.width }
  match validateEntry entry "AddressList::Add" with
  | .error _ => (0,list)
  | .ok () =>
   -- the counter has moved before the list grows, and stays there if it cannot grow
   let nextId := max list.nextId (entry.id+1)
   match allocation with
   | .badAlloc | .lengthError => (0,{ list with nextId })
   | .grown => (entry.id,
    { entries := list.entries++[{ entry with resolvedAddress := entry.address }],nextId })

def remove (list : AddressList) (id : UInt64) : Bool×AddressList :=
 let entries := list.entries.filter (·.id != id)
 (entries.length != list.entries.length,{ list with entries })

def clear (_list : AddressList) : AddressList := { entries := [],nextId := 1 }

def find (list : AddressList) (id : UInt64) :
 Option (AddressEntry×(AddressEntry→AddressList)) := do
 let index ← list.entries.findIdx? (·.id == id)
 let entry ← list.entries[index]?
 return (entry,fun entry=>{ list with entries := list.entries.set index entry })

def resolveAddress (entry : AddressEntry) : BackendM (Result UInt64×AddressEntry) := do
 match entry.pointerPath with
 | none => return (.ok entry.address,{ entry with resolvedAddress := entry.address })
 | some path =>
  match ← PointerResolver.resolve path with
  | .error error => return (.error error,entry)
  | .ok address => return (.ok address,{ entry with resolvedAddress := address })

/-- A turn of the loop of `Refresh`, and whether it refreshed the entry. -/
def refreshEntry (entry : AddressEntry) : BackendM (AddressEntry×Bool) := do
 let entry := { entry with lastError := none }
 match validateEntry entry "AddressList::Refresh" with
 | .error error => return (entry.failed error,false)
 | .ok () =>
  match ← resolveAddress entry with
  | (.error error,entry) => return (entry.failed error,false)
  | (.ok address,entry) =>
   match ← readMemory entry.space address entry.width.toUInt32 with
   | .error error => return (entry.failed error,false)
   | .ok bytes =>
    if bytes.length≠entry.width.toNat then
     return (entry.failed (makeError .shortRead "Address-list refresh returned a short read"
      "AddressList::Refresh"),false)
    else return ({ entry with currentValue := bytes },true)

def refreshEntries : List AddressEntry→BackendM (List AddressEntry×AddressRefreshSummary)
 | [] => return ([],{})
 | entry::entries => do
  let (entry,refreshed) ← refreshEntry entry
  let (entries,summary) ← refreshEntries entries
  return (entry::entries,if refreshed then
   { summary with refreshed := summary.refreshed+1 }
   else { summary with failed := summary.failed+1 })

def refresh (list : AddressList) : BackendM (Result AddressRefreshSummary×AddressList) := do
 let (entries,summary) ← refreshEntries list.entries
 return (.ok summary,{ list with entries })

def write (list : AddressList) (token : VerifiedWriteArmToken) (id : UInt64)
 (value : List UInt8) : BackendM (Result VerifiedWriteResult×AddressList) := do
 let operation := "AddressList::Write"
 match list.find id with
 | none => return (.error (makeError .notFound "Address-list entry was not found" operation),list)
 | some (entry,put) =>
  match requireProcessWrite entry operation with
  | .error error => return (.error error,put (entry.failed error))
  | .ok () =>
   if value.length≠entry.width.toNat then
    return (.error (makeError .invalidArgument
     "Write width does not match the address-list entry" operation 0 entry.width
     (UInt64.ofNat value.length)),list)
   else match ← resolveAddress entry with
    | (.error error,entry) => return (.error error,put entry)
    | (.ok address,entry) =>
     if entry.currentValue.length≠entry.width.toNat then
      let error := makeError .invalidArgument
       ("Refresh the address-list entry before writing so an expected-before value " ++
        "is available") operation
      return (.error error,put (entry.failed error))
     else
      match ← VerifiedWriter.write token entry.space address value entry.currentValue with
      | .error error => return (.error error,put (entry.failed error))
      | .ok result => return (.ok result,
       put { entry with currentValue := result.readback,lastError := none })

/-- `SetFrozen` once the value to freeze is known. -/
def freezeWith (entry : AddressEntry) (put : AddressEntry→AddressList) (selected : List UInt8) :
 Result Unit×AddressList :=
 if selected.length≠entry.width.toNat then
  (.error (makeError .invalidArgument "Freeze value width does not match the address-list entry"
   "AddressList::SetFrozen"),put entry)
 else (.ok (),put { entry with freezeValue := selected,frozen := true })

def setFrozen (list : AddressList) (id : UInt64) (frozen : Bool) (value : Option (List UInt8)) :
 BackendM (Result Unit×AddressList) := do
 let operation := "AddressList::SetFrozen"
 match list.find id with
 | none => return (.error (makeError .notFound "Address-list entry was not found" operation),list)
 | some (entry,put) =>
  if !frozen then return (.ok (),put { entry with frozen := false,freezeValue := [] })
  else match requireProcessWrite entry operation with
   | .error error => return (.error error,put (entry.failed error))
   | .ok () =>
    match value with
    | some selected => return freezeWith entry put selected
    | none =>
     if entry.currentValue≠[] then return freezeWith entry put entry.currentValue
     else match ← resolveAddress entry with
      | (.error error,entry) => return (.error error,put entry)
      | (.ok address,entry) =>
       match ← readMemory entry.space address entry.width.toUInt32 with
       | .error error => return (.error error,put entry)
       | .ok bytes => return freezeWith entry put bytes

inductive FreezeTurn where
 | skipped
 | failed
 | verified
deriving DecidableEq,Repr

def FreezeSummary.count (summary : FreezeSummary) : FreezeTurn→FreezeSummary
 | .skipped => summary
 | .failed => { summary with failed := summary.failed+1 }
 | .verified => { summary with verified := summary.verified+1 }

def freezeEntry (confirmedPid : UInt32) (entry : AddressEntry) :
 BackendM (AddressEntry×FreezeTurn) := do
 let operation := "AddressList::TickFreeze"
 if !entry.frozen then return (entry, .skipped)
 else match requireProcessWrite entry operation with
  | .error error => return (entry.failed error, .failed)
  | .ok () =>
   match ← resolveAddress entry with
   | (.error error,entry) => return (entry.failed error, .failed)
   | (.ok address,entry) =>
    if entry.space.pid≠confirmedPid then
     return (entry.failed (makeError .writeLocked
      "One freeze transaction cannot cross confirmed PIDs" operation 0
      confirmedPid.toUInt64 entry.space.pid.toUInt64), .failed)
    else match ← readMemory entry.space address entry.width.toUInt32 with
     | .error error => return (entry.failed error, .failed)
     | .ok before =>
      if before.length≠entry.width.toNat then
       return (entry.failed (makeError .shortRead "Freeze preflight returned a short read"
        operation 0 entry.width (UInt64.ofNat before.length)), .failed)
      else match VerifiedWriter.armProcessWrite confirmedPid with
       | .error error => return (entry.failed error, .failed)
       | .ok token =>
        match ← VerifiedWriter.write token entry.space address entry.freezeValue before with
        | .error error => return (entry.failed error, .failed)
        | .ok result => return ({ entry with
         currentValue := result.readback,lastError := none }, .verified)

def freezeEntries (confirmedPid : UInt32) :
 List AddressEntry→BackendM (List AddressEntry×FreezeSummary)
 | [] => return ([],{})
 | entry::entries => do
  let (entry,turn) ← freezeEntry confirmedPid entry
  let (entries,summary) ← freezeEntries confirmedPid entries
  return (entry::entries,FreezeSummary.count summary turn)

/-- The process that a tick is for: that of the first frozen entry in a process. -/
def confirmedPid (list : AddressList) : Option UInt32 :=
 (list.entries.find? fun entry=>entry.frozen && entry.space.kind == .processVirtual).map
  (·.space.pid)

/-- What a tick does to an entry when no process is frozen at all. -/
def refuseFrozen (entry : AddressEntry) : AddressEntry :=
 if entry.frozen then
  entry.failed (makeError .unsupported "Freeze writes are process-virtual only"
   "AddressList::TickFreeze")
 else entry

def tickFreeze (list : AddressList) (token : VerifiedWriteArmToken) :
 BackendM (Result FreezeSummary×AddressList) := do
 match list.confirmedPid with
 | none =>
  return (.ok { failed := list.entries.countP (·.frozen) },
   { list with entries := list.entries.map refuseFrozen })
 | some pid =>
  if !(token.consume pid).1 then
   return (.error (makeError .writeLocked "Freeze tick requires a fresh matching PID arm token"
    "AddressList::TickFreeze"),list)
  else
   let (entries,summary) ← freezeEntries pid list.entries
   return (.ok summary,{ list with entries })

end AddressList
end KDbg
