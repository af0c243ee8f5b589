import KDbg.ProcessMemory
import KDbg.ValueCodec
set_option autoImplicit false
/-!
# Watch lists

The operations of `WatchList` that work on the entries and on process memory. Its
guard for the write arm tries a failed disarm once more.
-/
namespace KDbg
open Interaction

structure WatchEntry where
 id : UInt64 := 0
 address : UInt64 := 0
 type : ScanValueType := .int32
 description : List UInt8 := []
 hexadecimal : Bool := false
 frozen : Bool := false
 value : List UInt8 := []
 frozenValue : List UInt8 := []
 lastError : String := ""
deriving DecidableEq,Repr

def WatchEntry.failed (entry : WatchEntry) (message : String) : WatchEntry :=
 { entry with lastError := message }

def WatchEntry.refreshed (entry : WatchEntry) (value : List UInt8) : WatchEntry :=
 { entry with value,lastError := "" }

structure WatchList where
 entries : List WatchEntry := []
 nextId : UInt64 := 1
deriving DecidableEq,Repr

namespace WatchList

def kMaxPersistedEntries : ℕ := 100000
def kMaxDescriptionBytes : ℕ := 4096

/-- `ProcessWriteArmGuard::Disarm` of this class: the second try can lock the gate, but the first
 failure is reported. -/
def disarm (guard : ProcessWriteArmGuard) : ProcessM (Result Unit×ProcessWriteArmGuard) := do
 if !guard.armed then return (.ok (),guard)
 match ← ProcessMemory.setWritesArmed false with
 | .ok () => return (.ok (),{ guard with armed := false })
 | .error error =>
  match ← ProcessMemory.setWritesArmed false with
  | .ok () => return (.error { error with message := error.message ++
   "; a cleanup retry locked the gate, but the transaction is failed" },
   { guard with armed := false })
  | .error retry => return (.error { error with message := error.message ++
   "; cleanup retry also failed: " ++ retry.message },guard)

/-- The lambda `finish`: disarm, and let a failure to do so replace the outcome. -/
def finish (guard : ProcessWriteArmGuard) (list : WatchList) (outcome : Result Unit) :
 ProcessM ((Result Unit×WatchList)×ProcessWriteArmGuard) := do
 let (disarmed,guard) ← disarm guard
 return (((disarmed.bind fun _=>outcome),list),guard)

def add (list : WatchList) (address : UInt64) (type : ScanValueType) (description : List UInt8)
 (hexadecimal : Bool) : ProcessM (Result UInt64×WatchList) := do
 let width := fixedValueWidth type
 if address=0 ∨ width=0 ∨ maxUInt64-UInt64.ofNat width < address then
  return (.error (makeError .invalidArgument
   "Watch entries require a non-zero address and fixed-width value type" "WatchList::Add"),list)
 else if kMaxPersistedEntries ≤ list.entries.length ∨
  kMaxDescriptionBytes < description.length then
  return (.error (makeError .limitReached "Address-list entry or description limit was reached"
   "WatchList::Add" 0 (UInt64.ofNat kMaxPersistedEntries)
   (UInt64.ofNat list.entries.length)),list)
 else match ← ProcessMemory.read address (UInt32.ofNat width) with
  | .error error => return (.error error,list)
  | .ok bytes =>
   if bytes.length≠width then
    return (.error (makeError .shortRead "Watch entry initial read was incomplete"
     "WatchList::Add" 0 (UInt64.ofNat width) (UInt64.ofNat bytes.length)),list)
   else
    let entry : WatchEntry :=
     { id := list.nextId,address,type,description,hexadecimal,value := bytes }
    return (.ok list.nextId,
     { entries := list.entries++[entry],nextId := list.nextId+1 })

def remove (list : WatchList) (id : UInt64) : Result Unit×WatchList :=
 match list.entries.findIdx? (·.id == id) with
 | none => (.error (makeError .notFound "Watch entry was not found" "WatchList::Remove"),list)
 | some index => (.ok (),{ list with entries := list.entries.eraseIdx index })

def clear (list : WatchList) : WatchList := { list with entries := [] }

def refreshEntry (entry : WatchEntry) : ProcessM (WatchEntry×Bool) := do
 let width := fixedValueWidth entry.type
 match ← ProcessMemory.read entry.address (UInt32.ofNat width) with
 | .error error => return (entry.failed error.message,true)
 | .ok bytes =>
  if bytes.length≠width then return (entry.failed "Watch refresh returned a short read",true)
  else return (entry.refreshed bytes,false)

def refreshEntries : List WatchEntry→ProcessM (List WatchEntry×ℕ)
 | [] => return ([],0)
 | entry::entries => do
  let (entry,failed) ← refreshEntry entry
  let (entries,failures) ← refreshEntries entries
  return (entry::entries,failures+if failed then 1 else 0)

def refresh (list : WatchList) : ProcessM (Result Unit×WatchList) := do
 let (entries,failures) ← refreshEntries list.entries
 let list := { list with entries }
 if failures≠0 then
  return (.error (makeError .shortRead "One or more address-list values could not be refreshed"
   "WatchList::Refresh" 0 (UInt64.ofNat entries.length)
   (UInt64.ofNat (entries.length-failures))),list)
 else return (.ok (),list)

def find (list : WatchList) (id : UInt64) : Option (WatchEntry×(WatchEntry→WatchList)) := do
 let index ← list.entries.findIdx? (·.id == id)
 let entry ← list.entries[index]?
 return (entry,fun entry=>{ list with entries := list.entries.set index entry })

def setFrozen (list : WatchList) (id : UInt64) (frozen : Bool) :
 ProcessM (Result Unit×WatchList) := do
 match list.find id with
 | none => return (.error (makeError .notFound "Watch entry was not found"
  "WatchList::SetFrozen"),list)
 | some (entry,put) =>
  if frozen && !(← ProcessMemory.writesArmed) then
   return (.error (makeError .writeLocked "Arm process writes before freezing an address"
    "WatchList::SetFrozen"),list)
  else return (.ok (),put { entry with
   frozen
   frozenValue := if frozen then entry.value else [] })

section Writing
variable (library:FloatingText)

/-- `WriteValue` past its lookup, with the entry and its place in the list. -/
def writeEntry (list : WatchList) (entry : WatchEntry) (put : WatchEntry→WatchList)
 (text : List UInt8) (guard : ProcessWriteArmGuard) :
 ProcessM ((Result Unit×WatchList)×ProcessWriteArmGuard) := do
 let operation := "WatchList::WriteValue"
 match encodeValue library entry.type text entry.hexadecimal with
 | .error error => finish guard list (.error error)
 | .ok encoded =>
  if !guard.armed then
   finish guard list (.error (makeError .writeLocked
    "Arm process writes before editing an address-list value" operation))
  else match ← ProcessMemory.read entry.address (UInt32.ofNat encoded.length) with
  | .error error => finish guard (put (entry.failed error.message)) (.error error)
  | .ok before =>
   if before.length≠entry.value.length then
    let message := "Address-list preflight returned a short read"
    finish guard (put (entry.failed message)) (.error (makeError .shortRead message operation 0
     (UInt64.ofNat entry.value.length) (UInt64.ofNat before.length)))
   else if before≠entry.value then
    let message := "Value changed after it was presented; refresh before writing"
    finish guard (put (entry.failed message))
     (.error (makeError .concurrentModification message operation))
   else match ← ProcessMemory.write entry.address encoded with
   | .error error => finish guard (put (entry.failed error.message)) (.error error)
   | .ok written =>
    if written.toNat≠encoded.length then
     let message := "Watch value write was incomplete"
     finish guard (put (entry.failed message)) (.error (makeError .shortWrite message
      operation 0 (UInt64.ofNat encoded.length) written.toUInt64))
    else
     let (disarmed,guard) ← disarm guard
     let report (entry : WatchEntry) (outcome : Result Unit) :
      (Result Unit×WatchList)×ProcessWriteArmGuard :=
      (((disarmed.bind fun _=>outcome),put entry),guard)
     match ← ProcessMemory.read entry.address (UInt32.ofNat encoded.length) with
     | .error error => return report (entry.failed error.message) (.error error)
     | .ok readback =>
      if readback.length≠encoded.length then
       let message := "Watch value read-back returned a short read"
       return report (entry.failed message) (.error (makeError .shortRead message operation 0
        (UInt64.ofNat encoded.length) (UInt64.ofNat readback.length)))
      else if readback≠encoded then
       let message := "Watch value read-back verification failed"
       return report (entry.failed message)
        (.error (makeError .verificationMismatch message operation))
      else
       return report { entry.refreshed readback with
        frozenValue := if entry.frozen then readback else entry.frozenValue } (.ok ())

def writeValue (list : WatchList) (id : UInt64) (text : List UInt8) :
 ProcessM (Result Unit×WatchList) := do
 let writesArmed ← ProcessMemory.writesArmed
 ProcessWriteArmGuard.withGuard writesArmed fun guard =>
  match list.find id with
  | none => finish guard list (.error (makeError .notFound "Watch entry was not found"
   "WatchList::WriteValue"))
  | some (entry,put) => writeEntry library list entry put text guard

end Writing

/-- How a turn of the loop of `FreezeTick` ends: it goes on, or it returns while the guard of the
 entry's write is alive. -/
inductive FreezeTurn where
 | next (failed : Bool)
 | stop (error : Error) (writeGuard : ProcessWriteArmGuard)

/-- A turn past its write: the guard of the write ends with the turn if it has disarmed. -/
def endTurn (disarmed : Result Unit) (writeGuard : ProcessWriteArmGuard) (entry : WatchEntry)
 (failed : Bool) : ProcessM (FreezeTurn×WatchEntry) :=
 match disarmed with
 | .error error => return (.stop error writeGuard,entry)
 | .ok () => do
  writeGuard.destroy
  return (.next failed,entry)

def freezeEntry (entry : WatchEntry) : ProcessM (FreezeTurn×WatchEntry) := do
 let width := fixedValueWidth entry.type
 if !entry.frozen then return (.next false,entry)
 else if width=0 ∨ entry.frozenValue.length≠width then
  return (.next true,entry.failed "Frozen value has an invalid width")
 else match ← ProcessMemory.read entry.address (UInt32.ofNat width) with
 | .error error => return (.next true,entry.failed error.message)
 | .ok before =>
  if before.length≠width then
   return (.next true,entry.failed "Freeze preflight returned a short read")
  else match ← ProcessMemory.read entry.address (UInt32.ofNat width) with
  | .error error => return (.next true,entry.failed error.message)
  | .ok expectedBefore =>
   if expectedBefore.length≠width then
    return (.next true,entry.failed "Freeze expected-before read was incomplete")
   else if expectedBefore≠before then
    return (.next true,entry.failed
     "Value changed during freeze preflight; no write was attempted")
   else match ← ProcessMemory.setWritesArmed true with
   | .error error => return (.next true,entry.failed error.message)
   | .ok () =>
    let written ← ProcessMemory.write entry.address entry.frozenValue
    let (disarmed,writeGuard) ← disarm { armed := true }
    match written with
    | .error error => endTurn disarmed writeGuard (entry.failed error.message) true
    | .ok count =>
     if count.toNat≠entry.frozenValue.length then
      endTurn disarmed writeGuard (entry.failed "Freeze write was incomplete") true
     else match ← ProcessMemory.read entry.address (UInt32.ofNat entry.frozenValue.length) with
     | .error error => endTurn disarmed writeGuard (entry.failed error.message) true
     | .ok readback =>
      if readback.length≠entry.frozenValue.length then
       endTurn disarmed writeGuard
        (entry.failed "Freeze read-back returned a short read") true
      else if readback≠entry.frozenValue then
       endTurn disarmed writeGuard
        (entry.failed "Freeze read-back verification failed") true
      else endTurn disarmed writeGuard (entry.refreshed readback) false

/-- The loop of `FreezeTick`: the entries as it leaves them, and the number of failures or the
 early return. -/
def freezeEntries : List WatchEntry →
 ProcessM (Except (Error×ProcessWriteArmGuard) ℕ×List WatchEntry)
 | [] => return (.ok 0,[])
 | entry::entries => do
  match ← freezeEntry entry with
  | (.stop error writeGuard,entry) => return (.error (error,writeGuard),entry::entries)
  | (.next failed,entry) =>
   let (failures,entries) ← freezeEntries entries
   return (failures.map (· + if failed then 1 else 0),entry::entries)

def freezeTick (list : WatchList) : ProcessM (Result Unit×WatchList) := do
 let operation := "WatchList::FreezeTick"
 let writesArmed ← ProcessMemory.writesArmed
 ProcessWriteArmGuard.withGuard writesArmed fun guard=>do
  if !writesArmed then
   finish guard list (if list.entries.any (·.frozen) then
    .error (makeError .writeLocked
     "Process write gate was closed while frozen entries were active" operation)
    else .ok ())
  else
   match ← freezeEntries list.entries with
   | (.error (error,writeGuard),entries) =>
    let finished ← finish guard { list with entries } (.error error)
    writeGuard.destroy
    return finished
   | (.ok failures,entries) =>
    finish guard { list with entries } (if failures≠0 then
     .error (makeError .verificationMismatch
      "One or more frozen-address writes failed verification" operation 0 0
      (UInt64.ofNat failures))
     else .ok ())

end WatchList
end KDbg
