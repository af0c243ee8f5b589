import KDbg.ListFile
import KDbg.MemorySnapshot
import KDbg.WatchList
set_option autoImplicit false
/-!
# The file of a watch list

A header and one record per entry. `Save` writes the second version of the format, which also
names the process by its creation token; `Load` takes the first as well and reads the memory of
each entry before it takes it.
-/
namespace KDbg
open Interaction ByteCodec

structure WatchFilePrefix where
 magic : Fin 8→UInt8
 version : UInt32

structure LegacyWatchFileHeader where
 magic : Fin 8→UInt8
 version : UInt32
 pid : UInt32
 entryCount : UInt64

structure WatchFileHeader where
 magic : Fin 8→UInt8
 version : UInt32
 pid : UInt32
 processIdentityToken : UInt64
 entryCount : UInt64

structure WatchFileEntryHeader where
 address : UInt64
 type : UInt32
 flags : UInt32
 descriptionSize : UInt32
 frozenValueSize : UInt32

def WatchFilePrefix.codec : Codec WatchFilePrefix :=
 ((Codec.raw 8).pair u32Codec).record
  { toFun := fun start=>(start.magic,start.version)
    invFun := fun (magic,version)=>⟨magic,version⟩
    left_inv := fun _=>rfl
    right_inv := fun _=>rfl }

def LegacyWatchFileHeader.codec : Codec LegacyWatchFileHeader :=
 ((Codec.raw 8).pair <| u32Codec.pair <| u32Codec.pair u64Codec).record
  { toFun := fun header=>(header.magic,header.version,header.pid,header.entryCount)
    invFun := fun (magic,version,pid,entryCount)=>⟨magic,version,pid,entryCount⟩
    left_inv := fun _=>rfl
    right_inv := fun _=>rfl }

def WatchFileHeader.codec : Codec WatchFileHeader :=
 ((Codec.raw 8).pair <| u32Codec.pair <| u32Codec.pair <| u64Codec.pair u64Codec).record
  { toFun := fun header=>(header.magic,header.version,header.pid,
   header.processIdentityToken,header.entryCount)
    invFun := fun (magic,version,pid,token,entryCount) =>
     ⟨magic,version,pid,token,entryCount⟩
    left_inv := fun _=>rfl
    right_inv := fun _=>rfl }

def WatchFileEntryHeader.codec : Codec WatchFileEntryHeader :=
 (u64Codec.pair <| u32Codec.pair <| u32Codec.pair <| u32Codec.pair u32Codec).record
  { toFun := fun item=>(item.address,item.type,item.flags,item.descriptionSize,
   item.frozenValueSize)
    invFun := fun (address,type,flags,descriptionSize,frozenValueSize) =>
     ⟨address,type,flags,descriptionSize,frozenValueSize⟩
    left_inv := fun _=>rfl
    right_inv := fun _=>rfl }

example : (WatchFilePrefix.codec.size,LegacyWatchFileHeader.codec.size,
 WatchFileHeader.codec.size,WatchFileEntryHeader.codec.size)=(12,24,32,24) := rfl

namespace WatchList

def kWatchMagic : Fin 8→UInt8 := ![0x4B,0x44,0x42,0x47,0x41,0x4C,0,0]
def kLegacyWatchVersion : UInt32 := 1
def kWatchVersion : UInt32 := 2
def kWatchFlagHexadecimal : UInt32 := 1
def kWatchFlagWasFrozen : UInt32 := 2
def kMaxWatchFileBytes : ℕ := 64*1024*1024

def saveError (message : String) : Result Unit :=
 .error (makeError .ioFailure message "WatchList::Save")

/-- What `Save` does not write. -/
def Unpersistable (entry : WatchEntry) : Prop :=
 entry.address=0 ∨ fixedValueWidth entry.type=0 ∨
  maxUInt64-UInt64.ofNat (fixedValueWidth entry.type) < entry.address ∨
  kMaxDescriptionBytes < entry.description.length ∨ 0xFFFFFFFF < entry.description.length ∨
  (entry.frozen=true ∧ entry.frozenValue.length≠fixedValueWidth entry.type)

instance (entry : WatchEntry) : Decidable (Unpersistable entry) :=
 inferInstanceAs (Decidable (_ ∨ _))

def frozenPayload (entry : WatchEntry) : List UInt8 := if entry.frozen then entry.frozenValue else []

def itemOf (entry : WatchEntry) : WatchFileEntryHeader where
 address := entry.address
 type := UInt32.ofNat (ListFile.typeCode entry.type)
 flags := (if entry.hexadecimal then kWatchFlagHexadecimal else 0) |||
  (if entry.frozen then kWatchFlagWasFrozen else 0)
 descriptionSize := UInt32.ofNat entry.description.length
 frozenValueSize := UInt32.ofNat (frozenPayload entry).length

def headerOf (list : WatchList) (pid : UInt32) (identity : UInt64) : WatchFileHeader where
 magic := kWatchMagic
 version := kWatchVersion
 pid
 processIdentityToken := identity
 entryCount := UInt64.ofNat list.entries.length

def writeEntries : List WatchEntry→ListFileM (Result Unit)
 | [] => return .ok ()
 | entry::entries => do
  ListFile.write (WatchFileEntryHeader.codec.encode (itemOf entry))
  ListFile.write entry.description
  if frozenPayload entry≠[] then ListFile.write (frozenPayload entry)
  if !(← ListFile.outputGood) then
   return saveError "Failed while writing address-list entries"
  else writeEntries entries

def writeFile (list : WatchList) (pid : UInt32) (identity : UInt64) (fault : ListSaveFault) :
 ListFileM (Result Unit) := do
 if !(← ListFile.openOutput) then return saveError "Unable to create address-list file"
 else
  ListFile.write (WatchFileHeader.codec.encode (list.headerOf pid identity))
  if !(← ListFile.outputGood) then
   return saveError "Failed while writing the address-list header"
  else match ← writeEntries list.entries with
   | .error error => return .error error
   | .ok () =>
    ListFile.commit "WatchList::Save" "Failed while flushing the address-list file" fault

/-- `Save` of a list on a process with this identifier and this creation token. -/
def save (list : WatchList) (pid : UInt32) (identity : UInt64) (path : ListFilePath)
 (fault : ListSaveFault) : ListFileM (Result Unit) :=
 if kMaxPersistedEntries < list.entries.length then
  return .error (makeError .limitReached "Address list exceeds the persistence entry limit"
   "WatchList::Save" 0 (UInt64.ofNat kMaxPersistedEntries) (UInt64.ofNat list.entries.length))
 else if path.empty ∨ path.filename = "" then
  return .error (makeError .invalidArgument "Address-list destination path is invalid"
   "WatchList::Save")
 else if ∃ entry∈list.entries,Unpersistable entry then
  return .error (makeError .invalidArgument "Address-list entry is not persistable"
   "WatchList::Save")
 else ListFile.cleaned (list.writeFile pid identity fault)

def loadError (message : String) : Error := makeError .parseError message "WatchList::Load"

def take (count : ℕ) (bytes : List UInt8) : Option (List UInt8×List UInt8) :=
 if bytes.length < count then none else some (bytes.take count,bytes.drop count)

def extract {α : Type} (codec : Codec α) (bytes : List UInt8) : Option (α×List UInt8) :=
 (take codec.size bytes).map fun (head,rest)=>(codec.decode head,rest)

/-- What either header says of the table. -/
structure Persisted where
 pid : UInt32
 identity : UInt64
 entryCount : UInt64

def tableOf (version : UInt32) (bytes : List UInt8) : Option (Persisted×List UInt8) :=
 if version=kLegacyWatchVersion then
  (extract LegacyWatchFileHeader.codec bytes).map fun (header,rest) =>
   ({ pid := header.pid,identity := 0,entryCount := header.entryCount },rest)
 else
  (extract WatchFileHeader.codec bytes).map fun (header,rest) =>
   ({ pid := header.pid,identity := header.processIdentityToken,
      entryCount := header.entryCount },rest)

def loadHeader (bytes : List UInt8) : Result (Persisted×List UInt8) :=
 match extract WatchFilePrefix.codec bytes with
 | none => .error (loadError "Address-list header is invalid")
 | some (start,_) =>
  if start.magic≠kWatchMagic ∨
   (start.version≠kLegacyWatchVersion ∧ start.version≠kWatchVersion) then
   .error (loadError "Address-list header is invalid")
  else match tableOf start.version bytes with
   | none => .error (loadError "Address-list header is invalid or truncated")
   | some (table,rest) =>
    if kMaxPersistedEntries < table.entryCount.toNat then
     .error (loadError "Address-list header is invalid or truncated")
    else .ok (table,rest)

/-- What an entry that was loaded says about itself. -/
def loadNote (wasFrozen unverified : Bool) : String :=
 let note := if wasFrozen then
  "Saved frozen state was loaded disarmed; explicitly arm and freeze again." else ""
 if unverified then
  (if wasFrozen then note ++ " " else note) ++
   "The process identity token was unavailable; verify the target manually."
 else note

/-- A record whose fields do not fit together. -/
def InvalidItem (item : WatchFileEntryHeader) (type : ScanValueType) : Prop :=
 let width := fixedValueWidth type
 let wasFrozen := item.flags &&& kWatchFlagWasFrozen≠0
 item.address=0 ∨ width=0 ∨ maxUInt64-UInt64.ofNat width < item.address ∨
  (wasFrozen ∧ item.frozenValueSize.toNat≠width) ∨ (¬wasFrozen ∧ item.frozenValueSize≠0) ∨
  item.flags &&& ~~~(kWatchFlagHexadecimal ||| kWatchFlagWasFrozen)≠0

instance (item : WatchFileEntryHeader) (type : ScanValueType) : Decidable (InvalidItem item type) :=
 inferInstanceAs (Decidable (_ ∨ _))

/-- A record with the type it names and its description; the frozen value is skipped. -/
def loadItem (bytes : List UInt8) :
 Result ((WatchFileEntryHeader×ScanValueType×List UInt8)×List UInt8) :=
 match extract WatchFileEntryHeader.codec bytes with
 | none => .error (loadError "Address-list entry header is invalid or truncated")
 | some (item,bytes) =>
  if kMaxDescriptionBytes < item.descriptionSize.toNat then
   .error (loadError "Address-list entry header is invalid or truncated")
  else match ListFile.typeOfCode item.type.toNat with
   | none => .error (loadError "Address-list entry contains invalid fields")
   | some type =>
    if InvalidItem item type then
     .error (loadError "Address-list entry contains invalid fields")
    else match (take item.descriptionSize.toNat bytes).bind fun (description,bytes) =>
     (take item.frozenValueSize.toNat bytes).map fun (_,bytes)=>(description,bytes) with
     | none => .error (loadError "Address-list entry payload is truncated")
     | some (description,bytes) => .ok ((item,type,description),bytes)

/-- A turn of the loop of `Load`: the entry, and what of the file is left. -/
def loadEntry (unverified : Bool) (id : UInt64) (bytes : List UInt8) :
 ProcessM (Result (WatchEntry×List UInt8)) := do
 match loadItem bytes with
 | .error error => return .error error
 | .ok ((item,type,description),bytes) =>
  let width := fixedValueWidth type
  match ← ProcessMemory.read item.address (UInt32.ofNat width) with
  | .error error => return .error error
  | .ok current =>
   if current.length≠width then
    return .error (makeError .shortRead "Loaded address cannot be read at its expected width"
     "WatchList::Load" 0 (UInt64.ofNat width) (UInt64.ofNat current.length))
   else return .ok ({
    id,address := item.address,type,description
    hexadecimal := item.flags &&& kWatchFlagHexadecimal != 0
    frozen := false,value := current,frozenValue := []
    lastError := loadNote (item.flags &&& kWatchFlagWasFrozen != 0) unverified },bytes)

def loadEntries (unverified : Bool) : ℕ→UInt64→List UInt8 →
 ProcessM (Result (List WatchEntry×UInt64×List UInt8))
 | 0,nextId,bytes => return .ok ([],nextId,bytes)
 | count+1,nextId,bytes => do
  match ← loadEntry unverified nextId bytes with
  | .error error => return .error error
  | .ok (entry,bytes) =>
   match ← loadEntries unverified count (nextId+1) bytes with
   | .error error => return .error error
   | .ok (entries,nextId,bytes) => return .ok (entry::entries,nextId,bytes)

def loadTable (list : WatchList) (identity : UInt64) (table : Persisted) (bytes : List UInt8) :
 ProcessM (Result Unit×WatchList) := do
 if table.pid≠(← ProcessMemory.processId) then
  let pid ← ProcessMemory.processId
  return (.error (makeError .invalidArgument "Address list belongs to a different PID"
   "WatchList::Load" 0 pid.toUInt64 table.pid.toUInt64),list)
 else if table.identity≠0 ∧ identity≠0 ∧ table.identity≠identity then
  return (.error (makeError .invalidArgument
   "Address list belongs to a previous process that reused this PID" "WatchList::Load" 0
   identity table.identity),list)
 else
  match ← loadEntries (table.identity == 0 || identity == 0) table.entryCount.toNat 1 bytes with
  | .error error => return (.error error,list)
  | .ok (entries,nextId,rest) =>
   if rest≠[] then
    return (.error (loadError "Address-list file contains unexpected trailing data"),list)
   else return (.ok (),{ entries,nextId })

/-- `Load` on a process with this creation token. -/
def load (list : WatchList) (identity : UInt64) (file : InputFile) :
 ProcessM (Result Unit×WatchList) :=
 let refused (code : ErrorCode) (nativeCode completed : UInt64) :
  ProcessM (Result Unit×WatchList) :=
  return (.error (makeError code "Address-list file size is invalid or exceeds the product cap"
   "WatchList::Load" nativeCode (UInt64.ofNat kMaxWatchFileBytes) completed),list)
 match file.size with
 | .error code => refused .ioFailure code 0
 | .ok size =>
  if size < LegacyWatchFileHeader.codec.size ∨ kMaxWatchFileBytes < size then
   refused .limitReached 0 (UInt64.ofNat size)
  else if !file.opens then
   return (.error (makeError .ioFailure "Unable to open address-list file" "WatchList::Load"),
    list)
  else match loadHeader file.bytes with
   | .error error => return (.error error,list)
   | .ok (table,rest) => loadTable list identity table rest

end WatchList
end KDbg
