import KDbg.AddressList
import KDbg.ListFile
set_option autoImplicit false
/-!
# The file of an address list

One line of text per entry, with tabs between its fields. `Save` writes the second version of
the format; `Load` also takes the first, which has no pointer paths.
-/
namespace KDbg
open Interaction TextStream

namespace AddressList

def tab : UInt8 := 0x09

def magic : List UInt8 := [0x4B,0x44,0x42,0x47,0x5F,0x41,0x44,0x44,0x52,0x45,0x53,0x53,
 0x5F,0x4C,0x49,0x53,0x54]

def kLegacyAddressListVersion : ℤ := 1
def kAddressListVersion : ℤ := 2

def hexDigit (value : ℕ) : UInt8 :=
 if value<10 then UInt8.ofNat (0x30+value) else UInt8.ofNat (0x41+(value-10))

def hex (bytes : List UInt8) : List UInt8 :=
 bytes.flatMap fun byte=>[hexDigit (byte.toNat/16),hexDigit (byte.toNat%16)]

def nibble (c : UInt8) : Option ℕ :=
 if 0x30 ≤ c ∧ c≤0x39 then some (c.toNat-0x30)
 else if 0x61 ≤ c ∧ c≤0x66 then some (c.toNat-0x61+10)
 else if 0x41 ≤ c ∧ c≤0x46 then some (c.toNat-0x41+10)
 else none

/-- The loop of `Unhex` over the pairs of characters that are left. -/
def unhexPairs : List UInt8→Option (List UInt8)
 | high::low::text =>
  (nibble high).bind fun high=>(nibble low).bind fun low =>
   (unhexPairs text).map fun bytes=>UInt8.ofNat (16*high+low)::bytes
 | _ => some []

def parseError (message : String) : Error := makeError .parseError message "AddressList::Load"

def unhex (text : List UInt8) : Result (List UInt8) :=
 if text.length%2≠0 then .error (parseError "Address-list hex payload has an odd length")
 else match unhexPairs text with
  | none => .error (parseError "Address-list hex payload contains a non-hex character")
  | some bytes => .ok bytes

def kindCode : MemorySpaceKind→ℕ
 | .physical => 0
 | .processVirtual => 1
 | .kernelVirtual => 2

/-- `static_cast<MemorySpaceKind>` of a number that names a kind. -/
def kindOf : ℤ→Option MemorySpaceKind
 | 0 => some .physical
 | 1 => some .processVirtual
 | 2 => some .kernelVirtual
 | _ => none

/-- `static_cast<ScanValueType>` of a number that names a type. -/
def typeOf : ℤ→Option ScanValueType
 | .ofNat code => ListFile.typeOfCode code
 | .negSucc _ => none

def tabbed (fields : List (List UInt8)) : List UInt8 := fields.flatMap (tab :: ·)

def pointerFields (path : AddressPointerPath) : List (List UInt8) :=
 [decimal (kindCode path.space.kind),decimal path.space.pid.toNat,
  decimal path.baseAddress.toNat,decimal path.pointerSize.toNat,
  decimal path.offsets.length]++path.offsets.map fun offset=>decimalInt offset.toInt

def rowFields (entry : AddressEntry) : List (List UInt8) :=
 [decimal (kindCode entry.space.kind),decimal entry.space.pid.toNat,
  decimal entry.address.toNat,decimal (ListFile.typeCode entry.type),decimal entry.width.toNat,
  decimal (if entry.frozen then 1 else 0),quoted entry.description,
  if entry.freezeValue=[] then [0x2D] else hex entry.freezeValue,
  decimal (if entry.pointerPath.isSome then 1 else 0)] ++
  (entry.pointerPath.map pointerFields).getD []

def row (entry : AddressEntry) : List UInt8 := decimal entry.id.toNat++tabbed (rowFields entry)

def fileHeader : List UInt8 := magic++tab::decimalInt kAddressListVersion

def saveError (message : String) : Error := makeError .ioFailure message "AddressList::Save"

/-- The loop of `Save` that checks the entries, after those with the ids `seen`. -/
def checkEntries (seen : List UInt64) : List AddressEntry→Result Unit
 | [] => .ok ()
 | entry::entries => do
  validateEntry entry "AddressList::Save"
  Result.check (entry.id=0 ∨ entry.id=maxUInt64 ∨ entry.id∈seen)
   (makeError .invalidArgument "Address list contains an invalid or duplicate entry ID"
    "AddressList::Save")
  checkEntries (entry.id::seen) entries

def checkCount (list : AddressList) : Result Unit :=
 Result.check (kMaxEntries < list.entries.length)
  (makeError .limitReached "Address list exceeds the persisted entry limit"
   "AddressList::Save" 0 (UInt64.ofNat kMaxEntries) (UInt64.ofNat list.entries.length))

def writeRows : List AddressEntry→ListFileM Unit
 | [] => return ()
 | entry::entries => do
  ListFile.write (row entry++[newline])
  writeRows entries

def writeFile (list : AddressList) (fault : ListSaveFault) : ListFileM (Result Unit) := do
 if !(← ListFile.openOutput) then return .error (saveError "Unable to create address-list file")
 else
  ListFile.write (fileHeader++[newline])
  writeRows list.entries
  if !(← ListFile.outputGood) then
   return .error (saveError "Failed while writing address-list file")
  else
   ListFile.commit "AddressList::Save" "Failed while flushing the temporary address-list file"
    fault

def save (list : AddressList) (path : ListFilePath) (fault : ListSaveFault) :
 ListFileM (Result Unit) := do
 match list.checkCount with
 | .error error => return .error error
 | .ok () =>
  match ListFile.allocationError "Address-list save" "AddressList::Save"
   (← (Prog.ask ListFileCall.allocate : ListFileM Allocation)) with
  | some error => return .error error
  | none =>
   match checkEntries [] list.entries with
   | .error error => return .error error
   | .ok () =>
    if path.empty ∨ path.filename = "" then
     return .error (makeError .invalidArgument "Address-list destination path is invalid"
      "AddressList::Save")
    else ListFile.cleaned (list.writeFile fault)

structure RowHead where
 id : UInt64
 kind : ℤ
 pid : UInt32
 address : UInt64
 type : ℤ
 width : UInt64
 frozen : ℤ
 description : List UInt8

def rowHead (s : Input) : Option (RowHead×Input) :=
 (unsigned 64 s).bind fun (id,s)=>(signed 32 s).bind fun (kind,s) =>
 (unsigned 32 s).bind fun (pid,s)=>(unsigned 64 s).bind fun (address,s) =>
 (signed 32 s).bind fun (type,s)=>(unsigned 64 s).bind fun (width,s) =>
 (signed 32 s).bind fun (frozen,s)=>(quotedText s).map fun (description,s) =>
  ({ id := UInt64.ofNat id,kind,pid := UInt32.ofNat pid,address := UInt64.ofNat address,type,
     width := UInt64.ofNat width,frozen,description },s)

def pointerOffsets : ℕ→Input→Option (List Int64×Input)
 | 0,s => some ([],s)
 | count+1,s =>
  (signed 64 s).bind fun (offset,s)=>(pointerOffsets count s).map fun (offsets,s) =>
   (Int64.ofInt offset::offsets,s)

def pointerHead (s : Input) : Option ((ℤ×AddressPointerPath×ℕ)×Input) :=
 (signed 32 s).bind fun (kind,s)=>(unsigned 32 s).bind fun (pid,s) =>
 (unsigned 64 s).bind fun (base,s)=>(unsigned 32 s).bind fun (size,s) =>
 (unsigned 64 s).map fun (count,s) =>
  ((kind,{ space := { pid := UInt32.ofNat pid },baseAddress := UInt64.ofNat base,
           pointerSize := UInt32.ofNat size },count),s)

def rowPointer (s : Input) : Result (AddressPointerPath×Input) :=
 match pointerHead s with
 | none => .error (parseError "Address-list pointer path is malformed")
 | some ((kind,path,count),s) =>
  match kindOf kind with
  | none => .error (parseError "Address-list pointer path is malformed")
  | some kind =>
   if PointerResolver.kMaxDepth < count then
    .error (parseError "Address-list pointer path is malformed")
   else match pointerOffsets count s with
    | none => .error (parseError "Address-list pointer offsets are truncated")
    | some (offsets,s) =>
     .ok ({ path with space := { path.space with kind },offsets },s)

/-- The freeze payload and the pointer path of a row, in either version. -/
def rowTail (version : ℤ) (s : Input) :
 Result ((List UInt8×Option AddressPointerPath)×Input) :=
 if version=kLegacyAddressListVersion then
  if s.eof then .ok (([],none),s)
  else match word s with
   | none => .error (parseError "Address-list freeze payload is malformed")
   | some (freezeHex,s) => .ok ((freezeHex,none),s)
 else
  match (word s).bind fun (freezeHex,s)=>(signed 32 s).map fun (hasPointer,s) =>
   ((freezeHex,hasPointer),s) with
  | none => .error (parseError "Address-list v2 persistence fields are malformed")
  | some ((freezeHex,hasPointer),s) =>
   if hasPointer=0 then .ok ((freezeHex,none),s)
   else if hasPointer=1 then
    match rowPointer s with
    | .error error => .error error
    | .ok (path,s) => .ok ((freezeHex,some path),s)
   else .error (parseError "Address-list v2 persistence fields are malformed")

def freezePayload (freezeHex : List UInt8) : Result (List UInt8) :=
 if freezeHex=[] ∨ freezeHex=[0x2D] then .ok [] else unhex freezeHex

/-- The entry that a row stands for, frozen as it was saved. -/
def rowEntry (head : RowHead) (freezeHex : List UInt8) (pointerPath : Option AddressPointerPath) :
 Result AddressEntry :=
 match kindOf head.kind,typeOf head.type with
 | some kind,some type =>
  if head.id=0 ∨ head.id=maxUInt64 ∨ (head.frozen≠0 ∧ head.frozen≠1) then
   .error (parseError "Address-list row contains an invalid enum or width")
  else match freezePayload freezeHex with
   | .error error => .error error
   | .ok freezeValue =>
    let entry : AddressEntry :=
     { id := head.id,description := head.description,space := { kind,pid := head.pid },
       address := head.address,type,width := head.width,pointerPath,
       frozen := head.frozen != 0,freezeValue }
    if entry.frozen ∧ freezeValue.length≠entry.width.toNat then
     .error (parseError "Frozen address-list value has the wrong width")
    else if !entry.frozen ∧ freezeValue≠[] then
     .error (parseError "Unfrozen address-list row contains a freeze payload")
    else match validateEntry entry "AddressList::Load" with
     | .error error => .error (parseError error.message)
     | .ok () => .ok entry
 | _,_ => .error (parseError "Address-list row contains an invalid enum or width")

/-- A persisted freeze is reported and not restored. -/
def disarmed (entry : AddressEntry) : AddressEntry :=
 { entry with
   frozen := false
   freezeValue := []
   lastError := if entry.frozen then
    some (makeError .writeLocked "Persisted freeze state was loaded disarmed" "AddressList::Load")
    else entry.lastError
   resolvedAddress := entry.address }

def parseRow (version : ℤ) (line : List UInt8) : Result AddressEntry :=
 match rowHead { rest := line } with
 | none => .error (parseError "Address-list row is malformed")
 | some (head,s) =>
  match rowTail version (ws s) with
  | .error error => .error error
  | .ok ((freezeHex,pointerPath),s) =>
   if !s.eof ∧ !(ws s).eof then
    .error (parseError "Address-list row contains trailing fields")
   else rowEntry head freezeHex pointerPath

def rowLimit : Error :=
 makeError .limitReached "Address-list row exceeds the length limit" "AddressList::Load"

/-- What the loop of `Load` takes for the row: if no line break was taken, a null byte at the end
 passes for the terminator of the buffer. -/
def rawLine (text : List UInt8) (ended : Bool) : List UInt8 :=
 if !ended ∧ text.getLast?=some 0 then text.dropLast else text

/-- A turn of the loop of `Load` past `getline`. -/
def loadRow (version : ℤ) (loaded : List AddressEntry) (line : List UInt8) :
 Result (List AddressEntry) :=
 if kMaxRowBytes < line.length then .error rowLimit
 else if 0∈line then
  .error (parseError "Address-list row contains an embedded NUL byte")
 else if line=[] then .ok loaded
 else if kMaxEntries ≤ loaded.length then
  .error (makeError .limitReached "Address list exceeds the entry limit" "AddressList::Load")
 else match parseRow version line with
  | .error error => .error error
  | .ok entry =>
   if entry.id∈loaded.map (·.id) then
    .error (parseError "Address-list file contains a duplicate entry ID")
   else .ok (loaded++[disarmed entry])

def loadRows (version : ℤ) (faulty : Bool) (loaded : List AddressEntry) (bytes : List UInt8) :
 Result (List AddressEntry) :=
 match _next : getline (kMaxRowBytes+1) faulty bytes with
 | .none => .ok loaded
 | .fault => .error (makeError .ioFailure "Failed while reading the address-list file"
  "AddressList::Load")
 | .long => .error rowLimit
 | .read text ended rest =>
  match loadRow version loaded (rawLine text ended) with
  | .error error => .error error
  | .ok loaded => loadRows version faulty loaded rest
termination_by bytes.length
decreasing_by exact length_of_getline _next

/-- The version that the first line names. The line is a C string: it ends at a null byte. -/
def headerVersion (line : List UInt8) : Result ℤ :=
 match (word { rest := line.takeWhile (· != 0) }).bind fun (name,s) =>
  (signed 32 s).map fun (version,s)=>(name,version,s) with
 | none => .error (parseError "Address-list file has an unsupported header")
 | some (name,version,s) =>
  if name≠magic ∨
   (version≠kLegacyAddressListVersion ∧ version≠kAddressListVersion) then
   .error (parseError "Address-list file has an unsupported header")
  else if !(ws s).eof then
   .error (parseError "Address-list header contains trailing fields")
  else .ok version

def highestId (entries : List AddressEntry) : UInt64 :=
 entries.foldl (fun highest entry=>max highest entry.id) 0

def loadEntries (file : InputFile) (allocation : Allocation) : Result (List AddressEntry) :=
 if !file.opens then
  .error (makeError .ioFailure "Unable to open address-list file" "AddressList::Load")
 else match getline 127 file.faulty file.bytes with
  | .read text _ rest =>
   match headerVersion text with
   | .error error => .error error
   | .ok version =>
    match ListFile.allocationError "Address-list file" "AddressList::Load" allocation with
    | some error => .error error
    | none => loadRows version file.faulty [] rest
  | _ => .error (parseError "Address-list file has an unsupported header")

def load (list : AddressList) (file : InputFile) (allocation : Allocation) :
 BackendM (Result Unit×AddressList) :=
 match loadEntries file allocation with
 | .error error => return (.error error,list)
 | .ok entries => return (.ok (),{ entries,nextId := highestId entries+1 })

end AddressList
end KDbg
