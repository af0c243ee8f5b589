import KDbg.ByteCodec
import KDbg.Crc32
import KDbg.MemoryBackend
set_option autoImplicit false
/-!
# Memory snapshots

`MemorySnapshot`: a range of memory with the space it was read from, its checksum
and its file. A label is a byte string. An allocation that may throw is a call
that is answered with how it ends.
-/
namespace KDbg
open Interaction ByteCodec

def u32Codec : Codec UInt32 where
 size := 4
 encode value := littleEndian 4 value.toNat
 decode bytes := UInt32.ofNat (ofLittleEndian bytes)
 length_encode value := length_littleEndian 4 value.toNat
 decode_encode value := by
  have small : value.toNat<256^4 := value.toNat_lt
  rw [ofLittleEndian_littleEndian,Nat.mod_eq_of_lt small,UInt32.ofNat_toNat]
 encode_decode bytes length := by
  have small : ofLittleEndian bytes<2^32 := by
   have bound := ofLittleEndian_lt bytes
   rwa [length] at bound
  rw [UInt32.toNat_ofNat',Nat.mod_eq_of_lt small,← length,littleEndian_ofLittleEndian]

def u64Codec : Codec UInt64 where
 size := 8
 encode value := littleEndian 8 value.toNat
 decode bytes := UInt64.ofNat (ofLittleEndian bytes)
 length_encode value := length_littleEndian 8 value.toNat
 decode_encode value := by
  have small : value.toNat<256^8 := value.toNat_lt
  rw [ofLittleEndian_littleEndian,Nat.mod_eq_of_lt small,UInt64.ofNat_toNat]
 encode_decode bytes length := by
  have small : ofLittleEndian bytes<2^64 := by
   have bound := ofLittleEndian_lt bytes
   rwa [length] at bound
  rw [UInt64.toNat_ofNat',Nat.mod_eq_of_lt small,← length,littleEndian_ofLittleEndian]

structure SnapshotHeader where
 magic : Fin 8→UInt8
 version : UInt32
 kind : UInt32
 pid : UInt32
 reserved : UInt32
 directoryTableBase : UInt64
 address : UInt64
 byteCount : UInt64
 checksum : UInt32
 labelSize : UInt32

namespace SnapshotHeader

def fields : SnapshotHeader ≃ (Fin 8→UInt8)×UInt32×UInt32×UInt32×UInt32×UInt64 ×
 UInt64×UInt64×UInt32×UInt32 where
 toFun header := (header.magic,header.version,header.kind,header.pid,header.reserved,
  header.directoryTableBase,header.address,header.byteCount,header.checksum,header.labelSize)
 invFun := fun (magic,version,kind,pid,reserved,directoryTableBase,address,byteCount,
  checksum,labelSize) => ⟨magic,version,kind,pid,reserved,directoryTableBase,address,
   byteCount,checksum,labelSize⟩
 left_inv _ := rfl
 right_inv _ := rfl

def codec : Codec SnapshotHeader :=
 ((Codec.raw 8).pair <| u32Codec.pair <| u32Codec.pair <| u32Codec.pair <| u32Codec.pair <|
  u64Codec.pair <| u64Codec.pair <| u64Codec.pair <| u32Codec.pair u32Codec).record fields

def size : ℕ := codec.size

lemma size_eq : size=56 := rfl

end SnapshotHeader

structure SnapshotSpace where
 kind : MemorySpaceKind := .physical
 pid : UInt32 := 0
 directoryTableBase : UInt64 := 0
 label : List UInt8 := "Physical memory".toUTF8.data.toList
deriving DecidableEq,Repr

structure MemorySnapshot where
 space : SnapshotSpace := {}
 address : UInt64 := 0
 bytes : List UInt8 := []
 checksum : UInt32 := 0
deriving DecidableEq,Repr

inductive SnapshotProgressPhase where
 | captureRead
 | captureChecksum
 | diff
 | save
 | loadRead
 | loadChecksum
deriving DecidableEq,Repr

structure SnapshotProgress where
 phase : SnapshotProgressPhase := .captureRead
 completed : UInt64 := 0
 total : UInt64 := 0
 runs : ℕ := 0
deriving DecidableEq,Repr

inductive SnapshotSaveFault where
 | none
 | afterFlushBeforeReplace
deriving DecidableEq,Repr

/-- A destination, as far as `Save` looks at it. -/
structure SnapshotPath where
 parent : String
 filename : String
deriving DecidableEq,Repr

def SnapshotPath.empty (path : SnapshotPath) : Bool := path.parent == "" && path.filename == ""

/-- What the snapshot code asks of its surroundings: the stop token, the progress callback, the
 process, the allocator, the stream of the temporary file, and the stream that is read. -/
inductive SnapshotCall where
 | stopRequested
 | progress (state : SnapshotProgress)
 | isOpen
 | processId
 | read (address : UInt64) (length : UInt32)
 | allocate
 | openOutput
 | write (bytes : List UInt8)
 | flush
 | close
 | outputGood
 | flushFileToDisk
 | replaceAtomically
 | removeTemporary
 | openInput
 | fileSize
 | readInput (count : ℕ)
 | peekEof

/-- A read of the input stream brings all the bytes it was asked for, or the stream has failed. -/
def SnapshotAnswer : SnapshotCall→Type
 | .stopRequested | .isOpen | .openOutput | .outputGood | .openInput | .peekEof => Bool
 | .progress _ | .write _ | .flush | .close | .removeTemporary => Unit
 | .processId => UInt32
 | .read _ _ => Result (List UInt8)
 | .allocate => Allocation
 | .flushFileToDisk | .replaceAtomically => Result Unit
 | .fileSize => Except UInt64 ℕ
 | .readInput count => Option { bytes : List UInt8 // bytes.length=count }

abbrev SnapshotEvent := Event SnapshotCall SnapshotAnswer
abbrev SnapshotM := Prog SnapshotCall SnapshotAnswer

namespace MemorySnapshot

def kMaxSnapshotBytes : ℕ := 512*1024*1024
def kMaxChunkBytes : ℕ := 1024*1024
def kMaxLabelBytes : ℕ := 1024*1024
def kProgressCheckpointBytes : ℕ := 64*1024

def kMagic : Fin 8→UInt8 := ![0x4B,0x44,0x42,0x47,0x53,0x4E,0x50,0]

def stopRequested : SnapshotM Bool := Prog.ask SnapshotCall.stopRequested

def reportProgress (phase : SnapshotProgressPhase) (completed total : ℕ) : SnapshotM Unit :=
 Prog.ask (SnapshotCall.progress
  { phase,completed := UInt64.ofNat completed,total := UInt64.ofNat total })

def read (address : UInt64) (length : UInt32) : SnapshotM (Result (List UInt8)) :=
 Prog.ask (SnapshotCall.read address length)

def write (bytes : List UInt8) : SnapshotM Unit := Prog.ask (SnapshotCall.write bytes)

def outputGood : SnapshotM Bool := Prog.ask SnapshotCall.outputGood

def readInput (count : ℕ) : SnapshotM (Option { bytes : List UInt8 // bytes.length=count }) :=
 Prog.ask (SnapshotCall.readInput count)

def peekEof : SnapshotM Bool := Prog.ask SnapshotCall.peekEof

def cancelled {α : Type} (operation message : String) : Result α :=
 .error (makeError .cancelled message operation)

/-- The handlers of a block that allocates; `what` says what it was doing. -/
def guardAllocation {α : Type} (what operation : String) (body : SnapshotM (Result α)) :
 SnapshotM (Result α) := do
 match ← (Prog.ask SnapshotCall.allocate : SnapshotM Allocation) with
 | .grown => body
 | .badAlloc =>
  return .error (makeError .limitReached (what ++ " exhausted the allocation budget") operation)
 | .lengthError =>
  return .error (makeError .limitReached (what ++ " requested an invalid allocation") operation)

def validateSnapshotSpace (space : SnapshotSpace) (operation : String) : Result Unit :=
 if kMaxLabelBytes < space.label.length then
  .error (makeError .limitReached "Snapshot label exceeds the core limit" operation)
 else match space.kind with
  | .physical | .kernelVirtual =>
   if space.pid≠0 ∨ space.directoryTableBase≠0 then
    .error (makeError .invalidArgument
     "Non-process snapshots must not carry a PID or directory-table base" operation)
   else .ok ()
  | .processVirtual =>
   if space.pid=0 then
    .error (makeError .invalidArgument "Process snapshots require a non-zero PID" operation)
   else .ok ()

def checkedAdd (left right : UInt64) : Option UInt64 :=
 if maxUInt64-left < right then none else some (left+right)

def crc32Entry (index : UInt8) : UInt32 :=
 (List.range 8).foldl (fun value _=>crc32Bit value) index.toUInt32

def crc32Step (crc : UInt32) (byte : UInt8) : UInt32 :=
 (crc >>> 8) ^^^ crc32Entry (crc ^^^ byte.toUInt32).toUInt8

/-- The loop of `Crc32` over the bytes that are left. -/
def crc32Loop (phase : SnapshotProgressPhase) (total : ℕ) :
 List UInt8→ℕ→ℕ→UInt32→SnapshotM (Result UInt32)
 | [],_,_,crc => do
  reportProgress phase total total
  return .ok (~~~ crc)
 | byte::rest,offset,nextCheckpoint,crc => do
  if nextCheckpoint ≤ offset then
   if ← stopRequested then
    return cancelled (if phase=.captureChecksum then "MemorySnapshot::Capture"
     else "MemorySnapshot::Load") "Snapshot checksum was cancelled"
   else
    reportProgress phase offset total
    crc32Loop phase total rest (offset+1) (offset+kProgressCheckpointBytes)
     (crc32Step crc byte)
  else crc32Loop phase total rest (offset+1) nextCheckpoint (crc32Step crc byte)

def crc32 (bytes : List UInt8) (phase : SnapshotProgressPhase) : SnapshotM (Result UInt32) := do
 reportProgress phase 0 bytes.length
 crc32Loop phase bytes.length bytes 0 0 0xFFFFFFFF

/-- The reading loop of `CaptureWithReader`, from `offset` on. -/
def captureLoop (address : UInt64) (size chunkSize : ℕ) (nonzero : 0 < chunkSize) (offset : ℕ)
 (bytes : List UInt8) : SnapshotM (Result (List UInt8)) :=
 if offset < size then do
  if ← stopRequested then
   return cancelled "MemorySnapshot::Capture" "Snapshot capture was cancelled"
  else
   let current := min (size-offset) chunkSize
   match ← read (address+UInt64.ofNat offset) (UInt32.ofNat current) with
   | .error error => return .error error
   | .ok chunk =>
    if chunk.length≠current then
     return .error (makeError .shortRead "Snapshot capture returned a short read"
      "MemorySnapshot::Capture" 0 (UInt64.ofNat current) (UInt64.ofNat chunk.length))
    else
     reportProgress .captureRead (offset+current) size
     captureLoop address size chunkSize nonzero (offset+current) (bytes++chunk)
 else return .ok bytes
termination_by size-offset

/-- The checks of `CaptureWithReader` that come before the stop token is first looked at. -/
def validateCapture (space : SnapshotSpace) (address size : UInt64) (chunkSize : UInt32) :
 Result Unit := do
 validateSnapshotSpace space "MemorySnapshot::Capture"
 if size=0 then
  throw (makeError .invalidArgument "Snapshot size is zero or cannot fit in this process"
   "MemorySnapshot::Capture")
 if kMaxSnapshotBytes < size.toNat then
  throw (makeError .limitReached "Snapshot size exceeds the 512 MiB core limit"
   "MemorySnapshot::Capture" 0 (UInt64.ofNat kMaxSnapshotBytes) size)
 if checkedAdd address size=none then
  throw (makeError .addressOverflow "Snapshot address range overflows" "MemorySnapshot::Capture")
 if chunkSize=0 ∨ kMaxChunkBytes < chunkSize.toNat then
  throw (makeError .invalidArgument "Snapshot chunk size is zero or exceeds the 1 MiB core limit"
   "MemorySnapshot::Capture" 0 (UInt64.ofNat kMaxChunkBytes) chunkSize.toUInt64)

/-- `CaptureWithReader`, where `read` is the reader. -/
def captureWithReader (space : SnapshotSpace) (address size : UInt64) (chunkSize : UInt32) :
 SnapshotM (Result MemorySnapshot) := do
 match validateCapture space address size chunkSize with
 | .error error => return .error error
 | .ok _ =>
  if ← stopRequested then
   return cancelled "MemorySnapshot::Capture" "Snapshot capture was cancelled"
  else
   guardAllocation "Snapshot capture" "MemorySnapshot::Capture" do
    reportProgress .captureRead 0 size.toNat
    match ← captureLoop address size.toNat (max 4096 chunkSize.toNat) (by omega) 0 [] with
    | .error error => return .error error
    | .ok bytes =>
     match ← crc32 bytes .captureChecksum with
     | .error error => return .error error
     | .ok checksum => return .ok { space,address,bytes,checksum }

/-- `Capture` from a backend. -/
def capture (space : SnapshotSpace) (address size : UInt64) (chunkSize : UInt32) :
 SnapshotM (Result MemorySnapshot) :=
 captureWithReader space address size chunkSize

/-- `Capture` from a process, which is asked for its identifier twice. -/
def captureProcess (address size : UInt64) (chunkSize : UInt32) :
 SnapshotM (Result MemorySnapshot) := do
 if !(← (Prog.ask SnapshotCall.isOpen : SnapshotM Bool)) then
  return .error (makeError .backendDisconnected
   "Cannot capture a snapshot without an attached process" "MemorySnapshot::Capture")
 else
  let pid ← (Prog.ask SnapshotCall.processId : SnapshotM UInt32)
  let shown ← (Prog.ask SnapshotCall.processId : SnapshotM UInt32)
  captureWithReader
   { kind := .processVirtual,pid,label := ("PID " ++ toString shown.toNat).toUTF8.data.toList }
   address size chunkSize

/-- `static_cast<std::uint32_t>(kind)`. -/
def kindCode : MemorySpaceKind→UInt32
 | .physical => 0
 | .processVirtual => 1
 | .kernelVirtual => 2

def header (snapshot : MemorySnapshot) : SnapshotHeader where
 magic := kMagic
 version := 1
 kind := kindCode snapshot.space.kind
 pid := snapshot.space.pid
 reserved := 0
 directoryTableBase := snapshot.space.directoryTableBase
 address := snapshot.address
 byteCount := UInt64.ofNat snapshot.bytes.length
 checksum := snapshot.checksum
 labelSize := UInt32.ofNat snapshot.space.label.length

def saveError (message : String) : Error := makeError .ioFailure message "MemorySnapshot::Save"

def saveLoop (total completed : ℕ) (bytes : List UInt8) : SnapshotM (Result Unit) :=
 if bytes=[] then return .ok ()
 else do
  if ← stopRequested then
   return cancelled "MemorySnapshot::Save" "Snapshot save was cancelled"
  else
   write (bytes.take kMaxChunkBytes)
   if !(← outputGood) then return .error (saveError "Failed while writing snapshot file")
   else
    let completed := completed+(bytes.take kMaxChunkBytes).length
    reportProgress .save completed total
    saveLoop total completed (bytes.drop kMaxChunkBytes)
termination_by bytes.length
decreasing_by
 have := List.length_pos_iff.2 ‹bytes≠[]›
 simp only [List.length_drop,kMaxChunkBytes]
 omega

/-- From the last byte of the temporary file to its place at the destination. -/
def commit (fault : SnapshotSaveFault) : SnapshotM (Result Unit) := do
 if ← stopRequested then
  return cancelled "MemorySnapshot::Save" "Snapshot save was cancelled"
 else
  (Prog.ask SnapshotCall.flush : SnapshotM Unit)
  if !(← outputGood) then
   return .error (saveError "Failed while flushing the temporary snapshot")
  else
   (Prog.ask SnapshotCall.close : SnapshotM Unit)
   if !(← outputGood) then
    return .error (saveError "Failed while closing the temporary snapshot")
   else
    match ← (Prog.ask SnapshotCall.flushFileToDisk : SnapshotM (Result Unit)) with
    | .error error => return .error error
    | .ok _ =>
     if ← stopRequested then
      return cancelled "MemorySnapshot::Save" "Snapshot save was cancelled before commit"
     else if fault=.afterFlushBeforeReplace then
      return .error (saveError "Injected snapshot failure before atomic replacement")
     else (Prog.ask SnapshotCall.replaceAtomically : SnapshotM (Result Unit))

/-- The part of `Save` that the temporary file lives through. -/
def writeFile (snapshot : MemorySnapshot) (fault : SnapshotSaveFault) :
 SnapshotM (Result Unit) := do
 if !(← (Prog.ask SnapshotCall.openOutput : SnapshotM Bool)) then
  return .error (saveError "Unable to create snapshot file")
 else
  let label := snapshot.space.label
  let total := SnapshotHeader.size+label.length+snapshot.bytes.length
  reportProgress .save 0 total
  write (SnapshotHeader.codec.encode snapshot.header)
  if ← stopRequested then
   return cancelled "MemorySnapshot::Save" "Snapshot save was cancelled"
  else
   write label
   match ← saveLoop total (SnapshotHeader.size+label.length) snapshot.bytes with
   | .error error => return .error error
   | .ok _ => commit fault

/-- The checks of `Save` that come before the stop token is first looked at. -/
def validateSave (snapshot : MemorySnapshot) : Result Unit := do
 if snapshot.bytes=[] then
  throw (makeError .invalidArgument "Cannot save an empty snapshot" "MemorySnapshot::Save")
 if kMaxSnapshotBytes < snapshot.bytes.length ∨ kMaxLabelBytes < snapshot.space.label.length then
  throw (makeError .limitReached "Snapshot label is too long" "MemorySnapshot::Save")
 validateSnapshotSpace snapshot.space "MemorySnapshot::Save"
 if checkedAdd snapshot.address (UInt64.ofNat snapshot.bytes.length)=none then
  throw (makeError .addressOverflow "Snapshot address range overflows" "MemorySnapshot::Save")

/-- `Save`. Whatever fails after the temporary file is named also removes it. -/
def save (snapshot : MemorySnapshot) (path : SnapshotPath) (fault : SnapshotSaveFault) :
 SnapshotM (Result Unit) := do
 match snapshot.validateSave with
 | .error error => return .error error
 | .ok _ =>
  if ← stopRequested then
   return cancelled "MemorySnapshot::Save" "Snapshot save was cancelled"
  else if path.empty ∨ path.filename = "" then
   return .error (makeError .invalidArgument "Snapshot destination path is invalid"
    "MemorySnapshot::Save")
  else
   guardAllocation "Snapshot save" "MemorySnapshot::Save" do
    match ← snapshot.writeFile fault with
    | .ok _ => return .ok ()
    | .error error =>
     (Prog.ask SnapshotCall.removeTemporary : SnapshotM Unit)
     return .error error

/-- `static_cast<MemorySpaceKind>(kind)` of a code that is not past the last one. -/
def kindOfCode (kind : UInt32) : MemorySpaceKind :=
 if kind=0 then .physical else if kind=1 then .processVirtual else .kernelVirtual

def parseError (message : String) : Error := makeError .parseError message "MemorySnapshot::Load"

/-- The header that `Load` goes on with. -/
def HeaderValid (header : SnapshotHeader) : Prop :=
 header.magic=kMagic ∧ header.version=1 ∧ header.reserved=0 ∧
  header.kind ≤ kindCode .kernelVirtual ∧ header.byteCount≠0 ∧
  header.byteCount.toNat ≤ kMaxSnapshotBytes ∧ header.labelSize.toNat ≤ kMaxLabelBytes

instance (header : SnapshotHeader) : Decidable (HeaderValid header) :=
 inferInstanceAs (Decidable (_ ∧ _))

/-- `expected_size`, when neither it nor the end of the range overflows. -/
def expectedSize (header : SnapshotHeader) : Option UInt64 := do
 let payloadSize ← checkedAdd header.labelSize.toUInt64 header.byteCount
 let expectedSize ← checkedAdd (UInt64.ofNat SnapshotHeader.size) payloadSize
 let _ ← checkedAdd header.address header.byteCount
 return expectedSize

/-- The payload loop of `Load`, from `offset` on. -/
def loadLoop (size payloadTotal completed offset : ℕ) (bytes : List UInt8) :
 SnapshotM (Result (List UInt8)) :=
 if offset < size then do
  if ← stopRequested then
   return cancelled "MemorySnapshot::Load" "Snapshot load was cancelled"
  else
   let count := min (size-offset) kMaxChunkBytes
   match ← readInput count with
   | none => return .error (parseError "Snapshot file is truncated")
   | some chunk =>
    reportProgress .loadRead (completed+count) payloadTotal
    loadLoop size payloadTotal (completed+count) (offset+count) (bytes++chunk.1)
 else return .ok bytes
termination_by size-offset
decreasing_by
 simp only [kMaxChunkBytes]
 omega

def loadPayload (header : SnapshotHeader) (space : SnapshotSpace) :
 SnapshotM (Result MemorySnapshot) := do
 let labelSize := header.labelSize.toNat
 let byteCount := header.byteCount.toNat
 match ← loadLoop byteCount (labelSize+byteCount) labelSize 0 [] with
 | .error error => return .error error
 | .ok bytes =>
  if !(← peekEof) then
   return .error (parseError "Snapshot file is truncated or has trailing data")
  else
   match ← crc32 bytes .loadChecksum with
   | .error error => return .error error
   | .ok checksum =>
    if checksum≠header.checksum then
     return .error (makeError .verificationMismatch
      "Snapshot checksum does not match its payload" "MemorySnapshot::Load")
    else return .ok { space,address := header.address,bytes,checksum }

/-- From a header whose lengths are right. The space is checked while it has its default label. -/
def loadBody (header : SnapshotHeader) : SnapshotM (Result MemorySnapshot) := do
 let space : SnapshotSpace :=
  { kind := kindOfCode header.kind,pid := header.pid,
    directoryTableBase := header.directoryTableBase }
 match validateSnapshotSpace space "MemorySnapshot::Load" with
 | .error error => return .error (parseError error.message)
 | .ok _ =>
  reportProgress .loadRead 0 (header.labelSize.toNat+header.byteCount.toNat)
  if ← stopRequested then
   return cancelled "MemorySnapshot::Load" "Snapshot load was cancelled"
  else
   guardAllocation "Snapshot file" "MemorySnapshot::Load" do
    match ← readInput header.labelSize.toNat with
    | none => return .error (parseError "Snapshot file is truncated")
    | some label =>
     guardAllocation "Snapshot file" "MemorySnapshot::Load"
      (loadPayload header { space with label := label.1 })

def load : SnapshotM (Result MemorySnapshot) := do
 if ← stopRequested then
  return cancelled "MemorySnapshot::Load" "Snapshot load was cancelled"
 else if !(← (Prog.ask SnapshotCall.openInput : SnapshotM Bool)) then
  return .error (makeError .ioFailure "Unable to open snapshot file" "MemorySnapshot::Load")
 else
  match ← (Prog.ask SnapshotCall.fileSize : SnapshotM (Except UInt64 ℕ)) with
  | .error native =>
   return .error (makeError .ioFailure "Unable to determine snapshot file size"
    "MemorySnapshot::Load" native)
  | .ok fileSize =>
   match ← readInput SnapshotHeader.size with
   | none => return .error (parseError "Snapshot file header is invalid")
   | some packed =>
    let header := SnapshotHeader.codec.decode packed.1
    if ¬ HeaderValid header then
     return .error (parseError "Snapshot file header is invalid")
    else if (expectedSize header).map UInt64.toNat≠some fileSize then
     return .error (parseError "Snapshot file length or address range is invalid")
    else loadBody header

/-- Surroundings in which nothing fails; the memory holds at each address its lowest byte. -/
def sampleMemory : (call : SnapshotCall)→SnapshotAnswer call
 | .stopRequested | .isOpen | .openOutput | .outputGood | .openInput | .peekEof => false
 | .progress _ | .write _ | .flush | .close | .removeTemporary => ()
 | .processId => (0 : UInt32)
 | .read address length =>
  (.ok (bytesAt UInt64.toUInt8 address length.toNat) : Result (List UInt8))
 | .allocate => Allocation.grown
 | .flushFileToDisk | .replaceAtomically => (.ok () : Result Unit)
 | .fileSize => (.ok 0 : Except UInt64 ℕ)
 | .readInput _ => none

end MemorySnapshot
end KDbg
