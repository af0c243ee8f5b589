import KDbg.WriteGate
set_option autoImplicit false
/-! `VerifiedWriter`: one gated process write between two reads, authorised by a
one-shot arm token. -/
namespace KDbg
open Interaction

structure VerifiedWriteResult where
 space : MemorySpace := {}
 address : UInt64 := 0
 before : List UInt8 := []
 requested : List UInt8 := []
 readback : List UInt8 := []
 verified : Bool := false

structure VerifiedWriteArmToken where
 pid : UInt32 := 0
 valid : Bool := false

namespace VerifiedWriteArmToken

def ofPid (pid : UInt32) : VerifiedWriteArmToken := { pid,valid := pid != 0 }

/-- Whether the token matched, and the token that is left: it never matches again. -/
def consume (token : VerifiedWriteArmToken) (pid : UInt32) : Bool×VerifiedWriteArmToken :=
 (token.valid && pid != 0 && token.pid == pid,{ pid := 0,valid := false })

end VerifiedWriteArmToken

namespace VerifiedWriter

def kMaxWriteLength : ℕ := 1024*1024

def armProcessWrite (confirmedPid : UInt32) : Result VerifiedWriteArmToken :=
 if confirmedPid=0 then
  .error (makeError .invalidArgument "Process-write confirmation requires a non-zero PID"
   "VerifiedWriter::ArmProcessWrite")
 else .ok (.ofPid confirmedPid)

/-- The checks of `Write` that come before any call, in order. -/
def argumentError (token : VerifiedWriteArmToken) (space : MemorySpace) (address : UInt64)
 (data : List UInt8) (expectedBefore : Option (List UInt8)) : Option Error :=
 let operation := "VerifiedWriter::Write"
 if space.kind≠.processVirtual then
  some (makeError .unsupported ("Generic verified writes are process-virtual only; use " ++
   "PhysicalPageSession for typed-confirmed physical transactions") operation)
 else if space.pid=0 then
  some (makeError .invalidArgument "Process-virtual writes require a non-zero PID" operation)
 else if !(token.consume space.pid).1 then
  some (makeError .writeLocked
   "Verified process write requires a fresh matching PID arm token" operation)
 else if data.length=0 ∨ data.length > kMaxWriteLength ∨ data.length > 0xFFFFFFFF then
  some (makeError (if data.length > kMaxWriteLength then .limitReached else .invalidArgument)
   "Verified write requires a non-empty bounded payload" operation 0
   (UInt64.ofNat kMaxWriteLength) (UInt64.ofNat data.length))
 else if address > maxUInt64-UInt64.ofNat data.length then
  some (makeError .addressOverflow "Verified write address range overflowed" operation)
 else
  match expectedBefore with
  | some expected =>
   if expected.length≠data.length then
    some (makeError .invalidArgument "Expected-before data must match the write length"
     operation 0 (UInt64.ofNat data.length) (UInt64.ofNat expected.length))
   else none
  | none => none

/-- What `Write` makes of the read before the write. -/
def beforeVerdict (data : List UInt8) (expectedBefore : Option (List UInt8)) :
 Result (List UInt8)→Result (List UInt8)
 | .error e => .error e
 | .ok before =>
  if before.length≠data.length then
   .error (makeError .shortRead "Pre-write read returned fewer bytes than requested"
    "VerifiedWriter::Write" 0 (UInt64.ofNat data.length) (UInt64.ofNat before.length))
  else if expectedBefore.any (fun expected=>decide (expected≠before)) then
   .error (makeError .concurrentModification
    "Memory changed after it was presented to the user" "VerifiedWriter::Write")
  else .ok before

/-- What `Write` makes of the answer to the write, once the gate has closed. -/
def writtenVerdict (data : List UInt8) : Result UInt32→Result Unit
 | .error e => .error e
 | .ok written =>
  if written.toNat≠data.length then
   .error (makeError .shortWrite "Backend wrote fewer bytes than requested"
    "VerifiedWriter::Write" 0 (UInt64.ofNat data.length) written.toUInt64)
  else .ok ()

/-- What `Write` makes of the read after the write. -/
def readbackVerdict (data : List UInt8) : Result (List UInt8)→Result (List UInt8)
 | .error e => .error e
 | .ok readback =>
  if readback≠data then
   .error (makeError .verificationMismatch
    "Write read-back did not match the requested bytes" "VerifiedWriter::Write" 0
    (UInt64.ofNat data.length) (UInt64.ofNat readback.length))
  else .ok readback

def write (token : VerifiedWriteArmToken) (space : MemorySpace) (address : UInt64)
 (data : List UInt8) (expectedBefore : Option (List UInt8)) :
 BackendM (Result VerifiedWriteResult) := do
 match argumentError token space address data expectedBefore with
 | some e => return .error e
 | none =>
  let length := UInt32.ofNat data.length
  match beforeVerdict data expectedBefore (← readMemory space address length) with
  | .error e => return .error e
  | .ok before =>
   match ← setWriteEnabled true with
   | .error refused =>
    match ← setWriteEnabled false with
    | .error failClosed =>
     return .error { failClosed with
      message := "Write-gate enable failed and fail-closed cleanup also failed: " ++
       failClosed.message }
    | .ok () => return .error refused
   | .ok () =>
    let written ← writeMemory space address data
    match ← setWriteEnabled false with
    | .error e =>
     let retry ← setWriteEnabled false
     let cleanup := match retry with
      | .ok () => "; a cleanup retry locked the gate, but the transaction is failed"
      | .error again => "; cleanup retry also failed: " ++ again.message
     let lost := match written with
      | .ok _ => ""
      | .error failed => "; the write also failed: " ++ failed.message
     return .error { e with message := e.message++cleanup++lost }
    | .ok () =>
     match writtenVerdict data written with
     | .error e => return .error e
     | .ok () =>
      match readbackVerdict data (← readMemory space address length) with
      | .error e => return .error e
      | .ok readback =>
       return .ok { space,address,before,requested := data,readback,verified := true }

variable {token:VerifiedWriteArmToken} {expectedBefore:Option (List UInt8)}

section
variable {before data:List UInt8} {bytes:Result (List UInt8)}

/-- A write that reaches the backend addresses a process. -/
lemma process_of_argumentError {space:MemorySpace} {address:UInt64}
 (h:argumentError token space address data expectedBefore=none) :
 space.kind=.processVirtual ∧ space.pid≠0 ∧ (token.consume space.pid).1=true := by
 unfold argumentError at h
 split at h
 · cases h
 · rename_i kind
   split at h
   · cases h
   · rename_i pid
     split at h
     · cases h
     · rename_i armed
       exact ⟨not_not.1 kind,pid,by simpa using armed⟩

inductive WriteExit (space:MemorySpace) (address:UInt64) (data:List UInt8)
 (expectedBefore:Option (List UInt8)) :
 List BackendEvent→Result VerifiedWriteResult→Prop where
 | rejected (e:Error) : WriteExit space address data expectedBefore [] (.error e)
 | unread (bytes:Result (List UInt8)) (e:Error) :
  WriteExit space address data expectedBefore
   [⟨.readProcessVirtual space.pid address (UInt32.ofNat data.length),bytes⟩] (.error e)
 | refused (bytes:Result (List UInt8)) (gate:List BackendEvent) (e r:Error)
  (opening:WriteGateGuard.Opening gate (.error e)) :
  WriteExit space address data expectedBefore
   (⟨.readProcessVirtual space.pid address (UInt32.ofNat data.length),bytes⟩::gate)
   (.error r)
 | failed (bytes:Result (List UInt8)) (written:Result UInt32) (closing:List BackendEvent)
  (closed:Result Unit) (e:Error) (closes:WriteGateGuard.Closing closing closed) :
  WriteExit space address data expectedBefore
   (⟨.readProcessVirtual space.pid address (UInt32.ofNat data.length),bytes⟩ ::
    ⟨.setWriteEnabled true, .ok ()⟩ ::
    ⟨.writeProcessVirtual space.pid address data,written⟩::closing) (.error e)
 | unverified (bytes:Result (List UInt8)) (written:Result UInt32)
  (readback:Result (List UInt8)) (e:Error) :
  WriteExit space address data expectedBefore
   [⟨.readProcessVirtual space.pid address (UInt32.ofNat data.length),bytes⟩,
    ⟨.setWriteEnabled true, .ok ()⟩,
    ⟨.writeProcessVirtual space.pid address data,written⟩,
    ⟨.setWriteEnabled false, .ok ()⟩,
    ⟨.readProcessVirtual space.pid address (UInt32.ofNat data.length),readback⟩] (.error e)
 | verified (before:List UInt8) (written:UInt32)
  (expected:∀ page,expectedBefore=some page → page=before)
  (length:written.toNat=data.length) :
  WriteExit space address data expectedBefore
   [⟨.readProcessVirtual space.pid address (UInt32.ofNat data.length), .ok before⟩,
    ⟨.setWriteEnabled true, .ok ()⟩,
    ⟨.writeProcessVirtual space.pid address data, .ok written⟩,
    ⟨.setWriteEnabled false, .ok ()⟩,
    ⟨.readProcessVirtual space.pid address (UInt32.ofNat data.length), .ok data⟩]
   (.ok { space,address,before,requested := data,readback := data,verified := true })

lemma beforeVerdict_eq_ok (h:beforeVerdict data expectedBefore bytes=.ok before) :
 bytes=.ok before ∧ ∀expected,expectedBefore=some expected → expected=before := by
 cases bytes with
 | error => cases h
 | ok =>
  unfold beforeVerdict at h
  dsimp only at h
  split at h
  · cases h
  · split at h
    · cases h
    · rename_i same
      cases h
      refine ⟨rfl,fun _ present => ?_⟩
      simpa [present] using same

lemma writtenVerdict_eq_ok {written:Result UInt32} (h:writtenVerdict data written=.ok ()) :
 ∃ count : UInt32,written=.ok count ∧ count.toNat=data.length := by
 cases written with
 | error => cases h
 | ok count =>
  unfold writtenVerdict at h
  dsimp only at h
  split at h
  · cases h
  · rename_i length
    exact ⟨count,rfl,not_not.1 length⟩

lemma readbackVerdict_eq_ok {readback:List UInt8}
 (h:readbackVerdict data bytes=.ok readback) : bytes=.ok data ∧ readback=data := by
 cases bytes with
 | error => cases h
 | ok =>
  unfold readbackVerdict at h
  dsimp only at h
  split at h
  · cases h
  · rename_i same
    obtain rfl := not_not.1 same
    cases h
    exact ⟨rfl,rfl⟩

lemma write_exit {space:MemorySpace} {address:UInt64} {t:List BackendEvent}
 {r:Result VerifiedWriteResult} (h:(write token space address data expectedBefore).Exec t r)
 : WriteExit space address data expectedBefore t r := by
 unfold write at h
 cases checked:argumentError token space address data expectedBefore with
 | some e =>
  simp only [checked] at h
  obtain ⟨rfl,rfl⟩:=h.of_pure
  exact .rejected e
 | none =>
  obtain ⟨kind,pid,-⟩:=process_of_argumentError checked
  simp only [checked,readMemory,writeMemory,kind,pid,if_false] at h
  obtain ⟨bytes,u,rfl,hu⟩:=h.of_ask
  cases read:beforeVerdict data expectedBefore bytes with
  | error e =>
   simp only [read] at hu
   obtain ⟨rfl,rfl⟩:=hu.of_pure
   exact .unread bytes e
  | ok before =>
   simp only [read] at hu
   obtain ⟨opened,v,rfl,hv⟩:=hu.of_ask
   cases opened with
   | error refused =>
    obtain ⟨closed,w,rfl,hw⟩:=hv.of_ask
    cases closed with
    | error | ok =>
     obtain ⟨rfl,rfl⟩:=hw.of_pure
     exact .refused bytes _ refused _ (.refused refused _ _)
   | ok =>
    obtain ⟨written,w,rfl,hw⟩:=hv.of_ask
    obtain ⟨closed,x,rfl,hx⟩:=hw.of_ask
    cases closed with
    | error e =>
     obtain ⟨retry,y,rfl,hy⟩:=hx.of_ask
     obtain ⟨rfl,rfl⟩:=hy.of_pure
     exact .failed bytes written _ _ _ (.failed e retry)
    | ok =>
     cases complete:writtenVerdict data written with
     | error =>
      simp only [complete] at hx
      obtain ⟨rfl,rfl⟩:=hx.of_pure
      exact .failed bytes written _ _ _ .closed
     | ok =>
      simp only [complete] at hx
      obtain ⟨readback,y,rfl,hy⟩:=hx.of_ask
      cases same:readbackVerdict data readback with
      | error e =>
       simp only [same] at hy
       obtain ⟨rfl,rfl⟩:=hy.of_pure
       exact .unverified bytes written readback e
      | ok =>
       simp only [same] at hy
       obtain ⟨rfl,rfl⟩:=hy.of_pure
       obtain ⟨rfl,expected⟩:=beforeVerdict_eq_ok read
       obtain ⟨count,rfl,length⟩:=writtenVerdict_eq_ok complete
       obtain ⟨rfl,rfl⟩:=readbackVerdict_eq_ok same
       exact .verified before count expected length

lemma write_verified {space:MemorySpace} {address:UInt64} {written:UInt32}
 (checked:argumentError token space address data expectedBefore=none)
 (read:beforeVerdict data expectedBefore (.ok before)=.ok before)
 (complete:writtenVerdict data (.ok written)=.ok ()) :
 (write token space address data expectedBefore).Exec
  [⟨.readProcessVirtual space.pid address (UInt32.ofNat data.length), .ok before⟩,
   ⟨.setWriteEnabled true, .ok ()⟩,
   ⟨.writeProcessVirtual space.pid address data, .ok written⟩,
   ⟨.setWriteEnabled false, .ok ()⟩,
   ⟨.readProcessVirtual space.pid address (UInt32.ofNat data.length), .ok data⟩]
  (.ok { space,address,before,requested := data,readback := data,verified := true }) := by
 obtain ⟨kind,pid,-⟩:=process_of_argumentError checked
 have same:readbackVerdict data (.ok data)=.ok data:=by simp [readbackVerdict]
 unfold write
 simp only [checked,readMemory,writeMemory,kind,pid,if_false]
 refine (Prog.exec_ask_bind _ _ _ _).2 ⟨.ok before,_,rfl,?_⟩
 simp only [read]
 refine (Prog.exec_ask_bind _ _ _ _).2 ⟨.ok (),_,rfl,?_⟩
 refine (Prog.exec_ask_bind _ _ _ _).2 ⟨.ok written,_,rfl,?_⟩
 refine (Prog.exec_ask_bind _ _ _ _).2 ⟨.ok (),_,rfl,?_⟩
 simp only [complete]
 refine (Prog.exec_ask_bind _ _ _ _).2 ⟨.ok data,_,rfl,?_⟩
 simp only [same]
 exact .ret _

end

end VerifiedWriter
end KDbg
