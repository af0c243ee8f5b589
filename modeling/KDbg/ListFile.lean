import KDbg.Interaction
import KDbg.ValueCodec
set_option autoImplicit false
/-! The files of the two address lists: what a list that is saved asks of the file system, what a
file answers to the list that loads it, and the numbers that both write for the value types. -/
namespace KDbg
open Interaction

/-- A destination, as far as `Save` looks at it. -/
structure ListFilePath where
 parent : String
 filename : String
deriving DecidableEq,Repr

def ListFilePath.empty (path : ListFilePath) : Bool := path.parent == "" && path.filename == ""

inductive ListSaveFault where
 | none
 | afterFlushBeforeReplace
deriving DecidableEq,Repr

/-- What `Save` asks for: the allocator, and the stream of the temporary file. -/
inductive ListFileCall where
 | allocate
 | openOutput
 | write (bytes : List UInt8)
 | outputGood
 | flush
 | close
 | flushFileToDisk
 | replaceAtomically
 | removeTemporary

def ListFileAnswer : ListFileCall→Type
 | .allocate => Allocation
 | .openOutput | .outputGood => Bool
 | .write _ | .flush | .close | .removeTemporary => Unit
 | .flushFileToDisk | .replaceAtomically => Result Unit

abbrev ListFileEvent := Event ListFileCall ListFileAnswer
abbrev ListFileM := Prog ListFileCall ListFileAnswer

namespace ListFile

section
variable {t:List ListFileEvent} {body:ListFileM (Result Unit)}

def openOutput : ListFileM Bool := Prog.ask ListFileCall.openOutput

def write (bytes : List UInt8) : ListFileM Unit := Prog.ask (ListFileCall.write bytes)

def outputGood : ListFileM Bool := Prog.ask ListFileCall.outputGood

def flushFileToDisk : ListFileM (Result Unit) := Prog.ask ListFileCall.flushFileToDisk

def replaceAtomically : ListFileM (Result Unit) := Prog.ask ListFileCall.replaceAtomically

def valueTypes : List ScanValueType :=
 [.int8, .uint8, .int16, .uint16, .int32, .uint32, .int64, .uint64, .float, .double, .utf8, .utf16,
  .byteArray]

def typeCode (type : ScanValueType) : ℕ := valueTypes.idxOf type

def typeOfCode (code : ℕ) : Option ScanValueType := valueTypes[code]?

lemma typeOfCode_typeCode (type:ScanValueType) : typeOfCode (typeCode type)=some type := by
 cases type <;> rfl

lemma typeCode_lt (type:ScanValueType) : typeCode type<13 := by
 cases type <;> decide

/-- What is reported when an allocation throws one of the two exceptions that are caught. -/
def allocationError (what operation : String) : Allocation→Option Error
 | .grown => none
 | .badAlloc =>
  some (makeError .limitReached (what ++ " exhausted the allocation budget") operation)
 | .lengthError =>
  some (makeError .limitReached (what ++ " requested an invalid allocation") operation)

/-- From the last byte of the temporary file to its place at the destination. -/
def commit (operation flushing : String) (fault : ListSaveFault) : ListFileM (Result Unit) := do
 let failure (message : String) : Result Unit := .error (makeError .ioFailure message operation)
 (Prog.ask ListFileCall.flush : ListFileM Unit)
 if !(← outputGood) then return failure flushing
 else
  (Prog.ask ListFileCall.close : ListFileM Unit)
  if !(← outputGood) then
   return failure "Failed while closing the temporary address-list file"
  else match ← flushFileToDisk with
   | .error error => return .error error
   | .ok () =>
    if fault=.afterFlushBeforeReplace then
     return failure "Injected address-list failure before atomic replacement"
    else replaceAtomically

/-- Whatever fails after the temporary file is named also removes it. -/
def cleaned (body : ListFileM (Result Unit)) : ListFileM (Result Unit) := do
 match ← body with
 | .ok () => return .ok ()
 | .error error =>
  (Prog.ask ListFileCall.removeTemporary : ListFileM Unit)
  return .error error

def written (t : List ListFileEvent) : List UInt8 :=
 t.flatMap fun event=>match event.call with
  | .write bytes => bytes
  | _ => []

@[simp] lemma written_append (t u:List ListFileEvent) :
 written (t++u)=written t++written u := List.flatMap_append

lemma commit_exec {operation flushing:String} {fault:ListSaveFault} {r:Result Unit}
 (h:(commit operation flushing fault).Exec t r) : written t=[] := by
 obtain ⟨⟨⟩,u,rfl,hu⟩:=h.of_ask
 obtain ⟨good,v,rfl,hv⟩:=hu.of_ask
 cases good with
 | false =>
  obtain ⟨rfl,-⟩:=hv.of_pure
  rfl
 | true =>
  obtain ⟨⟨⟩,w,rfl,hw⟩:=hv.of_ask
  obtain ⟨good,x,rfl,hx⟩:=hw.of_ask
  cases good with
  | false =>
   obtain ⟨rfl,-⟩:=hx.of_pure
   rfl
  | true =>
   obtain ⟨durable,y,rfl,hy⟩:=hx.of_ask
   cases durable with
   | error =>
    obtain ⟨rfl,-⟩:=hy.of_pure
    rfl
   | ok =>
    by_cases injected:fault=.afterFlushBeforeReplace
    · simp only [injected,if_true] at hy
      obtain ⟨rfl,-⟩:=hy.of_pure
      rfl
    · simp only [injected,if_false] at hy
      obtain ⟨_,z,rfl,hz⟩:=hy.of_call
      obtain ⟨rfl,-⟩:=hz.of_ret
      rfl

/-- A cleaned body that succeeds has made its own calls only. -/
lemma cleaned_ok (h:(cleaned body).Exec t (.ok ())) : body.Exec t (.ok ()) := by
 obtain ⟨u,outcome,v,rfl,hu,hv⟩:=h.of_bind
 cases outcome with
 | error =>
  obtain ⟨⟨⟩,w,rfl,hw⟩:=hv.of_ask
  exact hw.of_error.elim
 | ok =>
  obtain ⟨rfl,-⟩:=hv.of_pure
  simpa using hu

lemma cleaned_of_ok (h:body.Exec t (.ok ())) : (cleaned body).Exec t (.ok ()) :=
 (Prog.exec_bind _ _ _ _).2 ⟨t, .ok (),[],by simp,h, .ret _⟩

end

end ListFile

/-- How a file answers the code that reads it: the size that the file system reports, whether it
 opens, its bytes, and whether reading past them fails instead of ending. -/
structure InputFile where
 size : Except UInt64 ℕ
 opens : Bool
 bytes : List UInt8
 faulty : Bool

def InputFile.holding (bytes : List UInt8) : InputFile :=
 { size := .ok bytes.length,opens := true,bytes,faulty := false }

end KDbg
