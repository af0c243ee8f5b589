import KDbg.Crc32
import KDbg.DriverOwnership
set_option autoImplicit false
/-! The KDbgProbe driver: one page of contiguous memory behind a device with a single controlling
process. A cleanup has two sections here, the exchange on `CleanedUp` and the one under the
`OwnerLock`. -/
namespace KDbg
open Interaction ExclusiveOwner
open Driver (Caller Irp)

def NtStatus.invalidDeviceRequest : NtStatus := 0xC0000010

namespace ProbeDriver

def kProbeAbiVersion : UInt32 := 1
def kProbeWriteAckMagic : UInt64 := 0x4B44424750524F42
def kProbeActionReset : UInt32 := 1
def kProbeActionFill : UInt32 := 2
def kProbeInfoResponseSize : UInt32 := 48
def kProbeControlRequestSize : UInt32 := 24

structure InfoResponse where
 size : UInt32
 abiVersion : UInt32
 generation : UInt32
 byteCount : UInt32
 virtualAddress : UInt64
 physicalAddress : UInt64
 pfn : UInt64
 crc32 : UInt32
 reserved : UInt32

structure ControlRequest where
 size : UInt32
 action : UInt32
 fillByte : UInt32
 reserved : UInt32
 acknowledge : UInt64

inductive Ioctl where
 | getInfo (irp : Irp Unit)
 | control (irp : Irp ControlRequest)
 | other

structure Completion where
 status : NtStatus
 information : ℕ := 0
 output : Option InfoResponse := none

structure FileContext where
 cleanedUp : Bool := false
 owner : Caller
deriving DecidableEq,Repr

def FileContext.isController (context : FileContext) (caller : Caller) : Bool :=
 !context.cleanedUp && context.owner.process == caller.process && context.owner.pid == caller.pid

inductive Pending where
 | control (file : ℕ) (ioctl : Ioctl)
 | release (file : ℕ) (closing : Bool)
 | free (file : ℕ)

def Pending.file : Pending→ℕ
 | .control file _ | .release file _ | .free file => file

def Pending.isClosing : Pending→Bool
 | .control _ _ => false
 | .release _ closing => closing
 | .free _ => true

end ProbeDriver

structure ProbeDriver extends Ownership where
 files : List (Option ProbeDriver.FileContext) := []
 pending : List (Option ProbeDriver.Pending) := []
 buffer : Page
 virtualAddress : UInt64
 physicalAddress : UInt64
 generation : UInt32

namespace ProbeDriver

def context (s : ProbeDriver) (file : ℕ) : Option FileContext := s.files[file]?.join

def setContext (s : ProbeDriver) (file : ℕ) (context : Option FileContext) : ProbeDriver :=
 { s with files := s.files.set file context }

def request (s : ProbeDriver) (id : ℕ) : Option Pending := s.pending[id]?.join

def enqueue (s : ProbeDriver) (next : Pending) : ProbeDriver :=
 { s with pending := s.pending++[some next] }

def advance (s : ProbeDriver) (id : ℕ) (next : Option Pending) : ProbeDriver :=
 { s with pending := s.pending.set id next }

def isBusy (s : ProbeDriver) (file : ℕ) : Bool :=
 s.pending.any fun slot=>slot.any fun next=>next.file == file

def isClosing (s : ProbeDriver) (file : ℕ) : Bool :=
 s.pending.any fun slot=>slot.any fun next=>next.file == file && next.isClosing

def resetPattern (s : ProbeDriver) : ProbeDriver :=
 { s with
   buffer := fun i=>UInt8.ofNat ((i.val*17+0x3D)%256)
   generation := s.generation+1 }

def fill (value : UInt32) (s : ProbeDriver) : ProbeDriver :=
 { s with
   buffer := fun _=>(value &&& 0xFF).toUInt8
   generation := s.generation+1 }

def getInfo (irp : Irp Unit) (s : ProbeDriver) : Completion :=
 if irp.buffer.isNone ∨ irp.inputLength≠0 ∨ irp.outputLength≠kProbeInfoResponseSize then
  { status := .bufferTooSmall }
 else
  { status := .success
    information := kProbeInfoResponseSize.toNat
    output := some
     { size := kProbeInfoResponseSize
       abiVersion := kProbeAbiVersion
       generation := s.generation
       byteCount := UInt32.ofNat kPhysicalPageSize
       virtualAddress := s.virtualAddress
       physicalAddress := s.physicalAddress
       pfn := s.physicalAddress >>> 12
       crc32 := crc32 (List.ofFn s.buffer)
       reserved := 0 } }

def control (irp : Irp ControlRequest) (s : ProbeDriver) : Completion×ProbeDriver :=
 match irp.buffer with
 | none => ({ status := .bufferTooSmall },s)
 | some request =>
  if irp.inputLength≠kProbeControlRequestSize ∨ irp.outputLength≠0 then
   ({ status := .bufferTooSmall },s)
  else if request.size≠kProbeControlRequestSize ∨ request.reserved≠0 ∨
   request.acknowledge≠kProbeWriteAckMagic then
   ({ status := .accessDenied },s)
  else if request.action=kProbeActionReset ∧ request.fillByte≠0 then
   ({ status := .invalidParameter },s)
  else if request.action=kProbeActionFill ∧ 0xFF < request.fillByte then
   ({ status := .invalidParameter },s)
  else if request.action≠kProbeActionReset ∧ request.action≠kProbeActionFill then
   ({ status := .invalidParameter },s)
  else if request.action=kProbeActionReset then ({ status := .success },s.resetPattern)
  else ({ status := .success },s.fill request.fillByte)

def handle : Ioctl→ProbeDriver → Completion×ProbeDriver
 | .getInfo irp,s => (s.getInfo irp,s)
 | .control irp,s => s.control irp
 | .other,s => ({ status := .invalidDeviceRequest },s)

inductive Op where
 | create (caller : Caller)
 | deviceControl (file : ℕ) (caller : Caller) (ioctl : Ioctl)
 | cleanup (file : ℕ)
 | close (file : ℕ)
 | resume (id : ℕ)

def dispatchCreate (caller : Caller) (s : ProbeDriver) :
 KernelM (Option Completion×ProbeDriver) := do
 let allocated ← Kernel.allocatePool
 let refused := { s with files := s.files++[none] }
 if !allocated then return (some { status := .insufficientResources },refused)
 else match s.claim caller with
  | none => return (some { status := .sharingViolation },refused)
  | some owner =>
   return (some { status := .success },
    { s with toOwnership := owner,files := s.files++[some { owner := caller }] })

def dispatchDeviceControl (file : ℕ) (caller : Caller) (ioctl : Ioctl) (s : ProbeDriver) :
 Option Completion×ProbeDriver :=
 onContext (s.isClosing file) (s.context file) { status := .accessDenied } s fun context =>
  if !context.isController caller then (some { status := .accessDenied },s)
  else (none,s.enqueue (.control file ioctl))

def exchangeCleanedUp (file : ℕ) (context : FileContext) (closing : Bool) (s : ProbeDriver) :
 ProbeDriver :=
 (s.setContext file (some { context with cleanedUp := true })).enqueue (.release file closing)

def dispatchCleanup (file : ℕ) (s : ProbeDriver) : Option Completion×ProbeDriver :=
 onContext (s.isClosing file) (s.context file) { status := .success } s fun context =>
  if context.cleanedUp then (some { status := .success },s)
  else (none,exchangeCleanedUp file context false s)

def dispatchClose (file : ℕ) (s : ProbeDriver) : Option Completion×ProbeDriver :=
 onContext (s.isBusy file) (s.context file) { status := .success } s fun context =>
  if context.cleanedUp then (none,s.enqueue (.free file))
  else (none,exchangeCleanedUp file context true s)

def releaseOwner (s : ProbeDriver) : ProbeDriver := { s with toOwnership := s.release }

def resume (id : ℕ) (s : ProbeDriver) : Option Completion×ProbeDriver :=
 match s.request id with
 | none => (none,s)
 | some (.control _ ioctl) =>
  let (completion,after) := handle ioctl s
  (some completion,after.advance id none)
 | some (.release file closing) =>
  if closing then (none,s.releaseOwner.advance id (some (.free file)))
  else (some { status := .success },s.releaseOwner.advance id none)
 | some (.free file) =>
  (some { status := .success },(s.advance id none).setContext file none)

def exec : Op→ProbeDriver→KernelM (Option Completion×ProbeDriver)
 | .create caller => dispatchCreate caller
 | .deviceControl file caller ioctl => fun s=>return dispatchDeviceControl file caller ioctl s
 | .cleanup file => fun s=>return dispatchCleanup file s
 | .close file => fun s=>return dispatchClose file s
 | .resume id => fun s=>return resume id s

/-- `DriverEntry` has allocated the page and written the pattern once. -/
def start (page : Page) (virtualAddress physicalAddress : UInt64) : ProbeDriver :=
 ProbeDriver.resetPattern
  { buffer := page,virtualAddress,physicalAddress,generation := 0 }

def machine (page : Page) (virtualAddress physicalAddress : UInt64) :
 Machine KernelCall KernelAnswer Op ProbeDriver (Option Completion) where
 init := start page virtualAddress physicalAddress
 exec := exec

end ProbeDriver

abbrev ProbeStep :=
 Step KernelCall KernelAnswer ProbeDriver.Op ProbeDriver (Option ProbeDriver.Completion)

end KDbg
