import KDbg.DeviceOwner
import KDbg.DriverWriteRequests
set_option autoImplicit false
/-!
# The driver under concurrent requests

File objects are numbered in the order of their creation, and so are requests.
A request that is not yet complete stands in `pending` with the section it
executes next; sections of different requests interleave freely. A device
control request makes its controller check before it takes the `WriteLock`.
The I/O manager closes a file object once, after the last request on it is
complete.
-/
namespace KDbg
open Interaction

namespace Driver

structure FileContext where
 writeEnabled : Bool := false
 cleanedUp : Bool := false
 owner : Caller
deriving DecidableEq,Repr

def FileContext.isController (context : FileContext) (caller : Caller) : Bool :=
 !context.cleanedUp && context.owner.process == caller.process && context.owner.pid == caller.pid

/-- What a request does next. The three sections after `control` are those of
 `CleanupFileContext` and `DispatchClose`. -/
inductive Pending where
 | control (file : ℕ) (caller : Caller) (ioctl : Ioctl) (admitted : Bool)
 | revoke (file : ℕ) (closing : Bool)
 | release (file : ℕ) (closing : Bool)
 | free (file : ℕ)

def Pending.file : Pending→ℕ
 | .control file _ _ _ | .revoke file _ | .release file _ | .free file => file

def Pending.isClosing : Pending→Bool
 | .control _ _ _ _ => false
 | .revoke _ closing | .release _ closing => closing
 | .free _ => true

end Driver

structure Driver extends Ownership where
 files : List (Option Driver.FileContext) := []
 pending : List (Option Driver.Pending) := []
 statistics : Statistics := {}

namespace Driver

def context (s : Driver) (file : ℕ) : Option FileContext := s.files[file]?.join

def setContext (s : Driver) (file : ℕ) (context : Option FileContext) : Driver :=
 { s with files := s.files.set file context }

def request (s : Driver) (id : ℕ) : Option Pending := s.pending[id]?.join

def enqueue (s : Driver) (next : Pending) : Driver :=
 { s with pending := s.pending++[some next] }

def advance (s : Driver) (id : ℕ) (next : Option Pending) : Driver :=
 { s with pending := s.pending.set id next }

def isBusy (s : Driver) (file : ℕ) : Bool :=
 s.pending.any fun slot=>slot.any fun next=>next.file == file

def isClosing (s : Driver) (file : ℕ) : Bool :=
 s.pending.any fun slot=>slot.any fun next=>next.file == file && next.isClosing

inductive Op where
 | create (caller : Caller)
 | deviceControl (file : ℕ) (caller : Caller) (ioctl : Ioctl)
 | cleanup (file : ℕ)
 | close (file : ℕ)
 | resume (id : ℕ)

def dispatchCreate (caller : Caller) (s : Driver) : KernelM (Option Completion×Driver) := do
 let allocated ← Kernel.allocatePool
 let refused := { s with files := s.files++[none] }
 if !allocated then return (some { status := .insufficientResources },refused)
 else match s.claim caller with
  | none => return (some { status := .sharingViolation },refused)
  | some owner =>
   return (some { status := .success },
    { s with toOwnership := owner,files := s.files++[some { owner := caller }] })

/-- `IsControllerContext`: what it answers stays with the request. -/
def dispatchDeviceControl (file : ℕ) (caller : Caller) (ioctl : Ioctl) (s : Driver) :
 Option Completion×Driver :=
 onContext (s.isClosing file) (s.context file) { status := .accessDenied } s fun context =>
  (none,s.enqueue (.control file caller ioctl (context.isController caller)))

/-- The exchange on `CleanedUp`: whoever finds it clear goes on to `next`. -/
def exchangeCleanedUp (file : ℕ) (context : FileContext) (next : Pending) (s : Driver) : Driver :=
 (s.setContext file (some { context with cleanedUp := true })).enqueue next

def dispatchCleanup (file : ℕ) (s : Driver) : Option Completion×Driver :=
 onContext (s.isClosing file) (s.context file) { status := .success } s fun context =>
  if context.cleanedUp then (some { status := .success },s)
  else (none,exchangeCleanedUp file context (.revoke file false) s)

def dispatchClose (file : ℕ) (s : Driver) : Option Completion×Driver :=
 onContext (s.isBusy file) (s.context file) { status := .success } s fun context =>
  if context.cleanedUp then (none,s.enqueue (.free file))
  else (none,exchangeCleanedUp file context (.revoke file true) s)

/-- A section under the `WriteLock` of a file context. -/
def locked (file : ℕ) (context : FileContext) (body : Section→KernelM (Completion×Section))
 (s : Driver) : KernelM (Option Completion×Driver) := do
 let (completion,after) ← body
  { writeEnabled := context.writeEnabled,statistics := s.statistics }
 return (some completion,
  { s.setContext file (some { context with writeEnabled := after.writeEnabled }) with
    statistics := after.statistics })

/-- A request that failed the controller check is denied; if it is of the write class, it
 closes the gate first. -/
def control (highestUser : UInt64) (file : ℕ) (ioctl : Ioctl) (admitted : Bool) (s : Driver) :
 KernelM (Option Completion×Driver) :=
 match s.context file with
 | none => return (some { status := .accessDenied },s)
 | some context =>
  if admitted then locked file context (ioctl.handle highestUser) s
  else if ioctl.isWriteClass then
   locked file context (fun held=>return held.reject .accessDenied) s
  else return (some { status := .accessDenied },s)

def revokeGate (file : ℕ) (s : Driver) : Driver :=
 match s.context file with
 | none => s
 | some context => s.setContext file (some { context with writeEnabled := false })

def releaseOwner (s : Driver) : Driver := { s with toOwnership := s.release }

def resume (highestUser : UInt64) (id : ℕ) (s : Driver) : KernelM (Option Completion×Driver) :=
 match s.request id with
 | none => return (none,s)
 | some (.control file _ ioctl admitted) =>
  control highestUser file ioctl admitted (s.advance id none)
 | some (.revoke file closing) =>
  return (none,revokeGate file (s.advance id (some (.release file closing))))
 | some (.release file closing) =>
  let s := s.releaseOwner
  if closing then return (none,s.advance id (some (.free file)))
  else return (some { status := .success },s.advance id none)
 | some (.free file) =>
  return (some { status := .success },(s.advance id none).setContext file none)

def exec (highestUser : UInt64) : Op→Driver→KernelM (Option Completion×Driver)
 | .create caller => dispatchCreate caller
 | .deviceControl file caller ioctl => fun s=>return dispatchDeviceControl file caller ioctl s
 | .cleanup file => fun s=>return dispatchCleanup file s
 | .close file => fun s=>return dispatchClose file s
 | .resume id => resume highestUser id

def machine (highestUser : UInt64) :
 Machine KernelCall KernelAnswer Op Driver (Option Completion) where
 init := {}
 exec := exec highestUser

end Driver

abbrev DriverStep := Step KernelCall KernelAnswer Driver.Op Driver (Option Driver.Completion)

end KDbg
