import Mathlib.Data.Nat.Notation
set_option autoImplicit false
/-! What the two drivers have in common: the process that controls a device, and how a request
finds the context of its file object. -/
namespace KDbg

structure Driver.Caller where
 process : UInt64
 pid : UInt32
deriving DecidableEq,Repr

structure Ownership where
 ownerProcess : UInt64 := 0
 ownerPid : UInt32 := 0
 openHandleCount : Int32 := 0

namespace Ownership

/-- The section of `DispatchCreate` under the `OwnerLock`; the device may belong to another
 process. -/
def claim (s:Ownership) (caller:Driver.Caller) : Option Ownership :=
 if s.ownerProcess≠0 ∧ s.ownerProcess≠caller.process then none
 else some ⟨caller.process,caller.pid,s.openHandleCount+1⟩

/-- The section of `CleanupFileContext` under the `OwnerLock`. -/
def release (s:Ownership) : Ownership :=
 let count := if 0 < s.openHandleCount then s.openHandleCount-1 else s.openHandleCount
 if count=0 then ⟨0,0,count⟩ else { s with openHandleCount := count }

end Ownership

/-- A request on a file object. The I/O manager does not send it while it is `barred`. -/
def onContext {κ σ γ:Type} (barred:Bool) (found:Option κ) (absent:γ) (s:σ)
 (body:κ→Option γ×σ) : Option γ×σ :=
 if barred then (none,s)
 else match found with
  | none => (some absent,s)
  | some context => body context

lemma onContext_cases {κ σ γ:Type} {barred:Bool} {found:Option κ} {absent:γ} {s:σ}
 {body:κ→Option γ×σ} {P:Option γ→σ→Prop} (idle:∀r,P r s)
 (live:∀context,barred=false → found=some context→P (body context).1 (body context).2) :
 P (onContext barred found absent s body).1 (onContext barred found absent s body).2 := by
 unfold onContext
 split
 · exact idle _
 · rename_i sent
   split
   · exact idle _
   · exact live _ (by simpa using sent) rfl

end KDbg
