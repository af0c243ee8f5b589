import KDbg.Error
import KDbg.InteractionRuns
set_option autoImplicit false
/-! The interface `IProcessMemory` as calls and answers, with the guard that
disarms writing on every way out of an operation. -/
namespace KDbg
open Interaction

inductive ProcessCall where
 | processId
 | isOpen
 | writesArmed
 | setWritesArmed (armed : Bool)
 | read (address : UInt64) (length : UInt32)
 | write (address : UInt64) (data : List UInt8)

def ProcessAnswer : ProcessCall→Type
 | .processId => UInt32
 | .isOpen => Bool
 | .writesArmed => Bool
 | .setWritesArmed _ => Result Unit
 | .read _ _ => Result (List UInt8)
 | .write _ _ => Result UInt32

abbrev ProcessEvent := Event ProcessCall ProcessAnswer
abbrev ProcessM := Prog ProcessCall ProcessAnswer

def ProcessCall.isWrite : ProcessCall→Bool
 | .write _ _ => true
 | _ => false

namespace ProcessMemory

def processId : ProcessM UInt32 := Prog.ask ProcessCall.processId

def isOpen : ProcessM Bool := Prog.ask ProcessCall.isOpen

def writesArmed : ProcessM Bool := Prog.ask ProcessCall.writesArmed

def setWritesArmed (armed : Bool) : ProcessM (Result Unit) :=
 Prog.ask (ProcessCall.setWritesArmed armed)

def read (address : UInt64) (length : UInt32) : ProcessM (Result (List UInt8)) :=
 Prog.ask (ProcessCall.read address length)

def write (address : UInt64) (data : List UInt8) : ProcessM (Result UInt32) :=
 Prog.ask (ProcessCall.write address data)

end ProcessMemory

structure ProcessWriteArmGuard where
 armed : Bool

namespace ProcessWriteArmGuard

def disarm (guard : ProcessWriteArmGuard) : ProcessM (Result Unit×ProcessWriteArmGuard) := do
 if !guard.armed then return (.ok (),guard)
 match ← ProcessMemory.setWritesArmed false with
 | .ok () => return (.ok (),{ guard with armed := false })
 | .error e => return (.error e,guard)

/-- The destructor: a guard that is still armed disarms once more and drops the answer. -/
def destroy (guard : ProcessWriteArmGuard) : ProcessM Unit := do
 if guard.armed then
  let _ ← ProcessMemory.setWritesArmed false

/-- The lifetime of a guard: whichever way the body returns, the destructor runs after it. -/
def withGuard {α : Type} (armed : Bool)
 (body : ProcessWriteArmGuard→ProcessM (α×ProcessWriteArmGuard)) : ProcessM α := do
 let (result,guard) ← body { armed }
 guard.destroy
 return result

inductive Disarming : Bool→List ProcessEvent→Result Unit→Prop where
 | idle : Disarming false [] (.ok ())
 | disarmed : Disarming true [⟨.setWritesArmed false, .ok ()⟩] (.ok ())
 | failed (e:Error) (again:Result Unit) : Disarming true
  [⟨.setWritesArmed false, .error e⟩,⟨.setWritesArmed false,again⟩] (.error e)

variable {t:List ProcessEvent}

/-- `disarm` leaves a guard whose destructor is silent, or it has failed. -/
lemma disarm_exec {guard after:ProcessWriteArmGuard} {r:Result Unit}
 (h:guard.disarm.Exec t (r,after)) :
 (∃ e,r=.error e ∧ guard.armed=true ∧ after.armed=true ∧
  t=[⟨.setWritesArmed false, .error e⟩]) ∨
  (r=.ok () ∧ after.armed=false ∧ Disarming guard.armed t (.ok ())) := by
 unfold disarm at h
 split at h
 · rename_i unarmed
   obtain ⟨rfl,hr⟩:=h.of_pure
   cases hr
   have off:guard.armed=false:=by simpa using unarmed
   exact .inr ⟨rfl,off,off ▸ .idle⟩
 · rename_i armed
   have on:guard.armed=true:=by simpa using armed
   rw [on]
   obtain ⟨closed,u,rfl,hu⟩:=h.of_ask
   cases closed with
   | ok =>
    obtain ⟨rfl,hr⟩:=hu.of_pure
    cases hr
    exact .inr ⟨rfl,rfl, .disarmed⟩
   | error e =>
    obtain ⟨rfl,hr⟩:=hu.of_pure
    cases hr
    exact .inl ⟨e,rfl,rfl,on,rfl⟩

lemma destroy_armed_exec {guard:ProcessWriteArmGuard} (armed:guard.armed=true)
 (h:guard.destroy.Exec t ()) : ∃ again,t=[⟨.setWritesArmed false,again⟩] := by
 unfold destroy at h
 simp only [armed,if_true] at h
 obtain ⟨again,u,rfl,hu⟩:=h.of_ask
 obtain ⟨rfl,-⟩:=hu.of_pure
 exact ⟨again,rfl⟩

lemma destroy_disarmed_exec {guard:ProcessWriteArmGuard} (disarmed:guard.armed=false)
 (h:guard.destroy.Exec t ()) : t=[] := by
 unfold destroy at h
 simp only [disarmed,Bool.false_eq_true,if_false] at h
 exact h.of_pure.1

lemma withGuard_exec {α:Type} {armed:Bool}
 {body:ProcessWriteArmGuard→ProcessM (α×ProcessWriteArmGuard)} {a:α}
 (h:(withGuard armed body).Exec t a) :
 ∃ u guard v,t=u++v ∧ (body { armed }).Exec u (a,guard) ∧ guard.destroy.Exec v () := by
 obtain ⟨u,⟨b,guard⟩,v,rfl,hb,h⟩:=h.of_bind
 obtain ⟨v,⟨⟩,w,rfl,hd,h⟩:=h.of_bind
 obtain ⟨rfl,rfl⟩:=h.of_pure
 exact ⟨u,guard,v,by simp,hb,hd⟩

end ProcessWriteArmGuard

/-- Arm for one write, issue it and disarm. The two operations of a session that write differ
 in the words for a short count only. -/
def armedWrite (message operation : String) (address : UInt64) (data : List UInt8) :
 ProcessM (Result Unit) := do
 match ← ProcessMemory.setWritesArmed true with
 | .error e => return .error e
 | .ok () =>
  let written ← ProcessMemory.write address data
  match ← ProcessMemory.setWritesArmed false with
  | .error e => return .error e
  | .ok () =>
   match written with
   | .error e => return .error e
   | .ok count =>
    if count.toNat≠data.length then
     return .error (makeError .shortWrite message operation 0 (UInt64.ofNat data.length)
      count.toUInt64)
    else return .ok ()

inductive ArmedWrite (address:UInt64) (data:List UInt8) :
 List ProcessEvent→Result Unit→Prop where
 | refused (e:Error) : ArmedWrite address data [⟨.setWritesArmed true, .error e⟩] (.error e)
 | failed (written:Result UInt32) (closed:Result Unit) (e:Error)
  (cause:closed=.ok () → ∀ count,written=.ok count → count.toNat≠data.length) :
  ArmedWrite address data [⟨.setWritesArmed true, .ok ()⟩,⟨.write address data,written⟩,
   ⟨.setWritesArmed false,closed⟩] (.error e)
 | written (count:UInt32) (full:count.toNat=data.length) :
  ArmedWrite address data [⟨.setWritesArmed true, .ok ()⟩,⟨.write address data, .ok count⟩,
   ⟨.setWritesArmed false, .ok ()⟩] (.ok ())

lemma armedWrite_exec {message operation:String} {address:UInt64} {data:List UInt8}
 {t:List ProcessEvent} {r:Result Unit}
 (h:(armedWrite message operation address data).Exec t r) : ArmedWrite address data t r := by
 obtain ⟨armed,u,rfl,hu⟩:=h.of_ask
 cases armed with
 | error e =>
  obtain ⟨rfl,rfl⟩:=hu.of_pure
  exact .refused e
 | ok =>
  obtain ⟨written,v,rfl,hv⟩:=hu.of_ask
  obtain ⟨closed,w,rfl,hw⟩:=hv.of_ask
  cases closed with
  | error e =>
   obtain ⟨rfl,rfl⟩:=hw.of_pure
   exact .failed written _ e (by simp)
  | ok =>
   cases written with
   | error e =>
    obtain ⟨rfl,rfl⟩:=hw.of_pure
    exact .failed _ _ e (by simp)
   | ok count =>
    dsimp only at hw
    split at hw
    · rename_i short
      obtain ⟨rfl,rfl⟩:=hw.of_pure
      refine .failed _ _ _ fun _ _ same => ?_
      cases same
      exact short
    · rename_i full
      obtain ⟨rfl,rfl⟩:=hw.of_pure
      exact .written count (not_not.1 full)

end KDbg
