import KDbg.MemoryBackend
set_option autoImplicit false
namespace KDbg
open Interaction

structure WriteGateGuard where
 enabled : Bool := false

namespace WriteGateGuard

def enable (gate : WriteGateGuard) : BackendM (Result Unit×WriteGateGuard) := do
 match ← setWriteEnabled true with
 | .error refused =>
  match ← setWriteEnabled false with
  | .error failClosed =>
   return (.error { failClosed with
    message := "Physical write-gate enable failed and fail-closed cleanup also failed: " ++
     failClosed.message },gate)
  | .ok () => return (.error refused,gate)
 | .ok () => return (.ok (),{ gate with enabled := true })

def close (gate : WriteGateGuard) : BackendM (Result Unit×WriteGateGuard) := do
 if !gate.enabled then return (.ok (),gate)
 match ← setWriteEnabled false with
 | .ok () => return (.ok (),{ gate with enabled := false })
 | .error e => return (.error e,gate)

/-- The destructor: a gate that is still enabled is closed once more, and the answer is dropped. -/
def destroy (gate : WriteGateGuard) : BackendM Unit := do
 if gate.enabled then
  let _ ← setWriteEnabled false

/-- The lifetime of a guard: whichever way the body returns, the destructor runs after it. -/
def withGuard {α : Type} (body : WriteGateGuard→BackendM (α×WriteGateGuard)) : BackendM α := do
 let (result,gate) ← body {}
 gate.destroy
 return result

/-- Both page transactions have one skeleton: open the gate, issue one call, close the gate.
 The rest of their bodies works on the session alone and is left to the two functions. -/
def transact {α : Type} (call : BackendCall) (refused : Error → α)
 (settled : BackendAnswer call→Result Unit → α) : BackendM α :=
 withGuard fun gate=>do
  let (opened,gate) ← gate.enable
  match opened with
  | .error e => return (refused e,gate)
  | .ok () =>
   let answer ← Prog.ask call
   let (closed,gate) ← gate.close
   return (settled answer closed,gate)

/-- The traces of `enable` on a fresh guard: a refused enable is followed by one close. -/
inductive Opening : List BackendEvent→Result Unit→Prop where
 | opened : Opening [⟨.setWriteEnabled true, .ok ()⟩] (.ok ())
 | refused (e:Error) (closed:Result Unit) (r:Error) :
  Opening [⟨.setWriteEnabled true, .error e⟩,⟨.setWriteEnabled false,closed⟩] (.error r)

/-- The traces of `close` on an enabled guard together with its destructor. -/
inductive Closing : List BackendEvent→Result Unit→Prop where
 | closed : Closing [⟨.setWriteEnabled false, .ok ()⟩] (.ok ())
 | failed (e:Error) (again:Result Unit) :
  Closing [⟨.setWriteEnabled false, .error e⟩,⟨.setWriteEnabled false,again⟩] (.error e)

variable {t:List BackendEvent}

section
variable {r:Result Unit} {α:Type} {call:BackendCall}

lemma enable_exec {gate:WriteGateGuard} {after:WriteGateGuard}
 (h:gate.enable.Exec t (r,after)) :
 Opening t r ∧ after.enabled=(r.isOk || gate.enabled) := by
 obtain ⟨opened,u,rfl,hu⟩:=h.of_ask
 cases opened with
 | ok =>
  obtain ⟨rfl,rfl,rfl⟩:=hu.of_pure_prod
  exact ⟨.opened,rfl⟩
 | error =>
  obtain ⟨closed,v,rfl,hv⟩:=hu.of_ask
  cases closed with
  | ok | error =>
   obtain ⟨rfl,rfl,rfl⟩:=hv.of_pure_prod
   exact ⟨.refused _ _ _,rfl⟩

lemma close_destroy_exec {gate after:WriteGateGuard} {u:List BackendEvent}
 (enabled:gate.enabled=true) (h:gate.close.Exec t (r,after))
 (hd:after.destroy.Exec u ()) : Closing (t++u) r := by
 unfold close at h
 simp only [enabled,Bool.not_true,Bool.false_eq_true,↓reduceIte] at h
 obtain ⟨closed,v,rfl,hv⟩:=h.of_ask
 cases closed with
 | ok =>
  obtain ⟨rfl,rfl,rfl⟩:=hv.of_pure_prod
  obtain ⟨rfl,-⟩:=hd.of_pure
  exact .closed
 | error e =>
  obtain ⟨rfl,rfl,rfl⟩:=hv.of_pure_prod
  unfold destroy at hd
  simp only [enabled,↓reduceIte] at hd
  obtain ⟨again,w,rfl,hw⟩:=hd.of_ask
  obtain ⟨rfl,-⟩:=hw.of_pure
  exact .failed e again

lemma destroy_disabled_exec {gate:WriteGateGuard} (disabled:gate.enabled=false)
 (h:gate.destroy.Exec t ()) : t=[] := by
 unfold destroy at h
 simp only [disabled,Bool.false_eq_true,↓reduceIte] at h
 exact h.of_pure.1

lemma withGuard_exec {body:WriteGateGuard→BackendM (α×WriteGateGuard)} {a:α}
 (h:(withGuard body).Exec t a) :
 ∃ u gate v,t=u++v ∧ (body {}).Exec u (a,gate) ∧ gate.destroy.Exec v () := by
 obtain ⟨u,⟨b,gate⟩,v,rfl,hb,h⟩:=h.of_bind
 obtain ⟨v,⟨⟩,w,rfl,hd,h⟩:=h.of_bind
 obtain ⟨rfl,rfl⟩:=h.of_pure
 exact ⟨u,gate,v,by simp,hb,hd⟩

lemma transact_exec {refused:Error → α} {settled:BackendAnswer call→Result Unit → α} {a:α}
 (h:(transact call refused settled).Exec t a) :
 (∃ e,Opening t (.error e) ∧ a=refused e) ∨
 (∃ answer closing closed,Closing closing closed ∧ a=settled answer closed ∧
  t=⟨.setWriteEnabled true, .ok ()⟩::⟨call,answer⟩::closing) := by
 obtain ⟨w,_,v,rfl,hw,hv⟩:=withGuard_exec h
 obtain ⟨g,⟨opened,_⟩,u,rfl,hg,hu⟩:=hw.of_bind
 obtain ⟨opening,enabled⟩:=enable_exec hg
 cases opened with
 | error e =>
  obtain ⟨rfl,rfl,rfl⟩:=hu.of_pure_prod
  obtain rfl := destroy_disabled_exec enabled hv
  exact .inl ⟨e,by simpa using opening,rfl⟩
 | ok =>
  cases opening
  obtain ⟨answer,z,rfl,hz⟩:=hu.of_ask
  obtain ⟨c,⟨closed,_⟩,d,rfl,hc,hd⟩:=hz.of_bind
  obtain ⟨rfl,rfl,rfl⟩:=hd.of_pure_prod
  exact .inr ⟨answer,c++v,closed,close_destroy_exec enabled hc hv,rfl,by simp⟩

lemma transact_opened {refused:Error → α} {settled:BackendAnswer call→Result Unit → α}
 {answer:BackendAnswer call} {closing:List BackendEvent} {closed:Result Unit}
 (closes:Closing closing closed) :
 (transact call refused settled).Exec
  (⟨.setWriteEnabled true, .ok ()⟩::⟨call,answer⟩::closing) (settled answer closed) := by
 cases closes with
 | closed => exact .call _ (.call _ (.call _ (.ret _)))
 | failed => exact .call _ (.call _ (.call _ (.call _ (.ret _))))

lemma transact_refused {refused:Error → α} {settled:BackendAnswer call→Result Unit → α}
 (e:Error) :
 (transact call refused settled).Exec
  [⟨.setWriteEnabled true, .error e⟩,⟨.setWriteEnabled false, .ok ()⟩] (refused e) :=
 .call _ (.call _ (.ret _))

end

end WriteGateGuard
end KDbg
