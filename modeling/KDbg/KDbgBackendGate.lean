import KDbg.KDbgBackendExits
set_option autoImplicit false
/-! Which call authorises a write that the client sends. -/
namespace KDbg.KDbgBackend
open Interaction
open Driver (kWriteAckMagic)

def Sends (x : BackendStep) : Prop := ∃ e∈x.trace,e.call.isWrite=true

def Enables (x : BackendStep) : Prop := x.op=.setWriteEnabled true ∧ x.result=.ok ()

/-- A write call, or a call that asks for a closed gate, whatever it returns. -/
def Spends (x : BackendStep) : Prop := x.op.isWrite=true ∨ x.op=.setWriteEnabled false

/-- The last enabling is still unspent. -/
def Authorised (h : List BackendStep) : Prop := ∃ y,Since (fun z => ¬ Spends z) h y ∧ Enables y

/-- Every write that the client sends is authorised by an enabling before it. -/
def WritesAuthorised (h : List BackendStep) : Prop :=
 ∀ (i : ℕ) x,h[i]?=some x→Sends x→Authorised (h.take i)

/-- A status query, made while the client takes the gate for closed, is answered with an open
 gate. -/
def Reopens (pid : UInt32) (x : BackendStep) : Prop :=
 x.op=.querySessionStatus ∧ x.before.writeEnabled=false ∧
  ∃ returned response,x.trace=[⟨.getSessionStatus, .ok (returned,response)⟩] ∧
   acceptsStatus pid returned response=true ∧ (sessionStatus response).writeEnabled=true

section Steps
variable {pid:UInt32} {s s':Impl} {op:Op} {t:List DeviceEvent} {r:Outcome}

lemma StepExit.attached (h:StepExit pid s op t r s') (before:Attached s) : Attached s' := by
 have locked {u:List DeviceEvent} (exit:Locked s u s') : Attached s' := by
  refine ⟨?_,fun on => ?_⟩
  · rw [exit.device,exit.connected,before.connected]
  · cases exit.closed.symm.trans on
 cases h with
 | read => exact before
 | moved r _ exit => exact exit.attached
 | observed _ _ _ attached => exact ⟨before.connected,fun _=>attached⟩
 | gate enabled exit =>
  cases exit with
  | disabled forced | failed _ _ forced => exact locked forced.locked
  | enabled attached => exact ⟨before.connected,fun _=>attached⟩
 | write r _ exit => exact locked exit.locked

lemma StepExit.sends (h:StepExit pid s op t r s') (sends:Sends ⟨op,s,t,r,s'⟩) :
 s.writeEnabled=true := by
 obtain ⟨e,mem,write⟩:=sends
 have unsent {u:List DeviceEvent} (unarmed:Unarmed u) (here:e∈u) :
  s.writeEnabled=true := by
  cases (unarmed e here).symm.trans write
 cases h with
 | read r reading => exact unsent reading.unarmed mem
 | moved r _ exit => exact unsent exit.unarmed mem
 | observed =>
  rw [List.mem_singleton.1 mem] at write
  cases write
 | gate enabled exit =>
  cases exit with
  | disabled forced => exact unsent forced.calls.unarmed mem
  | enabled =>
   rw [List.mem_singleton.1 mem] at write
   cases write
  | failed _ calls forced =>
   rcases List.mem_append.1 mem with left|right
   · rw [calls e left] at write
     cases write
   · exact unsent forced.calls.unarmed right
 | write r _ exit =>
  rcases exit.sends with armed|unarmed
  · exact armed
  · exact unsent unarmed mem

inductive ViewStep (pid:UInt32) (x:BackendStep) : Prop where
 | enabled (enables:Enables x)
 | reopened (reopens:Reopens pid x)
 | kept (open_:x.before.writeEnabled=true) (unspent:¬ Spends x)

lemma StepExit.viewStep (h:StepExit pid s op t r s') (on:s'.writeEnabled=true) :
 ViewStep pid ⟨op,s,t,r,s'⟩ := by
 cases h with
 | read r _ plain ungated =>
  refine .kept on ?_
  rintro (write | disable)
  · cases plain.symm.trans write
  · exact ungated false disable
 | moved r _ exit => cases exit.closed.symm.trans on
 | observed returned response accepted =>
  cases view:s.writeEnabled with
  | false => exact .reopened ⟨rfl,view,returned,response,rfl,accepted,on⟩
  | true => exact .kept view (by rintro (⟨⟨⟩⟩ | ⟨⟨⟩⟩))
 | gate enabled exit =>
  cases exit with
  | disabled forced | failed _ _ forced => cases forced.locked.closed.symm.trans on
  | enabled => exact .enabled ⟨rfl,rfl⟩
 | write r _ exit => cases exit.locked.closed.symm.trans on

end Steps

lemma run_attached {pid:UInt32} {h:List BackendStep} {s:Impl}
 (run:(machine pid).Run h s) : Attached s :=
 run.invariant Attached ⟨rfl,by rintro ⟨⟩⟩ fun x valid before =>
  (step_exit x valid before).attached before

/-- An open view of the gate is owed to an enabling that nothing has spent. -/
lemma run_authorised {pid:UInt32} {h:List BackendStep} {s:Impl}
 (run:(machine pid).Run h s) (steady:∀x∈h,¬Reopens pid x)
 (on:s.writeEnabled=true) : Authorised h := by
 refine run.history_invariant (fun h s=>(∀x∈h,¬Reopens pid x) → s.writeEnabled=true →
  Authorised h) ?_ ?_ steady on
 · rintro-⟨⟩
 · intro _ x before valid earlier steady on
   cases (step_exit x valid (run_attached before)).viewStep on with
   | enabled enables => exact ⟨x, .here _ _ _,enables⟩
   | reopened reopens => exact absurd reopens (steady x (by simp))
   | kept open_ unspent =>
    obtain ⟨y,since,enables⟩ :=
     earlier (fun z mem=>steady z (List.mem_append_left _ mem)) open_
    exact ⟨y,since.snoc unspent,enables⟩

theorem run_writes_authorised {pid : UInt32} {h : List BackendStep} {s : Impl}
 (run : (machine pid).Run h s) (steady : ∀ x∈h,¬ Reopens pid x) : WritesAuthorised h := by
 intro i x hx sends
 obtain ⟨before,valid⟩ := run.before_eq hx
 refine run_authorised before (fun z mem=>steady z (List.mem_of_mem_take mem)) ?_
 exact (step_exit x valid (run_attached before)).sends sends

def sampleStatus (flags : UInt32) : Device.SessionStatusResponse :=
 ⟨64,flags,4,4,1,0,0,0,0,0,0,0,0⟩

def sampleLocked : DeviceEvent := ⟨.getSessionStatus, .ok (64,sampleStatus 1)⟩

def sampleOpen : DeviceEvent := ⟨.getSessionStatus, .ok (64,sampleStatus 3)⟩

def sampleClient (view : Bool) : Impl :=
 { device := true,connected := true,writeEnabled := view,abiVersion := 7,
   maxTransfer := 0x100000 }

def sampleConnected : BackendStep :=
 ⟨.open,{},[⟨.createFile, .ok ()⟩,⟨.getVersion, .ok (24,⟨24,7,1,1,0x100000,0x1EF⟩)⟩,
  sampleLocked], .ok (),sampleClient false⟩

def sampleEnabled : BackendStep :=
 ⟨.setWriteEnabled true,sampleClient false,[⟨.setWriteMode enableRequest, .ok (0,())⟩], .ok (),
  sampleClient true⟩

/-- One byte at `0x1000`: the request is lost, and the cleanup after it is not. -/
def sampleWritten (view : Bool) : BackendStep :=
 ⟨.writePhysical 0x1000 [7],sampleClient view,
  [⟨.writePhysical ⟨33,0,0x1000,1,0,kWriteAckMagic,[7]⟩, .error 31⟩,
   ⟨.setWriteMode disableRequest, .ok (0,())⟩,sampleLocked],
  .error (makeError .ioFailure "DeviceIoControl failed" "KDbgBackend::WritePhysical" 31),
  sampleClient false⟩

lemma sampleConnected_valid : (machine 4).Valid sampleConnected :=
 .call _ (.call _ (.call _ (.ret _)))

lemma sampleEnabled_valid : (machine 4).Valid sampleEnabled := .call _ (.ret _)

lemma sampleWritten_valid : (machine 4).Valid (sampleWritten true) :=
 .call _ (.call _ (.call _ (.ret _)))

lemma sampleEnabled_run : (machine 4).Run [sampleConnected,sampleEnabled] (sampleClient true) :=
 (Machine.Run.nil.snoc sampleConnected rfl sampleConnected_valid).snoc sampleEnabled rfl
  sampleEnabled_valid

lemma sampleWritten_run : (machine 4).Run [sampleConnected,sampleEnabled,sampleWritten true]
 (sampleClient false) :=
 sampleEnabled_run.snoc (sampleWritten true) rfl sampleWritten_valid

lemma sampleWritten_sends (view:Bool) : Sends (sampleWritten view) :=
 ⟨_,List.mem_cons_self,rfl⟩

theorem sampleWritten_authorised :
 Sends (sampleWritten true) ∧ Authorised [sampleConnected,sampleEnabled] := by
 refine ⟨sampleWritten_sends true,run_writes_authorised sampleWritten_run ?_ 2 _ rfl
  (sampleWritten_sends true)⟩
 simp only [List.forall_mem_cons]
 exact ⟨by rintro ⟨⟨⟩,-⟩,by rintro ⟨⟨⟩,-⟩,by rintro ⟨⟨⟩,-⟩,by simp⟩

/-- A request for a closed gate that is lost together with the status query after it. -/
def uncertainDisabled : BackendStep :=
 ⟨.setWriteEnabled false,sampleClient true,
  [⟨.setWriteMode disableRequest, .error 1450⟩,⟨.getSessionStatus, .error 1450⟩],
  .error ⟨.ioFailure,"Write-gate disable failed and the locked state could not be proven: " ++
   "DeviceIoControl failed","KDbgBackend::SetWriteEnabled",1450,0,0⟩,sampleClient false⟩

/-- The gate that was never closed shows in the next status. -/
def uncertainPolled : BackendStep :=
 ⟨.querySessionStatus,sampleClient false,[sampleOpen], .ok (),sampleClient true⟩

def uncertainHistory : List BackendStep :=
 [sampleConnected,sampleEnabled,uncertainDisabled,uncertainPolled,sampleWritten true]

lemma uncertainDisabled_valid : (machine 4).Valid uncertainDisabled := .call _ (.call _ (.ret _))

lemma uncertainPolled_valid : (machine 4).Valid uncertainPolled := .call _ (.ret _)

lemma uncertainHistory_run : (machine 4).Run uncertainHistory (sampleClient false) :=
 ((sampleEnabled_run.snoc uncertainDisabled rfl uncertainDisabled_valid).snoc uncertainPolled rfl
  uncertainPolled_valid).snoc (sampleWritten true) rfl sampleWritten_valid

/-- After a failed request for a closed gate, a status query alone authorises a write. -/
theorem uncertainHistory_writes :
 (∃ s,(machine 4).Run uncertainHistory s) ∧ Sends (sampleWritten true) ∧
  ¬ WritesAuthorised uncertainHistory := by
 refine ⟨⟨_,uncertainHistory_run⟩,sampleWritten_sends true,fun authorised => ?_⟩
 obtain ⟨y,since,enables⟩ := authorised 4 _ rfl (sampleWritten_sends true)
 change Since _ ([sampleConnected,sampleEnabled,uncertainDisabled]++[uncertainPolled]) y
  at since
 rcases since.of_snoc with rfl | ⟨since,-⟩
 · cases enables.1
 · change Since _ ([sampleConnected,sampleEnabled]++[uncertainDisabled]) y at since
   rcases since.of_snoc with rfl | ⟨-,unspent⟩
   · cases enables.1
   · exact unspent (.inr rfl)

end KDbg.KDbgBackend
