import KDbg.KDbgBackendSession
set_option autoImplicit false
/-! What each operation of the client can send, and what it leaves in the
client's view of the gate. -/
namespace KDbg
open Interaction

namespace DeviceCall

/-- The calls that leave the driver's gates alone. -/
def isRead : DeviceCall→Bool
 | .getVersion | .getSessionStatus | .getPhysicalRanges | .readPhysical _ | .getProcessContext _
 | .translateVirtual _ | .readProcessMemory _ | .readKernelVirtual _ => true
 | _ => false

def movesHandle : DeviceCall→Bool
 | .createFile | .closeHandle => true
 | _ => false

end DeviceCall

namespace KDbgBackend
open Driver (kWriteAckMagic kWriteModeRequestSize WriteModeRequest)

def disableRequest : WriteModeRequest := ⟨kWriteModeRequestSize,0,kWriteAckMagic⟩

def enableRequest : WriteModeRequest := ⟨kWriteModeRequestSize,1,kWriteAckMagic⟩

/-- The handle of the device after an event, if `held` is whether it was open before. -/
def handleStep (held : Bool) : DeviceEvent→Bool
 | ⟨.createFile,answer⟩ => match (answer : Except UInt32 Unit) with
  | .ok _ => true
  | .error _ => held
 | ⟨.closeHandle,_⟩ => false
 | _ => held

def handleAfter (held : Bool) (t : List DeviceEvent) : Bool := t.foldl handleStep held

def Reading (t : List DeviceEvent) : Prop := ∀ e∈t,e.call.isRead=true

/-- The calls of a cleanup: they ask for a closed gate and for the status. -/
def Closing (t : List DeviceEvent) : Prop :=
 ∀ e∈t,e.call=.setWriteMode disableRequest ∨ e.call=.getSessionStatus

def Steady (t : List DeviceEvent) : Prop := ∀ e∈t,e.call.movesHandle=false

def Unarmed (t : List DeviceEvent) : Prop := ∀ e∈t,e.call.isWrite=false

variable {call:DeviceCall}

section Traces
variable {t u:List DeviceEvent} {e:DeviceEvent}

lemma handleAfter_append (held:Bool) :
 handleAfter held (t++u)=handleAfter (handleAfter held t) u :=
 List.foldl_append

lemma handleStep_steady (held:Bool) (steady:e.call.movesHandle=false) :
 handleStep held e=held := by
 obtain ⟨call,_⟩:=e
 cases call with
 | createFile | closeHandle => cases steady
 | _ => rfl

lemma Steady.handleAfter (steady:Steady t) (held:Bool) :
 KDbgBackend.handleAfter held t=held := by
 induction t with
 | nil => rfl
 | cons e t ih =>
  have head:=handleStep_steady held (steady e List.mem_cons_self)
  change KDbgBackend.handleAfter (handleStep held e) t=held
  rw [head]
  exact ih fun x mem=>steady x (List.mem_cons_of_mem _ mem)

lemma isRead_steady (read:call.isRead=true) : call.movesHandle=false := by
 cases call <;> first | rfl | cases read

lemma isRead_unarmed (read:call.isRead=true) : call.isWrite=false := by
 cases call <;> first | rfl | cases read

lemma Reading.steady (h:Reading t) : Steady t := fun e mem=>isRead_steady (h e mem)

lemma Reading.unarmed (h:Reading t) : Unarmed t := fun e mem=>isRead_unarmed (h e mem)

lemma Closing.steady (h:Closing t) : Steady t := by
 intro e mem
 rcases h e mem with call|call <;> rw [call] <;> rfl

lemma Closing.unarmed (h:Closing t) : Unarmed t := by
 intro e mem
 rcases h e mem with call|call <;> rw [call] <;> rfl

lemma Unarmed.append (h:Unarmed t) (h':Unarmed u) : Unarmed (t++u) := by
 intro e mem
 rcases List.mem_append.1 mem with left|right
 · exact h e left
 · exact h' e right

lemma Steady.append (h:Steady t) (h':Steady u) : Steady (t++u) := by
 intro e mem
 rcases List.mem_append.1 mem with left|right
 · exact h e left
 · exact h' e right

lemma unarmed_nil : Unarmed [] := by simp [Unarmed]

lemma steady_nil : Steady [] := by simp [Steady]

lemma reading_nil : Reading [] := by simp [Reading]

end Traces

def ioctlResult {ρ : Type} (operation : String) : Device.Reply ρ→Result (UInt32×ρ)
 | .error code => .error (makeError
  (if code=errorAccessDenied then .accessDenied else .ioFailure) "DeviceIoControl failed"
  operation code.toUInt64)
 | .ok reply => .ok reply

variable {α ρ:Type} {send:DeviceM (Device.Reply ρ)}

lemma ioctl_exec {s:Impl} {operation:String} {t:List DeviceEvent} {r:Result (UInt32×ρ)}
 (h:(s.ioctl send operation).Exec t r) :
 (s.device=false ∧ t=[] ∧ r=.error (makeError .backendDisconnected
  "KDBG driver handle is not open" operation)) ∨
  (s.device=true ∧ ∃ reply,send.Exec t reply ∧ r=ioctlResult operation reply) := by
 rcases h.of_guard with ⟨closed,rfl,rfl⟩|⟨opened,sent⟩
 · exact .inl ⟨by simpa using closed,rfl,rfl⟩
 · refine .inr ⟨by simpa using opened,?_⟩
   obtain ⟨u,reply,v,rfl,hu,hv⟩:=sent.of_bind
   cases reply with
   | error | ok =>
    obtain ⟨rfl,rfl⟩:=hv.of_pure
    exact ⟨_,by simpa using hu,rfl⟩

lemma ask_exec {t:List DeviceEvent} {answer:DeviceAnswer call}
 (h:(Prog.ask call : DeviceM (DeviceAnswer call)).Exec t answer) : t=[⟨call,answer⟩] := by
 obtain ⟨r,u,rfl,hu⟩:=h.of_call
 obtain ⟨rfl,rfl⟩:=hu.of_ret
 rfl

variable {r:Result Unit}

section Operations
variable {pid:UInt32} {s s':Impl} {t:List DeviceEvent} {operation:String}

inductive StatusExit (pid:UInt32) (s:Impl) :
 List DeviceEvent→Result BackendSessionStatus→Impl→Prop where
 | failed {t:List DeviceEvent} (error:Error)
  (calls:∀ e∈t,e.call=.getSessionStatus) : StatusExit pid s t (.error error) s
 | answered (returned:UInt32) (response:Device.SessionStatusResponse)
  (accepted:acceptsStatus pid returned response=true) (attached:s.device=true) :
  StatusExit pid s [⟨.getSessionStatus, .ok (returned,response)⟩]
   (.ok (sessionStatus response))
   { s with writeEnabled := (sessionStatus response).writeEnabled }

lemma querySessionStatus_exit {r:Result BackendSessionStatus}
 (h:(querySessionStatus pid s).Exec t (r,s')) : StatusExit pid s t r s' := by
 obtain ⟨u,_,v,rfl,hu,hv⟩:=h.of_bind
 rcases ioctl_exec hu with ⟨-,rfl,rfl⟩|⟨attached,reply,sent,rfl⟩
 · obtain ⟨rfl,rfl,rfl⟩:=hv.of_pure_prod
   exact .failed _ (by simp)
 · obtain rfl := ask_exec sent
   have calls : ∀e∈[(⟨.getSessionStatus,reply⟩ : DeviceEvent)]++v,v=[] →
    e.call=.getSessionStatus := by
    rintro e mem rfl
    rw [List.append_nil,List.mem_singleton] at mem
    rw [mem]
   cases reply with
   | error =>
    obtain ⟨rfl,rfl,rfl⟩:=hv.of_pure_prod
    exact .failed _ fun e mem=>calls e mem rfl
   | ok reply =>
    obtain ⟨returned,response⟩:=reply
    rcases hv.of_guard with ⟨-,rfl,same⟩|⟨accepted,hv⟩
    · cases same
      exact .failed _ fun e mem=>calls e mem rfl
    · obtain ⟨rfl,rfl,rfl⟩:=hv.of_pure_prod
      exact .answered returned response (by simpa using accepted) attached

section
variable {u:List DeviceEvent} {target:UInt32} {data desired expectedBefore:List UInt8}
 {physicalAddress:UInt64} {op:Op}

lemma StatusExit.calls {r:Result BackendSessionStatus} (h:StatusExit pid s t r s') :
 ∀e∈t,e.call=.getSessionStatus := by
 cases h with
 | failed _ calls => exact calls
 | answered =>
  intro e mem
  rw [List.mem_singleton.1 mem]

/-- A cleanup locks the client's view whatever it is told, and succeeds only on a status that
 shows a closed gate. -/
structure Forced (pid : UInt32) (s : Impl) (t : List DeviceEvent) (r : Result Unit) (s' : Impl) :
 Prop where
 after : s'={ s with writeEnabled := false }
 calls : Closing t
 proven : r=.ok () → ∃ u returned response,
  t=u++[⟨.getSessionStatus, .ok (returned,response)⟩] ∧ s.device=true ∧
   acceptsStatus pid returned response=true ∧ (sessionStatus response).writeEnabled=false

lemma closedVerdict_ok {disabled:Result (UInt32×Unit)} {status:Result BackendSessionStatus}
 (h:closedVerdict operation disabled status=.ok ()) :
 ∃ shown,status=.ok shown ∧ shown.writeEnabled=false := by
 unfold closedVerdict at h
 cases status with
 | error =>
  rw [if_neg (by simp)] at h
  split at h
  · cases h
  · split at h <;> cases h
 | ok shown =>
  cases locked:shown.writeEnabled with
  | false => exact ⟨shown,rfl,locked⟩
  | true =>
   rw [if_neg (by simp [locked])] at h
   split at h
   · cases h
   · split at h <;> cases h

lemma forceWriteGateClosed_exit (h:(forceWriteGateClosed pid operation s).Exec t (r,s')) :
 Forced pid s t r s' := by
 obtain ⟨u,_,_,rfl,hu,hrest⟩:=h.of_bind
 obtain ⟨v,⟨_,_⟩,w,rfl,hv,hw⟩:=hrest.of_bind
 obtain ⟨rfl,rfl,rfl⟩:=hw.of_pure_prod
 have queried:=querySessionStatus_exit hv
 have disabling:∀e∈u,e.call=.setWriteMode disableRequest:=by
  rcases ioctl_exec hu with ⟨-,rfl,-⟩|⟨-,_,sent,-⟩
  · simp
  · rw [ask_exec sent]
    intro e mem
    rw [List.mem_singleton.1 mem]
    rfl
 rw [List.append_nil]
 refine ⟨?_,fun e mem => ?_,fun ok => ?_⟩
 · cases queried <;> rfl
 · rcases List.mem_append.1 mem with left|right
   · exact .inl (disabling e left)
   · exact .inr (queried.calls e right)
 · obtain ⟨_,rfl,locked⟩:=closedVerdict_ok ok
   cases queried with
   | answered returned response accepted attached =>
    exact ⟨u,returned,response,rfl,attached,accepted,locked⟩

inductive EnableExit (pid:UInt32) (s:Impl) :
 Bool→List DeviceEvent→Result Unit→Impl→Prop where
 | disabled {t:List DeviceEvent} {r:Result Unit} {s':Impl} (forced:Forced pid s t r s') :
  EnableExit pid s false t r s'
 | enabled (attached:s.device=true) : EnableExit pid s true
  [⟨.setWriteMode enableRequest, .ok (0,())⟩] (.ok ()) { s with writeEnabled := true }
 | failed {u v:List DeviceEvent} {closed:Result Unit} {s':Impl} (error:Error)
  (calls:∀ e∈u,e.call=.setWriteMode enableRequest)
  (forced:Forced pid s v closed s') : EnableExit pid s true (u++v) (.error error) s'

lemma setWriteEnabled_exit {enabled:Bool} (h:(setWriteEnabled pid enabled s).Exec t (r,s')) :
 EnableExit pid s enabled t r s' := by
 cases enabled with
 | false => exact .disabled (forceWriteGateClosed_exit h)
 | true =>
  obtain ⟨u,_,v,rfl,hu,hv⟩:=h.of_bind
  have closing {error:Error} (cleanup:(forceWriteGateClosed pid
   "KDbgBackend::SetWriteEnabled/fail_closed" s >>= fun p=>
    pure (.error (withCleanup error p.1),p.2) : DeviceM (Result Unit×Impl)).Exec v (r,s'))
 (calls:∀e∈u,e.call=.setWriteMode enableRequest) :
   EnableExit pid s true (u++v) r s' := by
   obtain ⟨w,⟨_,_⟩,x,rfl,hw,hx⟩:=cleanup.of_bind
   obtain ⟨rfl,rfl,rfl⟩:=hx.of_pure_prod
   rw [List.append_nil]
   exact .failed _ calls (forceWriteGateClosed_exit hw)
  rcases ioctl_exec hu with ⟨-,rfl,rfl⟩|⟨attached,reply,sent,rfl⟩
  · exact closing hv (by simp)
  · obtain rfl := ask_exec sent
    have calls : ∀e∈[(⟨.setWriteMode enableRequest,reply⟩ : DeviceEvent)],
     e.call=.setWriteMode enableRequest := by
     intro e mem
     rw [List.mem_singleton.1 mem]
    cases reply with
    | error => exact closing hv calls
    | ok reply =>
     obtain ⟨returned,⟨⟩⟩:=reply
     change (if returned≠0 then _ else _ : DeviceM _).Exec v _ at hv
     by_cases empty:returned=0
     · subst empty
       obtain ⟨rfl,rfl,rfl⟩:=hv.of_pure_prod
       exact .enabled attached
     · rw [if_pos empty] at hv
       exact closing hv calls

lemma reading_ask {answer:DeviceAnswer call} (read:call.isRead=true)
 (h:(Prog.ask call : DeviceM (DeviceAnswer call)).Exec u answer) : Reading u := by
 rw [ask_exec h]
 intro e mem
 rw [List.mem_singleton.1 mem]
 exact read

lemma reading_ioctl {value:α} {next:Result (UInt32×ρ)→DeviceM α}
 (sends:∀u reply,send.Exec u reply→Reading u)
 (silent:∀result u value,(next result).Exec u value → u=[])
 (h:(s.ioctl send operation >>= next).Exec t value) : Reading t := by
 obtain ⟨u,result,v,rfl,hu,hv⟩:=h.of_bind
 rw [silent result v value hv,List.append_nil]
 rcases ioctl_exec hu with ⟨-,rfl,-⟩|⟨-,reply,sent,-⟩
 · exact reading_nil
 · exact sends u reply sent

lemma readRequest_reading {request:ReadRequest ρ} {r:Result (List UInt8)}
 (sends:∀u reply,request.send.Exec u reply→Reading u) (h:(request.run s).Exec t r) :
 Reading t := by
 rcases h.of_guard with ⟨-,rfl,-⟩|⟨-,h⟩
 · exact reading_nil
 rcases h.of_guard with ⟨-,rfl,-⟩|⟨-,h⟩
 · exact reading_nil
 refine reading_ioctl sends (fun result u _ hu => ?_) h
 cases result with
 | error => exact hu.of_pure.1
 | ok =>
  rcases hu.of_guard with ⟨-,silent,-⟩|⟨-,hu⟩
  · exact silent
  · exact hu.of_pure.1

lemma getPhysicalRanges_reading {r:Result (List PhysicalRange)}
 (h:(getPhysicalRanges s).Exec t r) : Reading t := by
 refine reading_ioctl (fun _ _ sent=>reading_ask rfl sent) (fun result u _ hu => ?_) h
 cases result <;> exact hu.of_pure.1

lemma getProcessContext_reading {r:Result ProcessContext}
 (h:(getProcessContext target s).Exec t r) : Reading t := by
 rcases h.of_guard with ⟨-,rfl,-⟩|⟨-,asked⟩
 · exact reading_nil
 refine reading_ioctl (fun _ _ sent=>reading_ask rfl sent) (fun result u _ hu => ?_) asked
 cases result <;> exact hu.of_pure.1

lemma translateVirtual_reading {base address:UInt64} {r:Result TranslationWalk}
 (h:(translateVirtual base address s).Exec t r) : Reading t := by
 refine reading_ioctl (fun _ _ sent=>reading_ask rfl sent) (fun result u _ hu => ?_) h
 cases result <;> exact hu.of_pure.1

lemma readPhysical_reading {address:UInt64} {length:UInt32} {r:Result (List UInt8)}
 (h:(readPhysical address length s).Exec t r) : Reading t :=
 readRequest_reading (fun _ _ sent=>reading_ask rfl sent) h

lemma readProcessVirtual_reading {address:UInt64} {length:UInt32} {r:Result (List UInt8)}
 (h:(readProcessVirtual target address length s).Exec t r) : Reading t :=
 readRequest_reading (fun _ _ sent=>reading_ask rfl sent) h

lemma readKernelVirtual_reading {address:UInt64} {length:UInt32} {r:Result (List UInt8)}
 (h:(readKernelVirtual address length s).Exec t r) : Reading t :=
 readRequest_reading (fun _ _ sent=>reading_ask rfl sent) h

structure Locked (s : Impl) (t : List DeviceEvent) (s' : Impl) : Prop where
 closed : s'.writeEnabled=false
 device : s'.device=s.device
 connected : s'.connected=s.connected
 steady : Steady t

lemma Forced.locked (h:Forced pid s t r s') : Locked s t s' := by
 refine ⟨?_,?_,?_,h.calls.steady⟩ <;> rw [h.after]

lemma Forced.locked_after {s₀:Impl} (h:Forced pid s t r s') (steady:Steady u)
 (device:s.device=s₀.device) (connected:s.connected=s₀.connected) :
 Locked s₀ (u++t) s' :=
 ⟨h.locked.closed,h.locked.device.trans device,h.locked.connected.trans connected,
  steady.append h.calls.steady⟩

/-- An operation of the write class: it writes only for a client whose view of the gate is open,
 and it leaves that view closed. -/
structure WriteExit (s : Impl) (t : List DeviceEvent) (s' : Impl) : Prop where
 locked : Locked s t s'
 sends : s.writeEnabled=true ∨ Unarmed t

lemma WriteExit.refused (off:s.writeEnabled=false) : WriteExit s [] s :=
 ⟨⟨off,rfl,rfl,steady_nil⟩, .inr unarmed_nil⟩

lemma ioctl_steady {r:Result (UInt32×ρ)} (sends:∀u reply,send.Exec u reply→Steady u)
 (h:(s.ioctl send operation).Exec t r) : Steady t := by
 rcases ioctl_exec h with ⟨-,rfl,-⟩|⟨-,reply,sent,-⟩
 · exact steady_nil
 · exact sends t reply sent

lemma writeRequest_exit {request:WriteRequest ρ} {r:Result UInt32}
 (sends:∀u reply,request.send.Exec u reply→Steady u)
 (reads:∀s u bytes,(request.readback s).Exec u bytes→Reading u)
 (h:(request.run pid s).Exec t (r,s')) : WriteExit s t s' := by
 rcases h.of_guard with ⟨off,rfl,same⟩|⟨on,h⟩
 · cases same
   exact .refused (by simpa using off)
 have armed:s.writeEnabled=true:=by simpa using on
 refine ⟨?_, .inl armed⟩
 have disabling {error:Error} (hd:(setWriteEnabled pid false s >>= fun p=>
  pure (.error error,p.2) : DeviceM (Result UInt32×Impl)).Exec t (r,s')) :
  Locked s t s' := by
  obtain ⟨u,⟨_,_⟩,v,rfl,hu,hv⟩:=hd.of_bind
  obtain ⟨rfl,rfl,rfl⟩:=hv.of_pure_prod
  cases setWriteEnabled_exit hu with
  | disabled forced => simpa using forced.locked
 split at h
 · exact disabling h
 split at h
 · exact disabling h
 obtain ⟨u,result,v,rfl,hu,hv⟩:=h.of_bind
 have quiet:Steady u:=ioctl_steady sends hu
 have forcing {name:String} {w x:List DeviceEvent} (value:Result Unit→Result UInt32)
  (steady:Steady w) (hx:(forceWriteGateClosed pid name { s with writeEnabled := false } >>=
   fun p=>pure (value p.1,p.2) : DeviceM (Result UInt32×Impl)).Exec x (r,s')) :
  Locked s (w++x) s' := by
  obtain ⟨y,⟨_,_⟩,z,rfl,hy,hz⟩:=hx.of_bind
  obtain ⟨rfl,rfl,rfl⟩:=hz.of_pure_prod
  rw [List.append_nil]
  exact (forceWriteGateClosed_exit hy).locked_after steady rfl rfl
 cases result with
 | error error => exact forcing (fun closed => .error (withCleanup error closed)) quiet hv
 | ok reply =>
  obtain ⟨returned,reply⟩:=reply
  change (if !request.accepts returned reply then _ else _ : DeviceM _).Exec v _ at hv
  split at hv
  · exact forcing (fun _ => .error _) quiet hv
  · obtain ⟨w,bytes,x,rfl,hw,hx⟩:=hv.of_bind
    have back:Steady (u++w):=quiet.append (reads _ w bytes hw).steady
    rw [←List.append_assoc]
    split at hx
    · exact forcing (fun _ => .error _) back hx
    · obtain ⟨rfl,rfl,rfl⟩:=hx.of_pure_prod
      exact ⟨rfl,rfl,rfl,by simpa using back⟩

lemma steady_ask {answer:DeviceAnswer call} (steady:call.movesHandle=false)
 (h:(Prog.ask call : DeviceM (DeviceAnswer call)).Exec u answer) : Steady u := by
 rw [ask_exec h]
 intro e mem
 rw [List.mem_singleton.1 mem]
 exact steady

lemma writePhysical_exit {address:UInt64} {r:Result UInt32}
 (h:(writePhysical pid address data s).Exec t (r,s')) : WriteExit s t s' :=
 writeRequest_exit (fun _ _ sent=>steady_ask rfl sent)
  (fun _ _ _ read=>readPhysical_reading read) h

lemma writeProcessVirtual_exit {address:UInt64} {r:Result UInt32}
 (h:(writeProcessVirtual pid target address data s).Exec t (r,s')) : WriteExit s t s' :=
 writeRequest_exit (fun _ _ sent=>steady_ask rfl sent)
  (fun _ _ _ read=>readProcessVirtual_reading read) h

inductive CompareWriteExit (pid:UInt32) (physicalAddress:UInt64)
 (expectedBefore desired:List UInt8) (s:Impl) :
 List DeviceEvent→Result PhysicalPageCompareWriteResult→Impl→Prop where
 | refused (off:s.writeEnabled=false) (error:Error) :
  CompareWriteExit pid physicalAddress expectedBefore desired s [] (.error error) s
 | unsent {t:List DeviceEvent} {s₁ s':Impl} {closed:Result Unit} (error:Error)
  (next:s₁.device=s.device ∧ s₁.connected=s.connected)
  (forced:Forced pid s₁ t closed s') :
  CompareWriteExit pid physicalAddress expectedBefore desired s t (.error error) s'
 | sent {v:List DeviceEvent} {r:Result PhysicalPageCompareWriteResult} {s':Impl}
  (armed:s.writeEnabled=true) (attached:s.device=true)
  (aligned:physicalAddress &&& 0xFFF=0)
  (before:expectedBefore.length=kPhysicalPageSize)
  (wanted:desired.length=kPhysicalPageSize) (transactionId:UInt64)
  (positive:transactionId≠0)
  (reply:Device.Reply Device.WireCompareWriteResponse)
  (locked:Locked s v s') (unarmed:Unarmed v)
  (failed:∀ code,reply=.error code → ∃ closed,r=.error (withCleanup (makeError
   (if code=errorAccessDenied then .accessDenied else .ioFailure) "DeviceIoControl failed"
   "KDbgBackend::CompareWritePhysicalPage" code.toUInt64) closed))
  (decoded:∀ returned response,reply=.ok (returned,response) → ∀ transaction,
   decodeTransaction physicalAddress transactionId expectedBefore desired returned response =
    .ok transaction → v=[] ∧ r=.ok transaction) :
  CompareWriteExit pid physicalAddress expectedBefore desired s
   (⟨.compareWritePhysicalPage (compareWriteRequest physicalAddress transactionId
    expectedBefore desired),reply⟩::v) r s'

lemma takeTransactionId_ne_zero (next:UInt64) : (takeTransactionId next).1≠0 := by
 unfold takeTransactionId
 split
 · rename_i zero
   rw [zero]
   decide
 · assumption

lemma compareWritePhysicalPage_exit {r:Result PhysicalPageCompareWriteResult}
 (h:(compareWritePhysicalPage pid physicalAddress expectedBefore desired s).Exec t (r,s')) :
 CompareWriteExit pid physicalAddress expectedBefore desired s t r s' := by
 rcases h.of_guard with ⟨off,rfl,same⟩|⟨on,h⟩
 · cases same
   exact .refused (by simpa using off) _
 have armed:s.writeEnabled=true:=by simpa using on
 have forcing {name:String} {x:List DeviceEvent} {s₁:Impl}
  (value:Result Unit→Result PhysicalPageCompareWriteResult) (hx:(forceWriteGateClosed pid name s₁ >>=
   fun p=>pure (value p.1,p.2) : DeviceM (Result PhysicalPageCompareWriteResult×Impl)).Exec x
    (r,s')) : ∃ closed,Forced pid s₁ x closed s' ∧ r=value closed := by
  obtain ⟨y,⟨closed,_⟩,z,rfl,hy,hz⟩:=hx.of_bind
  obtain ⟨rfl,rfl,rfl⟩:=hz.of_pure_prod
  rw [List.append_nil]
  exact ⟨closed,forceWriteGateClosed_exit hy,rfl⟩
 split at h
 · obtain ⟨_,forced,rfl⟩:=forcing (fun _ => .error _) h
   exact .unsent _ ⟨rfl,rfl⟩ forced
 · rename_i fits
   simp only [not_or,not_not] at fits
   obtain ⟨aligned,before,wanted⟩:=fits
   have positive:=takeTransactionId_ne_zero s.nextTransactionId
   rcases taken : takeTransactionId s.nextTransactionId with ⟨transactionId,next⟩
   rw [taken] at h positive
   obtain ⟨u,_,v,rfl,hu,hv⟩:=h.of_bind
   rcases ioctl_exec hu with ⟨-,rfl,rfl⟩|⟨attached,reply,sent,rfl⟩
   · obtain ⟨_,forced,rfl⟩:=forcing (fun closed => .error (withCleanup _ closed)) hv
     refine .unsent _ ?_ forced
     exact ⟨rfl,rfl⟩
   · obtain rfl := ask_exec sent
     cases reply with
     | error code =>
      obtain ⟨closed,forced,rfl⟩:=forcing (fun closed => .error (withCleanup _ closed)) hv
      refine .sent armed attached aligned before wanted _ positive (.error code)
       ⟨forced.locked.closed,forced.locked.device,forced.locked.connected,
        forced.locked.steady⟩ forced.calls.unarmed ?_ ?_
      · rintro _ ⟨⟩
        exact ⟨closed,rfl⟩
      · rintro _ _ ⟨⟩
     | ok reply =>
      obtain ⟨returned,response⟩:=reply
      dsimp only [ioctlResult] at hv
      split at hv
      · rename_i closing error rejected
        obtain ⟨_,forced,rfl⟩:=forcing (fun _ => .error error) hv
        refine .sent armed attached aligned before wanted _ positive (.ok (returned,response))
         ⟨forced.locked.closed,forced.locked.device,forced.locked.connected,
          forced.locked.steady⟩ forced.calls.unarmed ?_ ?_
        · rintro _ ⟨⟩
        · rintro _ _ ⟨⟩ _ accepted
          cases rejected.symm.trans accepted
      · rename_i transaction accepted
        obtain ⟨rfl,rfl,rfl⟩:=hv.of_pure_prod
        refine .sent armed attached aligned before wanted _ positive (.ok (returned,response))
         ⟨rfl,rfl,rfl,steady_nil⟩ unarmed_nil ?_ ?_
        · rintro _ ⟨⟩
        · rintro _ _ ⟨⟩ _ accepted'
          cases accepted.symm.trans accepted'
          exact ⟨rfl,rfl⟩

lemma CompareWriteExit.writeExit {r:Result PhysicalPageCompareWriteResult}
 (h:CompareWriteExit pid physicalAddress expectedBefore desired s t r s') :
 WriteExit s t s' := by
 cases h with
 | refused off => exact .refused off
 | unsent _ next forced =>
  exact ⟨⟨forced.locked.closed,forced.locked.device.trans next.1,
   forced.locked.connected.trans next.2,forced.locked.steady⟩, .inr forced.calls.unarmed⟩
 | sent armed _ _ _ _ _ _ _ locked =>
  refine ⟨⟨locked.closed,locked.device,locked.connected,?_⟩, .inl armed⟩
  intro e mem
  rcases List.mem_cons.1 mem with rfl|later
  · rfl
  · exact locked.steady e later

lemma close_exit (h:(close s).Exec t s') : s'={} ∧ Unarmed t ∧
 (s.device=true → handleAfter true t=false) ∧ (s.device=false → t=[]) := by
 unfold close at h
 cases device:s.device with
 | false =>
  rw [device] at h
  obtain ⟨rfl,rfl⟩:=h.of_pure
  exact ⟨rfl,unarmed_nil,(by rintro ⟨⟩),fun _=>rfl⟩
 | true =>
  rw [device,if_pos rfl] at h
  split at h
  · obtain ⟨_,u,rfl,hu⟩:=h.of_ask
    obtain ⟨_,v,rfl,hv⟩:=hu.of_ask
    obtain ⟨rfl,rfl⟩:=hv.of_pure
    exact ⟨rfl,by simp [Unarmed,DeviceCall.isWrite],fun _=>rfl,by rintro ⟨⟩⟩
  · obtain ⟨_,v,rfl,hv⟩:=h.of_ask
    obtain ⟨rfl,rfl⟩:=hv.of_pure
    exact ⟨rfl,by simp [Unarmed,DeviceCall.isWrite],fun _=>rfl,by rintro ⟨⟩⟩

/-- The handle of the device is open as long as the client is connected, and only then can the
 client's view of the gate be open. -/
structure Attached (s : Impl) : Prop where
 connected : s.device=s.connected
 enabled : s.writeEnabled=true → s.device=true

/-- What `Open` and `Close` leave: a closed view, and a handle exactly when they report one. -/
structure Moved (held : Bool) (t : List DeviceEvent) (s' : Impl) : Prop where
 closed : s'.writeEnabled=false
 unarmed : Unarmed t
 handle : s'.device=handleAfter held t
 attached : Attached s'

lemma Moved.after {held:Bool} (h:Moved (handleAfter held u) t s') (unarmed:Unarmed u) :
 Moved held (u++t) s' :=
 ⟨h.closed,unarmed.append h.unarmed,by rw [h.handle,handleAfter_append],h.attached⟩

lemma close_moved (h:(close s).Exec t s') : Moved s.device t s' := by
 obtain ⟨rfl,unarmed,moved,idle⟩:=close_exit h
 refine ⟨rfl,unarmed,?_,rfl,by rintro ⟨⟩⟩
 cases device:s.device with
 | true => exact (moved device).symm
 | false =>
  rw [idle device]
  rfl

/-- A result that is reported after the connection is closed again. -/
lemma closing_moved {error:Error} (h:((do
 let s ← close s
 return (.error error,s)) : DeviceM (Result Unit×Impl)).Exec t (r,s')) :
 Moved s.device t s' := by
 obtain ⟨u,_,v,rfl,hu,hv⟩:=h.of_bind
 obtain ⟨rfl,rfl,rfl⟩:=hv.of_pure_prod
 rw [List.append_nil]
 exact close_moved hu

lemma checkSession_moved (attached:s.device=true) (connected:s.connected=true)
 (h:(checkSession pid s).Exec t (r,s')) : Moved true t s' := by
 obtain ⟨u,⟨_,_⟩,v,rfl,hu,hv⟩:=h.of_bind
 have queried:=querySessionStatus_exit hu
 have quiet:Reading u:=fun e mem=>by
  rw [queried.calls e mem]
  rfl
 have open_:handleAfter true u=true:=quiet.steady.handleAfter true
 refine Moved.after ?_ quiet.unarmed
 rw [open_]
 cases queried with
 | failed =>
  rw [←attached]
  exact closing_moved hv
 | answered _ response _ device =>
  change (if (sessionStatus response).writeEnabled then _ else _ : DeviceM _).Exec v _ at hv
  split at hv
  · obtain ⟨w,⟨closed,s₁⟩,x,rfl,hw,hx⟩:=hv.of_bind
    cases setWriteEnabled_exit hw with
    | disabled forced =>
     refine Moved.after ?_ forced.calls.unarmed
     have held:handleAfter true w=s₁.device:=by
      rw [forced.calls.steady.handleAfter,forced.after]
      exact attached.symm
     rw [held]
     cases closed <;> exact closing_moved hx
  · rename_i off
    obtain ⟨rfl,rfl,rfl⟩:=hv.of_pure_prod
    exact ⟨by simpa using off,unarmed_nil,attached,attached.trans connected.symm,
     fun _=>attached⟩

lemma open_exit (attached:Attached s) (h:(KDbgBackend.open pid s).Exec t (r,s')) :
 (t=[] ∧ s'=s) ∨ Moved s.device t s' := by
 unfold KDbgBackend.open at h
 split at h
 · obtain ⟨rfl,rfl,rfl⟩:=h.of_pure_prod
   exact .inl ⟨rfl,rfl⟩
 · rename_i apart
   have detached:s.device=false:=by
    rw [attached.connected]
    simpa using apart
   have off : s.writeEnabled=false :=
    Bool.eq_false_iff.2 fun on=>by simp [attached.enabled on] at detached
   refine .inr ?_
   obtain ⟨created,u,rfl,hu⟩:=h.of_ask
   have asked:Unarmed [(⟨.createFile,created⟩ : DeviceEvent)]:=by
    simp [Unarmed,DeviceCall.isWrite]
   refine Moved.after ?_ asked
   cases created with
   | error =>
    obtain ⟨rfl,rfl,rfl⟩:=hu.of_pure_prod
    rw [detached]
    refine ⟨off,unarmed_nil,rfl,?_,fun on => ?_⟩
    · exact (detached.symm.trans attached.connected)
    · cases off.symm.trans on
   | ok =>
    obtain ⟨v,version,w,rfl,hv,hw⟩:=hu.of_bind
    have quiet:Reading v:=by
     rcases ioctl_exec hv with ⟨-,rfl,-⟩|⟨-,_,sent,-⟩
     · exact reading_nil
     · exact reading_ask rfl sent
    refine Moved.after ?_ quiet.unarmed
    rw [quiet.steady.handleAfter]
    cases version with
    | error => exact closing_moved hw
    | ok reply =>
     obtain ⟨returned,response⟩:=reply
     dsimp only [ioctlResult] at hw
     split at hw
     · exact closing_moved hw
     · exact checkSession_moved rfl rfl hw

inductive StepExit (pid:UInt32) (s:Impl) :
 Op→List DeviceEvent→Outcome→Impl→Prop where
 | read {op:Op} {t:List DeviceEvent} (r:Outcome) (reading:Reading t)
  (plain:op.isWrite=false) (ungated:∀ enabled,op≠.setWriteEnabled enabled) :
  StepExit pid s op t r s
 | moved {op:Op} {t:List DeviceEvent} {s':Impl} (r:Outcome)
  (kind:op=.open ∨ op=.close) (exit:Moved s.device t s') : StepExit pid s op t r s'
 | observed (returned:UInt32) (response:Device.SessionStatusResponse)
  (accepted:acceptsStatus pid returned response=true) (attached:s.device=true) :
  StepExit pid s .querySessionStatus [⟨.getSessionStatus, .ok (returned,response)⟩] (.ok ())
   { s with writeEnabled := (sessionStatus response).writeEnabled }
 | gate {t:List DeviceEvent} {r:Outcome} {s':Impl} (enabled:Bool)
  (exit:EnableExit pid s enabled t r s') : StepExit pid s (.setWriteEnabled enabled) t r s'
 | write {op:Op} {t:List DeviceEvent} {s':Impl} (r:Outcome) (kind:op.isWrite=true)
  (exit:WriteExit s t s') : StepExit pid s op t r s'

lemma query_exit {result:DeviceM (Result α)} {r:Outcome}
 (reads:∀u value,result.Exec u value→Reading u) (plain:op.isWrite=false)
 (ungated:∀enabled,op≠.setWriteEnabled enabled) (h:(query s result).Exec t (r,s')) :
 StepExit pid s op t r s' := by
 obtain ⟨u,value,v,rfl,hu,hv⟩:=h.of_bind
 obtain ⟨rfl,rfl,rfl⟩:=hv.of_pure_prod
 rw [List.append_nil]
 exact .read _ (reads u value hu) plain ungated

lemma write_exit {body:DeviceM (Result α×Impl)} {r:Outcome} (kind:op.isWrite=true)
 (exits:∀u value after,body.Exec u (value,after)→WriteExit s u after) (h:((do
  let (result,s) ← body
  return (report result,s)) : DeviceM (Outcome×Impl)).Exec t (r,s')) :
 StepExit pid s op t r s' := by
 obtain ⟨u,⟨value,_⟩,v,rfl,hu,hv⟩:=h.of_bind
 obtain ⟨rfl,rfl,same⟩:=hv.of_pure_prod
 subst same
 rw [List.append_nil]
 exact .write _ kind (exits u value _ hu)

end

end Operations

lemma step_exit {pid:UInt32} (x:BackendStep) (valid:(machine pid).Valid x)
 (attached:Attached x.before) : StepExit pid x.before x.op x.trace x.result x.after := by
 obtain ⟨op,s,t,r,s'⟩:=x
 change (exec pid op s).Exec t (r,s') at valid
 cases op with
 | «open» =>
  rcases open_exit attached valid with ⟨rfl,rfl⟩|moved
  · exact .read _ reading_nil rfl (by rintro _ ⟨⟩)
  · exact .moved _ (.inl rfl) moved
 | close =>
  obtain ⟨u,_,v,rfl,hu,hv⟩:=valid.of_bind
  obtain ⟨rfl,rfl,rfl⟩:=hv.of_pure_prod
  rw [List.append_nil]
  exact .moved _ (.inr rfl) (close_moved hu)
 | querySessionStatus =>
  obtain ⟨u,⟨_,_⟩,v,rfl,hu,hv⟩:=valid.of_bind
  obtain ⟨rfl,rfl,rfl⟩:=hv.of_pure_prod
  rw [List.append_nil]
  cases querySessionStatus_exit hu with
  | failed _ calls =>
   refine .read _ (fun e mem => ?_) rfl (by rintro _ ⟨⟩)
   rw [calls e mem]
   rfl
  | answered returned response accepted device =>
   exact .observed returned response accepted device
 | getPhysicalRanges =>
  exact query_exit (fun _ _ sent=>getPhysicalRanges_reading sent) rfl (by rintro _ ⟨⟩) valid
 | readPhysical =>
  exact query_exit (fun _ _ sent=>readPhysical_reading sent) rfl (by rintro _ ⟨⟩) valid
 | setWriteEnabled enabled => exact .gate enabled (setWriteEnabled_exit valid)
 | writePhysical =>
  exact write_exit rfl (fun _ _ _ sent=>writePhysical_exit sent) valid
 | compareWritePhysicalPage =>
  exact write_exit rfl (fun _ _ _ sent=>(compareWritePhysicalPage_exit sent).writeExit) valid
 | getProcessContext =>
  exact query_exit (fun _ _ sent=>getProcessContext_reading sent) rfl (by rintro _ ⟨⟩) valid
 | readProcessVirtual =>
  exact query_exit (fun _ _ sent=>readProcessVirtual_reading sent) rfl (by rintro _ ⟨⟩) valid
 | writeProcessVirtual =>
  exact write_exit rfl (fun _ _ _ sent=>writeProcessVirtual_exit sent) valid
 | readKernelVirtual =>
  exact query_exit (fun _ _ sent=>readKernelVirtual_reading sent) rfl (by rintro _ ⟨⟩) valid
 | translateVirtual =>
  exact query_exit (fun _ _ sent=>translateVirtual_reading sent) rfl (by rintro _ ⟨⟩) valid

end KDbgBackend
end KDbg
