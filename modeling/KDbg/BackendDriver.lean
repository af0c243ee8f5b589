import KDbg.DriverWriteGate
import KDbg.KDbgBackendGate
set_option autoImplicit false
/-!
# The client over the driver

The client's handle stands for a file object of the driver. A request is one
`deviceControl` section and one `resume` section on that file object, and may be
lost before the first or after the last of them. Sections on other file objects
run in between; nobody else uses the client's.
-/
namespace KDbg
open Interaction

def PhysicalWriteStage.code : PhysicalWriteStage→UInt32
 | .none => 0
 | .validation => 1
 | .mapping => 2
 | .copying => 3
 | .complete => 4
 | .comparing => 5
 | .readback => 6

namespace Driver

/-- The response to `IOCTL_KDBG_GET_SESSION_STATUS`. The counter of reads is not part of the
 model. -/
def sessionStatus (s : Driver) (context : FileContext) (caller : Caller)
 (successfulReads : UInt64) : Device.SessionStatusResponse where
 size := KDbgBackend.kSessionStatusResponseSize
 flags :=
  (if s.ownerPid≠0 then KDbgBackend.kSessionFlagOwnerActive else 0) |||
   (if context.writeEnabled then KDbgBackend.kSessionFlagWriteEnabled else 0)
 ownerPid := s.ownerPid
 currentPid := caller.pid
 openHandleCount := s.openHandleCount.toUInt32
 reserved := 0
 successfulReads
 successfulWrites := s.statistics.successfulWrites.toUInt64
 rejectedWrites := s.statistics.rejectedWrites.toUInt64
 lastPhysicalWriteStatus := s.statistics.lastPhysicalWriteStatus
 lastPhysicalWriteStage := s.statistics.lastPhysicalWriteStage.code
 lastPhysicalWriteTransferred := UInt32.ofNat s.statistics.lastPhysicalWriteTransferred
 reserved2 := 0

lemma sessionStatus_writeEnabled (s:Driver) (context:FileContext) (caller:Caller)
 (reads:UInt64) :
 (KDbgBackend.sessionStatus (s.sessionStatus context caller reads)).writeEnabled =
  context.writeEnabled := by
 unfold KDbgBackend.sessionStatus Driver.sessionStatus
 dsimp only
 cases context.writeEnabled <;> split <;> rfl

/-- The operation does not work on the file object. -/
def Op.Aside (file : ℕ) (s : Driver) : Op→Prop
 | .create _ => True
 | .deviceControl target _ _ | .cleanup target | .close target => target≠file
 | .resume id => ∀ next,s.request id=some next → next.file≠file

/-- A file object as a section on another one leaves it. -/
structure Untouched (file : ℕ) (s s' : Driver) : Prop where
 context : ∀ context,s.context file=some context → s'.context file=some context
 kept : ∀ id next,s.request id=some next → next.file=file → s'.request id=some next
 since : ∀ id next,s'.request id=some next → next.file=file → s.request id=some next

section Aside
variable {file:ℕ} {s s':Driver}

lemma Untouched.refl : Untouched file s s := ⟨fun _ h=>h,fun _ _ h _=>h,fun _ _ h _=>h⟩

lemma Untouched.trans {s'':Driver} (h:Untouched file s s') (h':Untouched file s' s'') :
 Untouched file s s'' :=
 ⟨fun _ found=>h'.context _ (h.context _ found),
  fun _ _ waits on=>h'.kept _ _ (h.kept _ _ waits on) on,
  fun _ _ waits on=>h.since _ _ (h'.since _ _ waits on) on⟩

lemma Untouched.enqueue {next:Pending} (off:next.file≠file) :
 Untouched file s (s.enqueue next) := by
 refine ⟨fun _ found=>found,fun _ p waits _ => ?_,fun _ p waits on => ?_⟩
 · rw [request_enqueue,if_neg,waits]
   rintro rfl
   simp [request] at waits
 · rw [request_enqueue] at waits
   split at waits
   · cases waits
     exact absurd on off
   · exact waits

lemma Untouched.advance {id:ℕ} {next:Pending} {slot:Option Pending}
 (waits:s.request id=some next) (off:next.file≠file)
 (off':∀p,slot=some p → p.file≠file) : Untouched file s (s.advance id slot) := by
 refine ⟨fun _ found=>found,fun j p held on => ?_,fun j p held on => ?_⟩
 · rw [request_advance waits,if_neg,held]
   rintro rfl
   cases held.symm.trans waits
   exact off on
 · rw [request_advance waits] at held
   split at held
   · exact absurd on (off' p held)
   · exact held

lemma Untouched.setContext {target:ℕ} {context:FileContext} {value:Option FileContext}
 (found:s.context target=some context) (off:target≠file) :
 Untouched file s (s.setContext target value) := by
 refine ⟨fun _ live => ?_,fun _ _ waits _=>waits,fun _ _ waits _=>waits⟩
 rw [context_setContext found,if_neg off.symm,live]

lemma Untouched.of_eq {s'':Driver} (h:Untouched file s s') (files:s''.files=s'.files)
 (pending:s''.pending=s'.pending) : Untouched file s s'' := by
 have context (f:ℕ) : s''.context f=s'.context f := by rw [Driver.context,files];rfl
 have request (id:ℕ) : s''.request id=s'.request id := by rw [Driver.request,pending];rfl
 refine ⟨fun c found => ?_,fun id p waits on => ?_,fun id p waits on => ?_⟩
 · rw [context,h.context c found]
 · rw [request,h.kept id p waits on]
 · rw [request] at waits
   exact h.since id p waits on

lemma StepExit.untouched {highestUser:UInt64} {op:Op} {t:List KernelEvent}
 {r:Option Completion} (h:StepExit highestUser s op t r s') (aside:op.Aside file s) :
 Untouched file s s' := by
 cases h with
 | idle => exact .refl
 | refused | created =>
  exact ⟨fun _ found=>context_kept found,fun _ _ h _=>h,fun _ _ h _=>h⟩
 | checked | dropped => exact .enqueue aside
 | cleaned _ _ found | closed _ _ found =>
  exact (Untouched.setContext found aside).trans (.enqueue aside)
 | denied _ _ _ _ waits =>
  exact .advance waits (aside _ waits) (by rintro p ⟨⟩)
 | rejected _ _ _ _ _ waits found | handled _ _ _ _ _ waits found =>
  have off:=aside _ waits
  exact ((Untouched.advance waits off (by rintro p ⟨⟩)).trans (.setContext found off)).of_eq
   rfl rfl
 | revoked _ _ _ _ waits found =>
  have off:=aside _ waits
  refine (Untouched.advance waits off ?_).trans (.setContext found off)
  rintro p ⟨⟩
  exact off
 | released id target closing waits =>
  have off:=aside _ waits
  have rest:Untouched file s (s.advance id (if closing then some (.free target) else none)):=by
   refine .advance waits off fun p held => ?_
   split at held
   · cases held
     exact off
   · cases held
  exact rest.of_eq rfl rfl
 | freed _ _ _ waits found =>
  have off:=aside _ waits
  exact (Untouched.advance waits off (by rintro p ⟨⟩)).trans (.setContext found off)

end Aside
section Create
variable {caller:Caller} {s s':Driver} {t:List KernelEvent} {completion:Completion}

/-- A successful create leaves a closed gate that the caller controls, and the requests alone. -/
lemma dispatchCreate_success
 (h:(dispatchCreate caller s).Exec t (some completion,s'))
 (fine:ntSuccess completion.status=true) :
 s'.context s.files.length=some { owner := caller } ∧ s'.pending=s.pending := by
 obtain ⟨_,u,rfl,hu⟩:=h.of_ask
 rcases hu.of_guard with ⟨-,rfl,same⟩|⟨-,opening⟩
 · cases same
   cases fine
 split at opening
 · obtain ⟨-,same,-⟩:=opening.of_pure_prod
   cases same
   cases fine
 · obtain ⟨-,-,rfl⟩:=opening.of_pure_prod
   exact ⟨context_append.trans (if_pos rfl),rfl⟩

end Create

lemma StepExit.of_admitted {highestUser:UInt64} {s s':Driver} {id file:ℕ}
 {caller:Caller} {ioctl:Ioctl} {t:List KernelEvent} {r:Option Completion}
 (h:StepExit highestUser s (.resume id) t r s')
 (waits:s.request id=some (.control file caller ioctl true)) :
 ∃ context completion after,s.context file=some context ∧ r=some completion ∧
  (ioctl.handle highestUser ⟨context.writeEnabled,s.statistics⟩).Exec t
   (completion,after) ∧
  s'={ (s.advance id none).setContext file
   (some { context with writeEnabled := after.writeEnabled }) with
   statistics := after.statistics } := by
 cases h with
 | idle r quiet => cases (quiet id rfl).symm.trans waits
 | denied _ _ _ _ waits' | rejected _ _ _ _ _ waits' => cases waits'.symm.trans waits
 | @handled _ _ _ _ context waits' found _ completion after body =>
  cases waits'.symm.trans waits
  exact ⟨context,completion,after,found,rfl,body,rfl⟩
 | revoked _ _ _ _ waits' | released _ _ _ waits' | freed _ _ _ waits' =>
  cases waits'.symm.trans waits

lemma isClosing_eq_false {s:Driver} {file:ℕ}
 (idle:∀id next,s.request id=some next → next.file≠file) :
 s.isClosing file=false := by
 refine List.any_eq_false.2 fun slot mem => ?_
 cases slot with
 | none => simp
 | some next =>
  obtain ⟨id,found⟩:=List.mem_iff_getElem?.1 mem
  have off:=idle id next (by rw [request,found];rfl)
  simp [off]

end Driver

/-- The driver, and the file object behind the client's handle. -/
structure World where
 driver : Driver := {}
 handle : Option ℕ := none

namespace World
open Driver

def gate (w : World) : Bool :=
 match w.handle with
 | none => false
 | some file => match w.driver.context file with
  | none => false
  | some context => context.writeEnabled

/-- The request that a call of the client brings to the driver. -/
inductive Carries : DeviceCall→Ioctl→Prop where
 | mode (request:WriteModeRequest) :
  Carries (.setWriteMode request) (.setWriteMode ⟨some request,kWriteModeRequestSize,0⟩)
 | physical (request:PhysicalWriteRequest) (irp:PhysicalWriteIrp)
  (same:irp.buffer=some request) : Carries (.writePhysical request) (.writePhysical irp)
 | transaction (request:CompareWriteRequest) :
  Carries (.compareWritePhysicalPage request) (.compareWritePhysicalPage
   ⟨some request,kCompareWriteRequestSize,kCompareWriteResponseSize⟩)
 | process (request:ProcessMemoryRequest) (irp:ProcessWriteIrp)
  (same:irp.buffer=some request) :
  Carries (.writeProcessMemory request) (.writeProcessMemory irp)
 | read (call:DeviceCall) (code:UInt32) (read:call.isRead=true) :
  Carries call (.other code)

def fails : DeviceEvent→Bool
 | ⟨.createFile,_⟩ | ⟨.closeHandle,_⟩ => false
 | ⟨.getVersion,answer⟩ => !Except.isOk (answer : Device.Reply _)
 | ⟨.getSessionStatus,answer⟩ => !Except.isOk (answer : Device.Reply _)
 | ⟨.setWriteMode _,answer⟩ => !Except.isOk (answer : Device.Reply _)
 | ⟨.getPhysicalRanges,answer⟩ => !Except.isOk (answer : Device.Reply _)
 | ⟨.readPhysical _,answer⟩ => !Except.isOk (answer : Device.Reply _)
 | ⟨.writePhysical _,answer⟩ => !Except.isOk (answer : Device.Reply _)
 | ⟨.compareWritePhysicalPage _,answer⟩ => !Except.isOk (answer : Device.Reply _)
 | ⟨.getProcessContext _,answer⟩ => !Except.isOk (answer : Device.Reply _)
 | ⟨.translateVirtual _,answer⟩ => !Except.isOk (answer : Device.Reply _)
 | ⟨.readProcessMemory _,answer⟩ => !Except.isOk (answer : Device.Reply _)
 | ⟨.writeProcessMemory _,answer⟩ => !Except.isOk (answer : Device.Reply _)
 | ⟨.readKernelVirtual _,answer⟩ => !Except.isOk (answer : Device.Reply _)

/-- What the client is told of a request that ran in the state `d`: an error, if it failed or its
 completion is lost, or what the driver put into the buffer. The contents of the other replies
 do not matter here. -/
inductive Answers (caller:Caller) (d:Driver) (file:ℕ) (completion:Completion) :
 DeviceEvent→Prop where
 | failed (e:DeviceEvent) (error:fails e=true) : Answers caller d file completion e
 | mode (request:WriteModeRequest) (fine:ntSuccess completion.status=true) :
  Answers caller d file completion
   ⟨.setWriteMode request, .ok (UInt32.ofNat completion.information,())⟩
 | status (context:FileContext) (found:d.context file=some context) (reads:UInt64)
  (fine:ntSuccess completion.status=true) :
  Answers caller d file completion ⟨.getSessionStatus,
   .ok (UInt32.ofNat completion.information,d.sessionStatus context caller reads)⟩
 | other (e:DeviceEvent) (mode:∀ request,e.call≠.setWriteMode request)
  (status:e.call≠.getSessionStatus) (fine:ntSuccess completion.status=true) :
  Answers caller d file completion e

def AsideStep (highestUser : UInt64) (handle : Option ℕ) (d d' : Driver) : Prop :=
 ∃ x : DriverStep,(Driver.machine highestUser).Valid x ∧ x.before=d ∧ x.after=d' ∧
  ∀ file,handle=some file → x.op.Aside file d

abbrev Aside (highestUser : UInt64) (handle : Option ℕ) : Driver→Driver→Prop :=
 Relation.ReflTransGen (AsideStep highestUser handle)

/-- One call of the client as the system serves it. The sections of a cleanup come after
 `closeHandle`, as sections on a file object that is no longer the client's. -/
inductive Served (highestUser:UInt64) (caller:Caller) (w:World) :
 DeviceEvent→World→Prop where
 | opened (x:DriverStep) (valid:(Driver.machine highestUser).Valid x)
  (here:x.before=w.driver) (op:x.op=.create caller) (completion:Completion)
  (result:x.result=some completion) (fine:ntSuccess completion.status=true) :
  Served highestUser caller w ⟨.createFile, .ok ()⟩ ⟨x.after,some w.driver.files.length⟩
 | refused (x:DriverStep) (valid:(Driver.machine highestUser).Valid x)
  (here:x.before=w.driver) (op:x.op=.create caller) (completion:Completion)
  (result:x.result=some completion) (fails:ntSuccess completion.status=false)
  (code:UInt32) :
  Served highestUser caller w ⟨.createFile, .error code⟩ ⟨x.after,w.handle⟩
 | unopened (code:UInt32) : Served highestUser caller w ⟨.createFile, .error code⟩ w
 | closed : Served highestUser caller w ⟨.closeHandle,()⟩ ⟨w.driver,none⟩
 | lost (e:DeviceEvent) (error:fails e=true) : Served highestUser caller w e w
 | executed (e:DeviceEvent) (ioctl:Ioctl) (carries:Carries e.call ioctl) (file:ℕ)
  (on:w.handle=some file) (x y:DriverStep)
  (valid:(Driver.machine highestUser).Valid x) (here:x.before=w.driver)
  (op:x.op=.deviceControl file caller ioctl)
  (aside:Aside highestUser w.handle x.after y.before)
  (valid':(Driver.machine highestUser).Valid y)
  (op':y.op=.resume w.driver.pending.length) (completion:Completion)
  (result:y.result=some completion) (answers:Answers caller y.before file completion e) :
  Served highestUser caller w e ⟨y.after,w.handle⟩

/-- The calls of the client in their order, with any sections on other file objects in between. -/
inductive Serves (highestUser:UInt64) (caller:Caller) :
 World→List DeviceEvent→World→Prop where
 | done (w:World) : Serves highestUser caller w [] w
 | aside {w w':World} {t:List DeviceEvent} (d:Driver)
  (step:AsideStep highestUser w.handle w.driver d)
  (rest:Serves highestUser caller ⟨d,w.handle⟩ t w') : Serves highestUser caller w t w'
 | event {w w₁ w':World} {t:List DeviceEvent} (e:DeviceEvent)
  (served:Served highestUser caller w e w₁) (rest:Serves highestUser caller w₁ t w') :
  Serves highestUser caller w (e::t) w'

/-- The client controls the file object behind its handle, and no request on it is pending. -/
structure Held (caller : Caller) (w : World) : Prop where
 invariant : Invariant w.driver
 handle : ∀ file,w.handle=some file → ∃ gate,
  w.driver.context file=some ⟨gate,false,caller⟩ ∧
   ∀ id next,w.driver.request id=some next → next.file≠file

section Steps
variable {highestUser:UInt64} {caller:Caller} {w w':World} {e:DeviceEvent}

lemma gate_eq {file:ℕ} {context:FileContext} (on:w.handle=some file)
 (found:w.driver.context file=some context) : w.gate=context.writeEnabled := by
 rw [gate,on]
 dsimp only
 rw [found]

lemma aside_untouched {handle:Option ℕ} {d d':Driver} (inv:Invariant d)
 (h:Aside highestUser handle d d') :
 Invariant d' ∧ ∀file,handle=some file→Untouched file d d' := by
 induction h with
 | refl => exact ⟨inv,fun _ _ => .refl⟩
 | tail _ step ih =>
  obtain ⟨inv',before⟩:=ih
  obtain ⟨x,valid,rfl,rfl,aside⟩:=step
  have exit:=step_exit x valid inv'
  exact ⟨exit.invariant inv',fun file on=>(before file on).trans
   (exit.untouched (aside file on))⟩

lemma Held.of_untouched (held:Held caller w) {d:Driver} (inv:Invariant d)
 (untouched:∀file,w.handle=some file→Untouched file w.driver d) :
 Held caller ⟨d,w.handle⟩ ∧ World.gate ⟨d,w.handle⟩=w.gate := by
 refine ⟨⟨inv,fun file on => ?_⟩,?_⟩
 · obtain ⟨gate,found,idle⟩:=held.handle file on
   refine ⟨gate,(untouched file on).context _ found,fun id next waits same => ?_⟩
   exact idle id next ((untouched file on).since id next waits same) same
 · cases on:w.handle with
   | none => rw [gate,gate,on]
   | some file =>
    obtain ⟨_,found,-⟩:=held.handle file on
    rw [gate_eq on found]
    exact gate_eq rfl ((untouched file on).context _ found)

lemma Held.aside (held:Held caller w) {d:Driver}
 (step:AsideStep highestUser w.handle w.driver d) :
 Held caller ⟨d,w.handle⟩ ∧ World.gate ⟨d,w.handle⟩=w.gate := by
 obtain ⟨inv,untouched⟩:=aside_untouched held.invariant (.single step)
 exact held.of_untouched inv untouched

/-- A request that is executed passes the controller check, and its section works on the gate of
 the client's file object. -/
lemma Held.executed (held:Held caller w) {ioctl:Ioctl} {file:ℕ} {x y:DriverStep}
 (on:w.handle=some file) (valid:(Driver.machine highestUser).Valid x)
 (here:x.before=w.driver) (op:x.op=.deviceControl file caller ioctl)
 (aside:Aside highestUser w.handle x.after y.before)
 (valid':(Driver.machine highestUser).Valid y)
 (op':y.op=.resume w.driver.pending.length) {completion:Completion}
 (result:y.result=some completion) :
 ∃ statistics t after,
  (ioctl.handle highestUser ⟨w.gate,statistics⟩).Exec t (completion,after) ∧
  y.before.context file=some ⟨w.gate,false,caller⟩ ∧
  Held caller ⟨y.after,w.handle⟩ ∧ World.gate ⟨y.after,w.handle⟩=after.writeEnabled := by
 obtain ⟨gate,found,idle⟩:=held.handle file on
 have gated:w.gate=gate:=gate_eq on found
 have inv:Invariant x.after:=(step_exit x valid (here ▸ held.invariant)).invariant
  (here ▸ held.invariant)
 have dispatched : dispatchDeviceControl file caller ioctl w.driver =
  (none,w.driver.enqueue (.control file caller ioctl true)) := by
  have admitted:FileContext.isController ⟨gate,false,caller⟩ caller=true:=by
   simp [FileContext.isController]
  unfold dispatchDeviceControl onContext
  rw [isClosing_eq_false idle,if_neg (by simp),found]
  dsimp only
  rw [admitted]
 have queued:x.after=w.driver.enqueue (.control file caller ioctl true):=by
  obtain ⟨_,s,t,r,s'⟩:=x
  cases here
  cases op
  change (pure (dispatchDeviceControl file caller ioctl w.driver) : KernelM _).Exec t (r,s')
   at valid
  rw [dispatched] at valid
  exact valid.of_pure_prod.2.2
 obtain ⟨inv',untouched⟩:=aside_untouched inv aside
 rw [queued] at untouched
 have waits:=(untouched file on).kept w.driver.pending.length _
  (request_enqueue.trans (if_pos rfl)) rfl
 have live:=(untouched file on).context _ found
 have exit:=step_exit y valid' inv'
 have kept:=exit.invariant inv'
 rw [op',result] at exit
 obtain ⟨_,_,after,found',⟨⟩,body,shape⟩:=exit.of_admitted waits
 cases live.symm.trans found'
 have shown:y.after.context file=some ⟨after.writeEnabled,false,caller⟩:=by
  rw [shape]
  exact (context_setContext found').trans (if_pos rfl)
 refine ⟨_,_,after,gated ▸ body,gated ▸ live,⟨kept,fun _ same => ?_⟩,
  gate_eq (w := ⟨y.after,w.handle⟩) on shown⟩
 cases on.symm.trans same
 refine ⟨_,shown,fun id next held' same => ?_⟩
 have old:(y.before.advance w.driver.pending.length none).request id=some next:=by
  rw [shape] at held'
  exact held'
 rw [request_advance waits] at old
 split at old
 · cases old
 · rename_i differs
   have earlier:=(untouched file on).since id next old same
   rw [request_enqueue,if_neg differs] at earlier
   exact idle id next earlier same

lemma Served.held (h:Served highestUser caller w e w') (held:Held caller w) :
 Held caller w' := by
 cases h with
 | opened x valid here op _ result fine =>
  have exit:=step_exit x valid (here ▸ held.invariant)
  refine ⟨exit.invariant (here ▸ held.invariant),fun _ same => ?_⟩
  cases same
  obtain ⟨_,s,t,r,_⟩:=x
  cases here
  cases op
  cases result
  obtain ⟨fresh,pending⟩:=dispatchCreate_success valid fine
  refine ⟨false,fresh,fun id next waits on => ?_⟩
  have waits' : w.driver.request id=some next := by
   rw [request,←pending]
   exact waits
  obtain ⟨_,live⟩:=held.invariant.attached id next waits'
  rw [on] at live
  simp [Driver.context] at live
 | refused x valid here op =>
  have exit:=step_exit x valid (here ▸ held.invariant)
  rw [here,op] at exit
  exact (held.of_untouched (exit.invariant held.invariant) fun _ _ =>
   exit.untouched trivial).1
 | unopened | lost => exact held
 | closed => exact ⟨held.invariant,by rintro _ ⟨⟩⟩
 | executed _ _ _ _ on x y valid here op aside valid' op' _ result =>
  obtain ⟨_,_,_,_,_,kept,_⟩:=held.executed on valid here op aside valid' op' result
  exact kept

lemma Served.gate_of_isRead (h:Served highestUser caller w e w') (held:Held caller w)
 (read:e.call.isRead=true) : w'.gate=w.gate := by
 cases h with
 | opened | refused | unopened | closed => cases read
 | lost => rfl
 | executed _ _ carries _ on x y valid here op aside valid' op' _ result =>
  obtain ⟨_,t,_,body,-,-,gate⟩ :=
   held.executed on valid here op aside valid' op' result
  rw [gate]
  obtain ⟨_,_⟩:=e
  cases carries with
  | read =>
   obtain ⟨_,u,rfl,hu⟩:=body.of_ask
   obtain ⟨-,-,rfl⟩:=hu.of_pure_prod
   rfl
  | _ => cases read

lemma Served.gate_of_enabled
 (h:Served highestUser caller w ⟨.setWriteMode KDbgBackend.enableRequest, .ok (0,())⟩ w')
 (held:Held caller w) : w'.gate=true := by
 cases h with
 | lost _ error => cases error
 | executed _ _ carries _ on x y valid here op aside valid' op' _ result =>
  obtain ⟨_,t,_,body,-,-,gate⟩ :=
   held.executed on valid here op aside valid' op' result
  rw [gate]
  cases carries with
  | mode =>
   obtain ⟨-,-,rfl⟩:=body.of_pure_prod
   rfl
  | read _ _ read => cases read

/-- A status that reaches the client shows the gate as it is. -/
lemma Served.gate_of_status {returned:UInt32} {response:Device.SessionStatusResponse}
 (h:Served highestUser caller w ⟨.getSessionStatus, .ok (returned,response)⟩ w')
 (held:Held caller w) :
 w'.gate=(KDbgBackend.sessionStatus response).writeEnabled := by
 rw [h.gate_of_isRead held rfl]
 cases h with
 | lost _ error => cases error
 | executed _ _ _ _ on x y valid here op aside valid' op' _ result answers =>
  obtain ⟨_,t,_,_,found,-,-⟩ :=
   held.executed on valid here op aside valid' op' result
  cases answers with
  | failed _ error => cases error
  | status _ found' =>
   cases found.symm.trans found'
   rw [sessionStatus_writeEnabled]
  | other _ _ status => exact absurd rfl status

lemma serves_append {t u:List DeviceEvent} (h:Serves highestUser caller w (t++u) w') :
 ∃ w₁,Serves highestUser caller w t w₁ ∧ Serves highestUser caller w₁ u w' := by
 generalize all : t++u=events at h
 induction h generalizing t with
 | done w =>
  obtain ⟨rfl,rfl⟩:=List.append_eq_nil_iff.1 all
  exact ⟨w, .done w, .done w⟩
 | aside d step _ ih =>
  obtain ⟨w₁,left,right⟩:=ih all
  exact ⟨w₁, .aside d step left,right⟩
 | @event w _ _ _ e served rest ih =>
  cases t with
  | nil =>
   cases all
   exact ⟨w, .done w, .event e served rest⟩
  | cons =>
   obtain ⟨rfl,tail⟩:=List.cons.inj all
   obtain ⟨w₁,left,right⟩:=ih tail
   exact ⟨w₁, .event _ served left,right⟩

lemma Serves.held {t:List DeviceEvent} (h:Serves highestUser caller w t w')
 (held:Held caller w) : Held caller w' := by
 induction h with
 | done => exact held
 | aside d step _ ih => exact ih (held.aside step).1
 | event e served _ ih => exact ih (served.held held)

lemma Serves.gate_of_reading {t:List DeviceEvent} (h:Serves highestUser caller w t w')
 (held:Held caller w) (reading:KDbgBackend.Reading t) : w'.gate=w.gate := by
 induction h with
 | done => rfl
 | aside d step _ ih =>
  obtain ⟨held,same⟩:=held.aside step
  exact (ih held reading).trans same
 | event e served _ ih =>
  have same:=served.gate_of_isRead held (reading e List.mem_cons_self)
  have later:KDbgBackend.Reading _:=fun x mem=>reading x (List.mem_cons_of_mem _ mem)
  exact (ih (served.held held) later).trans same

lemma Serves.single (h:Serves highestUser caller w [e] w') (held:Held caller w) :
 ∃ w₁ w₂,Held caller w₁ ∧ Served highestUser caller w₁ e w₂ ∧ w'.gate=w₂.gate := by
 generalize all : [e]=events at h
 induction h with
 | done => cases all
 | aside d step _ ih => exact ih (held.aside step).1 all
 | event _ served rest =>
  cases all
  exact ⟨_,_,held,served,rest.gate_of_reading (served.held held) KDbgBackend.reading_nil⟩

end Steps

lemma held_init (caller:Caller) : Held caller {} := ⟨invariant_init,by rintro _ ⟨⟩⟩

end World

namespace KDbgBackend
open World

section Runs
variable {highestUser:UInt64} {caller:Driver.Caller} {w w':World} {s s':Impl}
 {t:List DeviceEvent}

lemma Forced.gate {r:Result Unit} (h:Forced caller.pid s t r s') (ok:r=.ok ())
 (held:Held caller w) (serves:Serves highestUser caller w t w') : w'.gate=false := by
 obtain ⟨u,_,_,rfl,-,-,closed⟩:=h.proven ok
 obtain ⟨_,left,right⟩:=serves_append serves
 obtain ⟨_,_,held',served,same⟩:=right.single (left.held held)
 rw [same,served.gate_of_status held',closed]

lemma StepExit.gate_of_view {op:Op} {r:Outcome} (h:StepExit caller.pid s op t r s')
 (held:Held caller w) (serves:Serves highestUser caller w t w')
 (before:s.writeEnabled=true → w.gate=true) (on:s'.writeEnabled=true) :
 w'.gate=true := by
 cases h with
 | read r reading =>
  rw [serves.gate_of_reading held reading]
  exact before on
 | moved r _ exit => cases exit.closed.symm.trans on
 | observed =>
  obtain ⟨_,_,held',served,same⟩:=serves.single held
  rw [same,served.gate_of_status held']
  exact on
 | gate enabled exit =>
  cases exit with
  | disabled forced | failed _ _ forced => cases forced.locked.closed.symm.trans on
  | enabled =>
   obtain ⟨_,_,held',served,same⟩:=serves.single held
   rw [same,served.gate_of_enabled held']
 | write r _ exit => cases exit.locked.closed.symm.trans on

lemma StepExit.forced {r:Outcome}
 (h:StepExit caller.pid s (.setWriteEnabled false) t r s') : Forced caller.pid s t r s' := by
 cases h with
 | read r _ _ ungated => exact absurd rfl (ungated false)
 | moved r kind => simp at kind
 | gate _ exit =>
  cases exit with
  | disabled forced => exact forced
 | write r kind => cases kind

lemma StepExit.locked {op:Op} {r:Outcome} (h:StepExit caller.pid s op t r s')
 (write:op.isWrite=true) : s'.writeEnabled=false := by
 cases h with
 | read r _ plain => cases plain.symm.trans write
 | moved r _ exit => exact exit.closed
 | observed | gate => cases write
 | write r _ exit => exact exit.locked.closed

def calls (h : List BackendStep) : List DeviceEvent := h.flatMap (·.trace)

lemma run_gate {h:List BackendStep} (run:(machine caller.pid).Run h s)
 (serves:Serves highestUser caller {} (calls h) w) (on:s.writeEnabled=true) :
 w.gate=true := by
 refine run.history_invariant (fun h s => ∀w,Serves highestUser caller {} (calls h) w →
  s.writeEnabled=true → w.gate=true) ?_ ?_ w serves on
 · rintro _-⟨⟩
 · intro _ x before valid earlier _ serves on
   rw [calls,List.flatMap_append,List.flatMap_singleton] at serves
   obtain ⟨w₁,left,right⟩:=serves_append serves
   exact (step_exit x valid (run_attached before)).gate_of_view (left.held (held_init caller)) right
    (earlier w₁ left) on

/-- The client's view of the gate is never more permissive than the gate: an open view means an
 open gate, a reported success of `SetWriteEnabled(false)` or of a cleanup anywhere in an
 operation means a closed gate, and every write call leaves a closed view. -/
theorem run_view_refines_gate {h : List BackendStep} (run : (machine caller.pid).Run h s)
 (serves : Serves highestUser caller {} (calls h) w) :
 (s.writeEnabled=true → w.gate=true) ∧
  (∀ past x,h=past++[x] → x.op=.setWriteEnabled false → x.result=.ok () →
   w.gate=false) ∧
  (∀ s₁ s₂ operation u v w',(forceWriteGateClosed caller.pid operation s₁).Exec v
   (.ok (),s₂)→Serves highestUser caller w (u++v) w' → w'.gate=false) ∧
  (∀ past x,h=past++[x] → x.op.isWrite=true → s.writeEnabled=false) := by
 refine ⟨run_gate run serves,?_,?_,?_⟩
 · rintro _ x rfl op ok
   obtain ⟨before,valid,-⟩ := run.of_snoc
   have exit := step_exit x valid (run_attached before)
   rw [op] at exit
   rw [calls,List.flatMap_append,List.flatMap_singleton] at serves
   obtain ⟨_,left,right⟩ := serves_append serves
   exact exit.forced.gate ok (left.held (held_init caller)) right
 · intro _ _ _ u v _ forced serves'
   obtain ⟨_,left,right⟩ := serves_append serves'
   have held := left.held (serves.held (held_init caller))
   exact (forceWriteGateClosed_exit forced).gate rfl held right
 · rintro _ x rfl write
   obtain ⟨before,valid,rfl⟩ := run.of_snoc
   exact (step_exit x valid (run_attached before)).locked write

end Runs

def sampleCaller : Driver.Caller := ⟨0x10,4⟩

def sampleDriver (gate : Bool) (requests : ℕ) : Driver where
 files := [some ⟨gate,false,sampleCaller⟩]
 pending := List.replicate requests none
 ownerProcess := 0x10
 ownerPid := 4
 openHandleCount := 1

def sampleChecked (gate : Bool) (requests : ℕ) (ioctl : Driver.Ioctl) : DriverStep :=
 ⟨.deviceControl 0 sampleCaller ioctl,sampleDriver gate requests,[],none,
  (sampleDriver gate requests).enqueue (.control 0 sampleCaller ioctl true)⟩

lemma sampleStatus_served : Served 0 sampleCaller ⟨sampleDriver false 1,some 0⟩ sampleLocked
 ⟨sampleDriver false 2,some 0⟩ :=
 .executed _ (.other 1) (.read _ _ rfl) 0 rfl (sampleChecked false 1 (.other 1))
  ⟨.resume 1,_,[⟨.inspect 1,(0,64)⟩],some ⟨0,64,none⟩,sampleDriver false 2⟩
  (.ret _) rfl rfl .refl (.call _ (.ret _)) rfl _ rfl
  (.status ⟨false,false,sampleCaller⟩ rfl 0 rfl)

lemma sampleVersion_served : Served 0 sampleCaller ⟨sampleDriver false 0,some 0⟩
 ⟨.getVersion, .ok (24,⟨24,7,1,1,0x100000,0x1EF⟩)⟩ ⟨sampleDriver false 1,some 0⟩ :=
 .executed _ (.other 0) (.read _ _ rfl) 0 rfl (sampleChecked false 0 (.other 0))
  ⟨.resume 0,_,[⟨.inspect 0,(0,24)⟩],some ⟨0,24,none⟩,sampleDriver false 1⟩
  (.ret _) rfl rfl .refl (.call _ (.ret _)) rfl _ rfl
  (.other _ (by rintro _ ⟨⟩) (by rintro ⟨⟩) rfl)

lemma sampleEnabled_served : Served 0 sampleCaller ⟨sampleDriver false 2,some 0⟩
 ⟨.setWriteMode enableRequest, .ok (0,())⟩ ⟨sampleDriver true 3,some 0⟩ :=
 .executed _ _ (.mode _) 0 rfl (sampleChecked false 2 (.setWriteMode ⟨some enableRequest,16,0⟩))
  ⟨.resume 2,_,[],some ⟨0,0,none⟩,sampleDriver true 3⟩
  (.ret _) rfl rfl .refl (.ret _) rfl _ rfl (.mode _ rfl)

lemma sampleCreated_served :
 Served 0 sampleCaller {} ⟨.createFile, .ok ()⟩ ⟨sampleDriver false 0,some 0⟩ :=
 .opened ⟨.create sampleCaller,{},[⟨.allocatePool,true⟩],some ⟨0,0,none⟩,
  sampleDriver false 0⟩ (.call _ (.ret _)) rfl rfl _ rfl rfl

lemma sampleEnabled_serves : Serves 0 sampleCaller {} (calls [sampleConnected,sampleEnabled])
 ⟨sampleDriver true 3,some 0⟩ :=
 .event _ sampleCreated_served (.event _ sampleVersion_served (.event _ sampleStatus_served
  (.event _ sampleEnabled_served (.done _))))

theorem sampleEnabled_view :
 (sampleClient true).writeEnabled=true ∧
  World.gate ⟨sampleDriver true 3,some 0⟩=true :=
 ⟨rfl,(@run_view_refines_gate 0 sampleCaller _ _ _ sampleEnabled_run
  sampleEnabled_serves).1 rfl⟩

end KDbgBackend

end KDbg
