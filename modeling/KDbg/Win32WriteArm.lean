import KDbg.Win32ProcessMemory
set_option autoImplicit false
/-! One arm, one write: what the two paths of `Write` do to the arm of the attached
process, to the driver's identity check and to the gate of the backend. -/
namespace KDbg
open Interaction
open KDbgBackend (ProcessContext)

@[simp] def Win32Call.isDriverWrite : Win32Call→Bool
 | .writeProcessVirtual _ _ _ => true
 | _ => false

@[simp] def Win32Call.isWrite : Win32Call→Bool
 | .writeProcessMemory _ _ _ => true
 | call => call.isDriverWrite

namespace Win32ProcessMemory
open Prog

def Quiet (t : List Win32Event) : Prop := ∀ event∈t,event.call.isWrite=false

@[simp] lemma quiet_nil : Quiet [] := by simp [Quiet]

@[simp] lemma quiet_cons (event:Win32Event) (t:List Win32Event) :
 Quiet (event::t) ↔ event.call.isWrite=false ∧ Quiet t := by
 simp [Quiet]

@[simp] lemma quiet_append (t u:List Win32Event) : Quiet (t++u) ↔ Quiet t ∧ Quiet u := by
 simp only [Quiet,List.mem_append,or_imp,forall_and]

lemma isDriverWrite_eq_false {call:Win32Call} (quiet:call.isWrite=false) :
 call.isDriverWrite=false := by
 cases call <;> first | rfl | exact quiet

/-- The driver writes of a call: none, or one that directly follows the driver's answer that the
 process is still the one that was attached. -/
inductive DriverWrites (pid:UInt32) (eprocess dtb address:UInt64) (data:List UInt8) :
 List Win32Event→Prop where
 | none {t:List Win32Event} (silent:∀ event∈t,event.call.isDriverWrite=false) :
  DriverWrites pid eprocess dtb address data t
 | one (context:ProcessContext) (answer:Result UInt32) {u v:List Win32Event}
  (before:∀ event∈u,event.call.isDriverWrite=false)
  (after:∀ event∈v,event.call.isDriverWrite=false)
  (bound:eprocess≠0 ∧ dtb≠0)
  (same:context.eprocess=eprocess ∧ context.directoryTableBase=dtb) :
  DriverWrites pid eprocess dtb address data
   (u++⟨.getProcessContext pid, .ok context⟩ ::
    ⟨.writeProcessVirtual pid address data,answer⟩::v)

section DriverWrites
variable {pid:UInt32} {eprocess dtb address:UInt64} {data:List UInt8}
 {t u:List Win32Event}

lemma DriverWrites.of_quiet (quiet:Quiet t) :
 DriverWrites pid eprocess dtb address data t :=
 .none fun event mem=>isDriverWrite_eq_false (quiet event mem)

lemma DriverWrites.cons {event:Win32Event} (silent:event.call.isDriverWrite=false)
 (h:DriverWrites pid eprocess dtb address data t) :
 DriverWrites pid eprocess dtb address data (event::t) := by
 cases h with
 | none rest => exact .none (List.forall_mem_cons.2 ⟨silent,rest⟩)
 | one context answer before after bound same =>
  exact .one context answer (List.forall_mem_cons.2 ⟨silent,before⟩) after bound same

lemma DriverWrites.append (h:DriverWrites pid eprocess dtb address data t)
 (quiet:Quiet u) : DriverWrites pid eprocess dtb address data (t++u) := by
 have silent : ∀event∈u,event.call.isDriverWrite=false :=
  fun event mem=>isDriverWrite_eq_false (quiet event mem)
 cases h with
 | none rest =>
  refine .none fun event mem => ?_
  exact (List.mem_append.1 mem).elim (rest event) (silent event)
 | @one context answer v w before after bound same =>
  rw [List.append_assoc]
  refine .one context answer before (fun event mem => ?_) bound same
  exact (List.mem_append.1 mem).elim (after event) (silent event)

end DriverWrites

lemma lastError_quiet (otherwise:ErrorCode) (message operation:String)
 (requested:UInt64) :
 (lastError otherwise message operation requested).Ensures fun t _=>Quiet t :=
 ensures_ask_bind fun _=>ensures_ask_bind fun _ =>
  ensures_pure (by simp)

lemma connected_ensures (s:Win32ProcessMemory) :
 s.connected.Ensures fun t b =>
  t=(if s.backend then [⟨.connected,b⟩] else []) ∧ (b=true → s.backend=true) := by
 unfold connected
 cases s.backend with
 | false => exact ensures_pure ⟨rfl,fun h=>(nomatch h)⟩
 | true =>
  rintro t b ran
  obtain ⟨_,u,rfl,rest⟩:=ran.of_call
  obtain ⟨rfl,rfl⟩:=rest.of_ret
  exact ⟨rfl,fun _=>rfl⟩

lemma connected_quiet (s:Win32ProcessMemory) : s.connected.Ensures fun t _=>Quiet t := by
 intro t b ran
 rw [(connected_ensures s t b ran).1]
 split
 · simp
 · simp

/-- An identity that was validated is the driver's last answer. -/
lemma validateDriverIdentity_ensures (s:Win32ProcessMemory) (operation:String) :
 (s.validateDriverIdentity operation).Ensures fun t r=>Quiet t ∧ (r=.ok () →
  ∃ u context,t=u++[⟨.getProcessContext s.pid, .ok context⟩] ∧
   (s.driverEprocess≠0 ∧ s.driverDtb≠0) ∧
   (context.eprocess=s.driverEprocess ∧ context.directoryTableBase=s.driverDtb)) := by
 refine ensures_bind s.connected_quiet fun t b quiet => ?_
 split
 · refine ensures_pure ⟨by simpa using quiet,fun h=>(nomatch h)⟩
 · rename_i bound
   simp only [Bool.or_eq_true,Bool.not_eq_true',beq_iff_eq,not_or] at bound
   refine ensures_ask_bind fun answer => ?_
   have whole:Quiet (t++[⟨.getProcessContext s.pid,answer⟩]):=by
    simp [quiet]
   cases answer with
   | error => exact ensures_pure ⟨whole,fun h=>(nomatch h)⟩
   | ok context =>
    dsimp only
    split
    · exact ensures_pure ⟨whole,fun h=>(nomatch h)⟩
    · rename_i same
      rw [not_or,not_not,not_not] at same
      exact ensures_pure ⟨whole,fun _=>⟨t,context,rfl,⟨bound.1.2,bound.2⟩,same⟩⟩

lemma writeDriver_ensures (address:UInt64) (data:List UInt8) (s:Win32ProcessMemory) :
 (s.writeDriver address data).Ensures fun t _ =>
  DriverWrites s.pid s.driverEprocess s.driverDtb address data t := by
 refine ensures_bind s.connected_quiet fun t b quiet => ?_
 split
 · refine ensures_bind (s.validateDriverIdentity_ensures _) fun u r checked => ?_
   obtain ⟨quiet',identified⟩:=checked
   cases r with
   | error => exact ensures_pure (.of_quiet (by simp [quiet,quiet']))
   | ok =>
    obtain ⟨v,context,rfl,bound,same⟩:=identified rfl
    rintro w r ran
    obtain ⟨_,x,rfl,rest⟩:=ran.of_call
    obtain ⟨rfl,rfl⟩:=rest.of_ret
    have before:Quiet (t++v):=by
     rw [quiet_append] at quiet' ⊢
     exact ⟨quiet,quiet'.1⟩
    have one : DriverWrites s.pid s.driverEprocess s.driverDtb address data
     ((t++v)++⟨.getProcessContext s.pid, .ok context⟩ ::
      ⟨.writeProcessVirtual s.pid address data,r⟩::[]) :=
     .one context r (fun event mem=>isDriverWrite_eq_false (before event mem)) (by simp)
      bound same
    simpa using one
 · refine ensures_bind (lastError_quiet _ _ _ _) fun u _ quiet' => ?_
   exact ensures_pure (.of_quiet (by simp [quiet,quiet']))

lemma attempt_ensures (address:UInt64) (data:List UInt8) (s:Win32ProcessMemory) :
 (s.attempt address data).Ensures fun t _ =>
  DriverWrites s.pid s.driverEprocess s.driverDtb address data t := by
 unfold attempt
 split
 · exact ensures_pure (.of_quiet quiet_nil)
 split
 · exact s.writeDriver_ensures address data
 · refine ensures_ask_bind fun answer => ?_
   obtain ⟨_,_⟩:=answer
   dsimp only
   split
   · refine ensures_ask_bind fun _=>ensures_pure (.none ?_)
     simp
   · intro t r ran
     exact (s.writeDriver_ensures address data t r ran).cons rfl

/-- The last calls of a write whose backend gate is known to be closed, or which has none. -/
inductive ClosesGate (backend:Bool) : List Win32Event→Prop where
 | absent (without:backend=false) : ClosesGate backend []
 | disconnected : ClosesGate backend [⟨.connected,false⟩]
 | disabled : ClosesGate backend [⟨.connected,true⟩,⟨.setWriteEnabled false, .ok ()⟩]

lemma closeBackendGate_ensures (s:Win32ProcessMemory) :
 s.closeBackendGate.Ensures fun t r =>
  Quiet t ∧ (r=.ok () → ClosesGate s.backend t) := by
 refine ensures_bind s.connected_ensures fun t b answered => ?_
 obtain ⟨rfl,some⟩:=answered
 cases b with
 | false =>
  refine ensures_pure ?_
  split
  · exact ⟨by simp,fun _ => .disconnected⟩
  · rename_i without
    exact ⟨quiet_nil,fun _ => .absent (by simpa using without)⟩
 | true =>
  rw [if_pos (some rfl)]
  refine ensures_ask_bind fun closed => ?_
  cases closed with
  | ok =>
   exact ensures_pure ⟨by simp,
    fun _ => .disabled⟩
  | error error =>
   refine ensures_ask_bind fun retry => ?_
   cases retry with
   | ok | error =>
    exact ensures_pure ⟨by simp,
     fun h=>(nomatch h)⟩

lemma finish_ensures (s:Win32ProcessMemory) (outcome:Result UInt32) :
 (s.finish outcome).Ensures fun t r =>
  Quiet t ∧ ∀count,r=.ok count → ClosesGate s.backend t := by
 refine ensures_bind s.closeBackendGate_ensures fun t closed spec => ?_
 obtain ⟨quiet,gate⟩:=spec
 cases closed with
 | ok =>
  refine ensures_pure ?_
  rw [List.append_nil]
  exact ⟨quiet,fun _ _=>gate rfl⟩
 | error error =>
  cases outcome <;> exact ensures_pure ⟨by simpa using quiet,fun _ h=>(nomatch h)⟩

/-- What every `Write` does, whatever it returns. -/
structure WriteSpec (s : Win32ProcessMemory) (address : UInt64) (data : List UInt8)
 (t : List Win32Event) (r : Result UInt32) (s' : Win32ProcessMemory) : Prop where
 disarmed : s'.writesArmed=false
 armed : ¬ Quiet t → s.writesArmed=true
 identified : DriverWrites s.pid s.driverEprocess s.driverDtb address data t
 closed : ∀ count,r=.ok count → ∃ u v,t=u++v ∧ ClosesGate s.backend v

lemma write_ensures (address:UInt64) (data:List UInt8) (s:Win32ProcessMemory) :
 (s.write address data).Ensures fun t r=>WriteSpec s address data t r.1 r.2 := by
 unfold write
 split
 · rename_i locked
   refine ensures_pure ⟨by simpa using locked,fun loud=>absurd quiet_nil loud,
    .of_quiet quiet_nil,fun _ h=>(nomatch h)⟩
 · rename_i armed
   refine ensures_bind (attempt_ensures address data _) fun t outcome identified => ?_
   refine ensures_bind (finish_ensures _ outcome) fun u _ finished =>
    ensures_pure ?_
   obtain ⟨quiet,gate⟩:=finished
   rw [List.append_nil]
   exact ⟨rfl,fun _=>by simpa using armed,identified.append quiet,
    fun count done=>⟨t,u,rfl,gate count done⟩⟩

lemma reopenForWriteLocked_ensures (s:Win32ProcessMemory) :
 s.reopenForWriteLocked.Ensures fun t r=>Quiet t ∧ r.2.writesArmed=s.writesArmed := by
 refine ensures_ask_bind fun opened => ?_
 cases opened with
 | none =>
  refine ensures_bind (lastError_quiet _ _ _ _) fun t _ quiet =>
   ensures_pure ⟨?_,rfl⟩
  simp [quiet]
 | some handle =>
  have identified:(s.identifyAgain handle).Ensures fun t _=>Quiet t:=by
   refine ensures_ask_bind fun _ => ?_
   split
   · exact ensures_pure (by simp)
   · refine ensures_ask_bind fun created => ?_
     cases created with
     | none => exact ensures_pure (by simp)
     | some =>
      dsimp only
      split <;>
       exact ensures_pure (by simp)
  refine ensures_bind identified fun t created quiet => ?_
  cases created with
  | none =>
   refine ensures_ask_bind fun _=>ensures_pure ⟨?_,rfl⟩
   simp [quiet]
  | some =>
   dsimp only
   split
   · refine ensures_ask_bind fun _=>ensures_pure ⟨?_,rfl⟩
     simp [quiet]
   · refine ensures_pure ⟨?_,rfl⟩
     simp [quiet]

/-- What arming and disarming do to the arm: it changes exactly when they succeed. -/
def ArmSpec (armed : Bool) (s : Win32ProcessMemory) (t : List Win32Event) (r : Result Unit)
 (s' : Win32ProcessMemory) : Prop :=
 Quiet t ∧ s'.writesArmed=if r.isOk then armed else s.writesArmed

lemma armBackend_ensures (s:Win32ProcessMemory) :
 s.armBackend.Ensures fun t r=>ArmSpec true s t r.1 r.2 := by
 refine ensures_bind s.connected_quiet fun t b quiet => ?_
 split
 · refine ensures_ask_bind fun enabled => ?_
   have whole:Quiet (t++[⟨.setWriteEnabled true,enabled⟩]):=by
    simp [quiet]
   cases enabled with
   | ok => exact ensures_pure ⟨whole,rfl⟩
   | error =>
    dsimp only
    split
    · exact ensures_pure ⟨whole,rfl⟩
    · exact ensures_pure ⟨whole,rfl⟩
 · exact ensures_pure ⟨by simpa using quiet,rfl⟩

lemma ArmSpec.prepend {armed:Bool} {s s₁ s':Win32ProcessMemory} {t u:List Win32Event}
 {r:Result Unit} (h:ArmSpec armed s₁ u r s') (quiet:Quiet t)
 (kept:s₁.writesArmed=s.writesArmed) : ArmSpec armed s (t++u) r s' := by
 obtain ⟨quiet',after⟩:=h
 rw [kept] at after
 exact ⟨(quiet_append _ _).2 ⟨quiet,quiet'⟩,after⟩

lemma setWritesArmed_ensures (armed:Bool) (s:Win32ProcessMemory) :
 (s.setWritesArmed armed).Ensures fun t r=>ArmSpec armed s t r.1 r.2 := by
 unfold setWritesArmed
 cases armed with
 | false =>
  refine ensures_bind s.connected_quiet fun t b quiet => ?_
  split
  · refine ensures_ask_bind fun disabled => ?_
    have whole:Quiet (t++[⟨.setWriteEnabled false,disabled⟩]):=by
     simp [quiet]
    cases disabled <;> exact ensures_pure ⟨whole,rfl⟩
  · exact ensures_pure ⟨by simpa using quiet,rfl⟩
 | true =>
  simp only [Bool.not_true,Bool.false_eq_true,if_false]
  split
  · refine ensures_bind s.reopenForWriteLocked_ensures fun t r reopened => ?_
    obtain ⟨direct,s₁⟩:=r
    obtain ⟨quiet,kept⟩:=reopened
    cases direct with
    | ok =>
     intro u r ran
     exact (s₁.armBackend_ensures u r ran).prepend quiet kept
    | error =>
     refine ensures_bind s₁.connected_quiet fun u b quiet' => ?_
     split
     · refine ensures_pure ⟨?_,kept⟩
       simp [quiet,quiet']
     · intro v r ran
       rw [←List.append_assoc]
       exact (s₁.armBackend_ensures v r ran).prepend ((quiet_append _ _).2 ⟨quiet,quiet'⟩) kept
  · exact s.armBackend_ensures

lemma readDriver_quiet (address:UInt64) (length:UInt32) (s:Win32ProcessMemory) :
 (s.readDriver address length).Ensures fun t _=>Quiet t := by
 refine ensures_bind s.connected_quiet fun t b quiet => ?_
 split
 · refine ensures_bind (s.validateDriverIdentity_ensures _) fun u r checked => ?_
   cases r with
   | error => exact ensures_pure (by simp [quiet,checked.1])
   | ok =>
    rintro v r ran
    obtain ⟨_,w,rfl,rest⟩:=ran.of_call
    obtain ⟨rfl,rfl⟩:=rest.of_ret
    simp [quiet,checked.1]
 · refine ensures_bind (lastError_quiet _ _ _ _) fun u _ quiet' => ?_
   exact ensures_pure (by simp [quiet,quiet'])

lemma read_quiet (address:UInt64) (length:UInt32) (s:Win32ProcessMemory) :
 (s.read address length).Ensures fun t _=>Quiet t := by
 unfold read
 split
 · exact ensures_pure quiet_nil
 split
 · exact s.readDriver_quiet address length
 · refine ensures_ask_bind fun answer => ?_
   obtain ⟨_,_⟩:=answer
   dsimp only
   split
   · exact ensures_pure (by simp)
   · intro t r ran
     exact (quiet_cons _ _).2 ⟨rfl,s.readDriver_quiet address length t r ran⟩

lemma attach_ensures (pid:UInt32) (backend:Bool) :
 (attach pid backend).Ensures fun _ r => ∀s,r=.ok s → s.writesArmed=false := by
 have bound (s:Win32ProcessMemory) (locked:s.writesArmed=false) :
  s.bindDriver.Ensures fun _ r => ∀s',r=.ok s' → s'.writesArmed=false := by
  refine ensures_bind s.connected_quiet fun t b _ => ?_
  split
  · refine ensures_ask_bind fun context => ?_
    cases context with
    | ok =>
     refine ensures_pure ?_
     rintro _ ⟨⟩
     exact locked
    | error =>
     dsimp only
     split
     · exact ensures_pure fun _ h=>(nomatch h)
     · refine ensures_pure ?_
       rintro _ ⟨⟩
       exact locked
  · refine ensures_pure ?_
    rintro _ ⟨⟩
    exact locked
 have any {α:Type} (p:Win32M α) : p.Ensures fun _ _=>True := fun _ _ _=>trivial
 unfold attach
 split
 · exact ensures_pure fun _ h=>(nomatch h)
 refine ensures_bind (any _) fun t opened _ => ?_
 cases opened with
 | none =>
  dsimp only
  split
  · exact ensures_bind (any _) fun u _ _=>ensures_pure fun _ h=>(nomatch h)
  · exact bound _ rfl
 | some =>
  refine ensures_bind (any _) fun u created _ => ?_
  cases created with
  | none =>
   exact ensures_ask_bind fun _=>ensures_ask_bind fun _ =>
    ensures_pure fun _ h=>(nomatch h)
  | some => exact bound _ rfl

def IsWrite (x : Win32Step) : Prop := ∃ address data,x.op=.write address data

def Arms (x : Win32Step) : Prop := x.op=.setWritesArmed true ∧ x.result=.armed (.ok ())

def Disarms (x : Win32Step) : Prop := x.op=.setWritesArmed false ∧ x.result=.armed (.ok ())

inductive StepExit : Win32Step→Prop where
 | armed (armed:Bool) (s:Win32ProcessMemory) (t:List Win32Event) (r:Result Unit)
  (s':Win32ProcessMemory) (spec:ArmSpec armed s t r s') :
  StepExit ⟨.setWritesArmed armed,s,t, .armed r,s'⟩
 | read (address:UInt64) (length:UInt32) (s:Win32ProcessMemory) (t:List Win32Event)
  (r:Result (List UInt8)) (quiet:Quiet t) :
  StepExit ⟨.read address length,s,t, .bytes r,s⟩
 | written (address:UInt64) (data:List UInt8) (s:Win32ProcessMemory)
  (t:List Win32Event) (r:Result UInt32) (s':Win32ProcessMemory)
  (spec:WriteSpec s address data t r s') :
  StepExit ⟨.write address data,s,t, .written r,s'⟩

lemma step_exit {attached:Win32ProcessMemory} {x:Win32Step}
 (valid:(machine attached).Valid x) : StepExit x := by
 obtain ⟨op,s,t,r,s'⟩:=x
 change (exec op s).Exec t (r,s') at valid
 cases op with
 | setWritesArmed armed =>
  obtain ⟨u,⟨result,_⟩,v,rfl,ran,rest⟩:=valid.of_bind
  obtain ⟨rfl,rfl,rfl⟩:=rest.of_pure_prod
  rw [List.append_nil]
  exact .armed armed s u result _ (s.setWritesArmed_ensures armed u _ ran)
 | read address length =>
  obtain ⟨u,result,v,rfl,ran,rest⟩:=valid.of_bind
  obtain ⟨rfl,rfl,rfl⟩:=rest.of_pure_prod
  rw [List.append_nil]
  exact .read address length _ u result (read_quiet address length _ u _ ran)
 | write address data =>
  obtain ⟨u,⟨result,_⟩,v,rfl,ran,rest⟩:=valid.of_bind
  obtain ⟨rfl,rfl,rfl⟩:=rest.of_pure_prod
  rw [List.append_nil]
  exact .written address data s u result _ (s.write_ensures address data u _ ran)

section Run
variable {attached s:Win32ProcessMemory} {h:List Win32Step}

/-- An armed instance was armed, and since then neither written with nor disarmed. -/
lemma run_armed (locked:attached.writesArmed=false) (run:(machine attached).Run h s)
 (armed:s.writesArmed=true) :
 ∃ y,Arms y ∧ Since (fun z => ¬IsWrite z ∧ ¬Disarms z) h y := by
 induction run with
 | nil => cases armed.symm.trans locked
 | @snoc _ s _ x start valid ih =>
  subst start
  cases step_exit valid with
  | armed mode s t r _ spec =>
   have after:=spec.2
   rw [armed] at after
   cases r with
   | ok =>
    cases mode with
    | true => exact ⟨_,⟨rfl,rfl⟩, .here _ _ _⟩
    | false => cases after
   | error =>
    obtain ⟨y,arms,since⟩:=ih after.symm
    refine ⟨y,arms,since.snoc ⟨?_,?_⟩⟩
    · rintro ⟨_,_,⟨⟩⟩
    · rintro ⟨-,⟨⟩⟩
  | read address =>
   obtain ⟨y,arms,since⟩:=ih armed
   refine ⟨y,arms,since.snoc ⟨?_,?_⟩⟩
   · rintro ⟨_,_,⟨⟩⟩
   · rintro ⟨⟨⟩,-⟩
  | written _ _ s t r _ spec => cases armed.symm.trans spec.disarmed

/-- A step that may store into the process is a `Write` that consumes an arm of its own, and every
 `Write` ends disarmed, identifies the process before it uses the driver, and succeeds only
 after the gate of a connected backend was closed. -/
theorem run_writes_one_shot {pid : UInt32} {backend : Bool} {trace : List Win32Event}
 (opened : (attach pid backend).Exec trace (.ok attached))
 (run : (machine attached).Run h s) :
 (∀ (i : ℕ) x,h[i]?=some x → ¬ Quiet x.trace→IsWrite x ∧ ∃ (j : ℕ) (y : Win32Step),j < i ∧ h[j]?=some y ∧
  Arms y ∧ ∀ (k : ℕ) z,j < k → k < i → h[k]?=some z → ¬ IsWrite z ∧ ¬ Disarms z) ∧
 ∀ x∈h,∀ address data,x.op=.write address data → ∃ r,x.result=.written r ∧
  WriteSpec x.before address data x.trace r x.after := by
 have locked := attach_ensures pid backend trace _ opened attached rfl
 refine ⟨fun i x hx loud => ?_,fun x mem _ _ asked => ?_⟩
 · obtain ⟨before,valid⟩ := run.before_eq hx
   cases step_exit valid with
   | armed _ s t r _ spec => exact absurd spec.1 loud
   | read _ _ s t r quiet => exact absurd quiet loud
   | written address data s t r _ spec =>
    refine ⟨⟨address,data,rfl⟩,?_⟩
    obtain ⟨y,arms,since⟩ := run_armed locked before (spec.armed loud)
    obtain ⟨j,inside,here,later⟩ := since.index
    rw [List.length_take] at inside
    refine ⟨j,y,by omega,?_,arms,fun k z after before' _=>later k z after ?_⟩
    · rwa [List.getElem?_take_of_lt (by omega)] at here
    · rwa [List.getElem?_take_of_lt before']
 · obtain ⟨-,valid⟩ := run.valid_of_mem mem
   cases step_exit valid with
   | armed | read => cases asked
   | written _ _ s t r _ spec =>
    cases asked
    exact ⟨r,rfl,spec⟩

end Run

/-! A process that is attached, armed and written through the driver, because the direct write
fails. -/

def sampleContext : ProcessContext := { pid := 4,eprocess := 0xFA80,directoryTableBase := 0x1000 }

def sampleAttached : Win32ProcessMemory :=
 { process := some 1,pid := 4,backend := true,creationTime := 9,driverEprocess := 0xFA80,
   driverDtb := 0x1000 }

def sampleArmed : Win32Step :=
 ⟨.setWritesArmed true,sampleAttached,
  [⟨.openProcess .queryReadAndWrite 4,some 2⟩,⟨.getProcessId 2,(4 : UInt32)⟩,
   ⟨.queryCreationTime 2,some 9⟩,⟨.closeHandle 1,()⟩,⟨.connected,true⟩,
   ⟨.setWriteEnabled true, .ok ()⟩],
  .armed (.ok ()),
  { sampleAttached with process := some 2,directWriteAccess := true,writesArmed := true }⟩

def sampleWritten : Win32Step :=
 ⟨.write 0x2000 [7],sampleArmed.after,
  [⟨.writeProcessMemory 2 0x2000 [7],(false,0)⟩,⟨.connected,true⟩,⟨.connected,true⟩,
   ⟨.getProcessContext 4, .ok sampleContext⟩,
   ⟨.writeProcessVirtual 4 0x2000 [7], .ok (1 : UInt32)⟩,⟨.connected,true⟩,
   ⟨.setWriteEnabled false, .ok ()⟩],
  .written (.ok 1),
  { sampleAttached with process := some 2,directWriteAccess := true }⟩

lemma sampleAttached_opened :
 (attach 4 true).Exec
  [⟨.openProcess .queryAndRead 4,some 1⟩,⟨.queryCreationTime 1,some 9⟩,
   ⟨.getProcessId 1,(4 : UInt32)⟩,⟨.connected,true⟩,
   ⟨.getProcessContext 4, .ok sampleContext⟩] (.ok sampleAttached) :=
 .call _ (.call _ (.call _ (.call _ (.call _ (.ret _)))))

lemma sampleArmed_valid : (machine sampleAttached).Valid sampleArmed := by
 exact .call _ (.call _ (.call _ (.call _ (.call _ (.call _ (.ret _))))))

lemma sampleWritten_valid : (machine sampleAttached).Valid sampleWritten := by
 exact .call _ (.call _ (.call _ (.call _ (.call _ (.call _ (.call _ (.ret _)))))))

lemma sampleWritten_run :
 (machine sampleAttached).Run [sampleArmed,sampleWritten] sampleWritten.after :=
 (Machine.Run.nil.snoc sampleArmed rfl sampleArmed_valid).snoc sampleWritten rfl
  sampleWritten_valid

theorem sampleWritten_one_shot :
 (IsWrite sampleWritten ∧ ∃ (j : ℕ) (y : Win32Step),j<1 ∧
  [sampleArmed,sampleWritten][j]?=some y ∧ Arms y) ∧
 WriteSpec sampleArmed.after 0x2000 [7] sampleWritten.trace (.ok 1) sampleWritten.after := by
 have shots := run_writes_one_shot sampleAttached_opened sampleWritten_run
 have loud : ¬ Quiet sampleWritten.trace := by
  intro quiet
  cases quiet _ List.mem_cons_self
 obtain ⟨writes,j,y,lt,here,arms,-⟩ := shots.1 1 sampleWritten rfl loud
 obtain ⟨r,returned,spec⟩ := shots.2 sampleWritten (by simp) 0x2000 [7] rfl
 cases returned
 exact ⟨⟨writes,j,y,lt,here,arms⟩,spec⟩

end Win32ProcessMemory
end KDbg
