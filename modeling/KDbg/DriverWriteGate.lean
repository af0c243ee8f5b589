import KDbg.DriverSteps
set_option autoImplicit false
/-! The write gate of a file context is one-shot under every interleaving. -/
namespace KDbg.Driver
open Interaction

/-- The step is the section of a write-class request of `caller` under the `WriteLock` of
 `file`. -/
def LockedSection (x : DriverStep) (file : ℕ) (caller : Caller) : Prop :=
 ∃ id ioctl admitted,x.op=.resume id ∧
  x.before.request id=some (.control file caller ioctl admitted) ∧ ioctl.isWriteClass=true

def Locks (x : DriverStep) (file : ℕ) : Prop := ∃ caller,LockedSection x file caller

/-- The step opens the gate of `file`: a request to enable writing succeeds. -/
def Enables (x : DriverStep) (file : ℕ) : Prop :=
 ∃ id caller ioctl admitted completion,x.op=.resume id ∧
  x.before.request id=some (.control file caller ioctl admitted) ∧ ioctl.enables=true ∧
  x.result=some completion ∧ completion.status=.success

/-- The step makes `caller` the creator of the file object `file`. -/
def Creates (x : DriverStep) (file : ℕ) (caller : Caller) : Prop :=
 x.op=.create caller ∧ file=x.before.files.length ∧
  ∃ context,x.after.context file=some context

lemma not_locks_of_op {x:DriverStep} {file:ℕ} (other:∀id,x.op≠.resume id) :
 ¬Locks x file := by
 rintro ⟨_,id,_,_,resumed,-,-⟩
 exact other id resumed

lemma not_locks_of_request {x:DriverStep} {id file:ℕ} {next:Pending}
 (resumed:x.op=.resume id) (waits:x.before.request id=some next)
 (other:∀caller ioctl admitted,next=.control file caller ioctl admitted →
  ioctl.isWriteClass=false) : ¬Locks x file := by
 rintro ⟨caller,_,ioctl,admitted,resumed',waits',write⟩
 cases resumed.symm.trans resumed'
 cases waits.symm.trans waits'
 simp [other caller ioctl admitted rfl] at write

def GateOpen (s : Driver) (file : ℕ) : Prop :=
 ∃ context,s.context file=some context ∧ context.writeEnabled=true

inductive ContextStep (x:DriverStep) (file:ℕ) (after:FileContext) : Prop where
 | created (creates:Creates x file after.owner) (closed:after.writeEnabled=false)
 | kept (before:FileContext) (found:x.before.context file=some before)
  (owner:after.owner=before.owner) (calm:¬ Locks x file)
  (gate:after.writeEnabled=true → before.writeEnabled=true)
 | locked (before:FileContext) (found:x.before.context file=some before)
  (owner:after.owner=before.owner) (locks:Locks x file)
  (gate:after.writeEnabled=true→Enables x file)

variable {s s':Driver}

lemma context_created {slot:Option FileContext} {file:ℕ} {context:FileContext}
 (h:({ s with files := s.files++[slot] } : Driver).context file=some context) :
 s.context file=some context ∨ (file=s.files.length ∧ slot=some context) := by
 rw [context_append] at h
 split at h
 · rename_i last
   exact .inr ⟨last,h⟩
 · exact .inl h

lemma context_set_cases {file target:ℕ} {context after:FileContext}
 {value:Option FileContext} (found:s.context target=some context)
 (h:(s.setContext target value).context file=some after) :
 (file=target ∧ value=some after) ∨ (file≠target ∧ s.context file=some after) := by
 rw [context_setContext found] at h
 split at h
 · rename_i same
   exact .inl ⟨same,h⟩
 · rename_i differs
   exact .inr ⟨differs,h⟩

lemma ContextStep.of_calm {x:DriverStep} {file target:ℕ} {context after:FileContext}
 (calm:¬Locks x file) (found:x.before.context target=some context) (value:FileContext)
 (owner:value.owner=context.owner)
 (gate:value.writeEnabled=true → context.writeEnabled=true)
 (h:(x.before.setContext target (some value)).context file=some after) :
 ContextStep x file after := by
 rcases context_set_cases found h with ⟨rfl,same⟩|⟨-,held⟩
 · cases same
   exact .kept context found owner calm gate
 · exact .kept after held rfl calm id

lemma ContextStep.of_section {x:DriverStep} {id file target:ℕ} {caller:Caller}
 {ioctl:Ioctl} {admitted:Bool} {context after:FileContext} (value:FileContext)
 (resumed:x.op=.resume id)
 (waits:x.before.request id=some (.control target caller ioctl admitted))
 (found:x.before.context target=some context) (owner:value.owner=context.owner)
 (write:ioctl.isWriteClass=true → value.writeEnabled=true→Enables x target)
 (read:ioctl.isWriteClass=false → value.writeEnabled=context.writeEnabled)
 (h:(x.before.setContext target (some value)).context file=some after) :
 ContextStep x file after := by
 have only {f:ℕ} (calm:f=target → ioctl.isWriteClass=false) : ¬Locks x f := by
  refine not_locks_of_request resumed waits fun _ _ _ same => ?_
  obtain ⟨rfl,-,rfl,-⟩:=Pending.control.inj same
  exact calm rfl
 rcases context_set_cases found h with ⟨rfl,same⟩|⟨differs,held⟩
 · cases same
   cases kind:ioctl.isWriteClass with
   | true =>
    exact .locked context found owner ⟨caller,id,ioctl,admitted,resumed,waits,kind⟩
     (write kind)
   | false => exact .kept context found owner (only fun _=>kind) fun on=>read kind ▸ on
 · exact .kept after held rfl (only fun same=>absurd same differs) fun on=>on

variable {highestUser:UInt64}

lemma StepExit.contextStep {op:Op} {t:List KernelEvent} {r:Option Completion}
 (h:StepExit highestUser s op t r s') {file:ℕ} {after:FileContext}
 (found:s'.context file=some after) : ContextStep ⟨op,s,t,r,s'⟩ file after := by
 cases h with
 | idle r quiet =>
  refine .kept after found rfl ?_ id
  rintro ⟨_,id,_,_,resumed,waits,-⟩
  cases (quiet id resumed).symm.trans waits
 | refused =>
  rcases context_created found with held|⟨-,same⟩
  · exact .kept after held rfl (not_locks_of_op (by rintro _ ⟨⟩)) id
  · cases same
 | created =>
  rcases context_created found with held|⟨last,same⟩
  · exact .kept after held rfl (not_locks_of_op (by rintro _ ⟨⟩)) id
  · cases same
    exact .created ⟨rfl,last,_,found⟩ rfl
 | checked _ _ _ _ _ kept | dropped =>
  exact .kept after found rfl (not_locks_of_op (by rintro _ ⟨⟩)) id
 | cleaned _ context live | closed _ context live =>
  exact .of_calm (not_locks_of_op (by rintro _ ⟨⟩)) live { context with cleanedUp := true } rfl id
   found
 | denied _ _ _ _ waits read =>
  refine .kept after found rfl (not_locks_of_request rfl waits ?_) fun on=>on
  rintro _ _ _ ⟨⟩
  exact read
 | rejected _ _ _ _ context waits live write =>
  refine .of_section { context with writeEnabled := false } rfl waits live rfl
   (fun _ on=>by cases on) (fun read => ?_) found
  simp [write] at read
 | @handled id _ caller ioctl context waits live t completion held body =>
  refine .of_section { context with writeEnabled := held.writeEnabled } rfl waits live rfl
   (fun write on => ?_) (fun read => ?_) found
  · rcases Ioctl.handle_exit write body with gated|⟨enables,-,status⟩
    · cases gated.closed.symm.trans on
    · exact ⟨id,caller,ioctl,true,completion,rfl,waits,enables,rfl,status⟩
  · have same:=(Ioctl.handle_other read body).2
    exact congrArg Section.writeEnabled same
 | revoked _ _ _ context waits live =>
  exact .of_calm (not_locks_of_request rfl waits (by rintro _ _ _ ⟨⟩)) live
   { context with writeEnabled := false } rfl (fun on=>by cases on) found
 | released _ _ _ waits =>
  exact .kept after found rfl
   (not_locks_of_request rfl waits (by rintro _ _ _ ⟨⟩)) fun on=>on
 | freed id _ _ waits live =>
  rcases context_set_cases live found with ⟨-,same⟩|⟨-,held⟩
  · cases same
  · exact .kept after held rfl (not_locks_of_request rfl waits (by rintro _ _ _ ⟨⟩)) fun on=>on

variable {h:List DriverStep}

/-- An open gate is owed to the last locked section on its file object. -/
lemma run_gate_open (run:(machine highestUser).Run h s) {file:ℕ} (opened:GateOpen s file) :
 ∃ y,Since (fun z => ¬Locks z file) h y ∧ Enables y file := by
 refine run.since (GateOpen · file) (Locks · file) (Enables · file) ?_ ?_ opened
 · rintro ⟨_,found,-⟩
   simp [machine,Driver.context] at found
 · rintro _ x before valid ⟨_,found,on⟩
   cases (step_exit x valid (run_invariant before)).contextStep found with
   | created _ closed => cases closed.symm.trans on
   | kept context found _ calm gate => exact .inr ⟨calm,context,found,gate on⟩
   | locked _ _ _ locks gate => exact .inl ⟨locks,gate on⟩

lemma run_creator (run:(machine highestUser).Run h s) {file:ℕ} {context:FileContext}
 (found:s.context file=some context) : ∃ y∈h,Creates y file context.owner := by
 refine run.history_invariant (fun h s => ∀context,s.context file=some context →
  ∃ y∈h,Creates y file context.owner) ?_ ?_ context found
 · intro _ found
   simp [machine,Driver.context] at found
 · intro past x before valid earlier _ found
   have extend {owner:Caller} (h:∃ y∈past,Creates y file owner) :
    ∃ y∈past++[x],Creates y file owner := by
    obtain ⟨y,mem,creates⟩:=h
    exact ⟨y,List.mem_append_left _ mem,creates⟩
   cases (step_exit x valid (run_invariant before)).contextStep found with
   | created creates => exact ⟨x,by simp,creates⟩
   | kept context found owner | locked context found owner =>
    exact owner ▸ extend (earlier context found)

/-- A step that stores into memory is the locked section of an admitted request, and it finds
 the gate open. -/
lemma StepExit.stores {op:Op} {t:List KernelEvent} {r:Option Completion}
 (h:StepExit highestUser s op t r s') (loud:¬Silent t) :
 ∃ id file caller ioctl context,op=.resume id ∧
  s.request id=some (.control file caller ioctl true) ∧ ioctl.isWriteClass=true ∧
  s.context file=some context ∧ context.writeEnabled=true ∧
  ∀event∈t,∀address data,event.call=.writeMapping address data →
   InReportedPage t address.toNat data.length := by
 cases h with
 | handled id file caller ioctl context waits found body =>
  cases kind:ioctl.isWriteClass with
  | false => exact absurd (Ioctl.handle_other kind body).1 loud
  | true =>
   rcases Ioctl.handle_exit kind body with gated|⟨-,rfl,-⟩
   · exact ⟨id,file,caller,ioctl,context,rfl,waits,kind,found,gated.armed loud,
      gated.inside⟩
   · exact absurd silent_nil loud
 | _ => exact absurd (by simp [KernelCall.isWrite]) loud

lemma StepExit.context_of_locks {op:Op} {t:List KernelEvent} {r:Option Completion}
 (h:StepExit highestUser s op t r s') {file:ℕ} (locks:Locks ⟨op,s,t,r,s'⟩ file) :
 ∃ context,s'.context file=some context := by
 obtain ⟨_,id,_,_,rfl,waits,write⟩:=locks
 cases h with
 | idle r quiet => cases (quiet id rfl).symm.trans waits
 | denied _ _ _ _ waits' read =>
  cases waits.symm.trans waits'
  simp [read] at write
 | rejected _ _ _ _ _ waits' found | handled _ _ _ _ _ waits' found =>
  cases waits.symm.trans waits'
  exact ⟨_,(context_setContext found).trans (if_pos rfl)⟩
 | revoked _ _ _ _ waits' | released _ _ _ waits' | freed _ _ _ waits' =>
  cases waits.symm.trans waits'

/-- The write of step `i` on `file` spends the enabling of step `j`: no locked section on `file`
 stands between them. -/
structure Consumes (h : List DriverStep) (file j i : ℕ) : Prop where
 enabled : ∃ y,h[j]?=some y ∧ Enables y file
 stored : ∃ x,h[i]?=some x ∧ Locks x file ∧ ¬ Silent x.trace
 earlier : j < i
 between : ∀ m z,j < m → m < i → h[m]?=some z → ¬ Locks z file

lemma Consumes.unique {file j i k:ℕ} (first:Consumes h file j i)
 (second:Consumes h file j k) : k=i := by
 obtain ⟨x,hx,locks,-⟩:=first.stored
 obtain ⟨y,hy,locks',-⟩:=second.stored
 rcases Nat.lt_trichotomy k i with lt|eq|gt
 · exact absurd locks' (first.between k y second.earlier lt hy)
 · exact eq
 · exact absurd locks (second.between i x first.earlier gt hx)

lemma consumes_of_since {file i:ℕ} {x y:DriverStep} (hx:h[i]?=some x)
 (locks:Locks x file) (loud:¬Silent x.trace)
 (since:Since (fun z => ¬Locks z file) (h.take i) y) (enables:Enables y file) :
 ∃ j,Consumes h file j i := by
 obtain ⟨j,lt,hy,later⟩:=since.index
 have earlier:j < i:=by
  rw [List.length_take] at lt
  omega
 rw [List.getElem?_take_of_lt earlier] at hy
 refine ⟨j,⟨y,hy,enables⟩,⟨x,hx,locks,loud⟩,earlier,fun m z after before hz => ?_⟩
 exact later m z after (by rw [List.getElem?_take_of_lt before,hz])

theorem run_write_gate_one_shot {highestUser : UInt64} {h : List DriverStep} {s : Driver}
 (run : (machine highestUser).Run h s) :
 (∀ i x,h[i]?=some x → ¬ Silent x.trace → ∃ file caller j,
  LockedSection x file caller ∧ Consumes h file j i ∧ (∀ k,Consumes h file j k → k=i) ∧
  (∃ y∈h.take i,Creates y file caller) ∧
  ∀ event∈x.trace,∀ address data,event.call=.writeMapping address data →
   InReportedPage x.trace address.toNat data.length) ∧
 ∀ x∈h,∀ file,Locks x file → ¬ Enables x file →
  ∃ context,x.after.context file=some context ∧ context.writeEnabled=false := by
 refine ⟨fun i x hx loud => ?_,fun x mem _ locks disabled => ?_⟩
 · obtain ⟨before,valid⟩ := run.before_eq hx
   have inv := run_invariant before
   obtain ⟨id,file,caller,ioctl,context,resumed,waits,write,found,armed,inside⟩ :=
    (step_exit x valid inv).stores loud
   have locked : LockedSection x file caller := ⟨id,ioctl,true,resumed,waits,write⟩
   obtain ⟨y,since,enables⟩ := run_gate_open before ⟨context,found,armed⟩
   obtain ⟨j,consumes⟩ := consumes_of_since hx ⟨caller,locked⟩ loud since enables
   have creator := run_creator before found
   rw [inv.admitted id file caller ioctl context waits found] at creator
   exact ⟨file,caller,j,locked,consumes,fun k other=>consumes.unique other,creator,
    inside⟩
 · obtain ⟨⟨_,before⟩,valid⟩ := run.valid_of_mem mem
   have exit := step_exit x valid (run_invariant before)
   obtain ⟨context,found⟩ := exit.context_of_locks locks
   refine ⟨context,found,?_⟩
   cases exit.contextStep found with
   | created _ closed => exact closed
   | kept _ _ _ calm => exact absurd locks calm
   | locked _ _ _ _ gate =>
    exact Bool.eq_false_iff.2 fun on=>disabled (gate on)

def sampleCaller : Caller := ⟨0xFA80,4⟩

def sampleEnable : Irp WriteModeRequest := ⟨some ⟨16,1,kWriteAckMagic⟩,16,0⟩

def sampleWrite : PhysicalWriteIrp where
 buffer := some ⟨33,0,0x1000,1,0,kWriteAckMagic,[7]⟩
 inputLength := 33
 outputLength := 32
 carried := by
  rintro request ⟨⟩ -
  rfl

def sampleTrace : List KernelEvent :=
 [⟨.physicalMemoryRanges,some [⟨0x1000,0x2000⟩]⟩,⟨.mapIoSpace 0x1000 1,true⟩,
  ⟨.writeMapping 0x1000 [7],none⟩]

def sampleDriver (gate : Bool) (pending : List (Option Pending)) (statistics : Statistics) :
 Driver :=
 { files := [some { writeEnabled := gate,owner := sampleCaller }],pending,
   ownerProcess := sampleCaller.process,ownerPid := sampleCaller.pid,openHandleCount := 1,
   statistics }

def sampleEnabling : Pending := .control 0 sampleCaller (.setWriteMode sampleEnable) true

def sampleWriting : Pending := .control 0 sampleCaller (.writePhysical sampleWrite) true

def sampleCreated : DriverStep :=
 ⟨.create sampleCaller,{},[⟨.allocatePool,true⟩],some ⟨.success,0,none⟩,
  sampleDriver false [] {}⟩

def sampleChecked : DriverStep :=
 ⟨.deviceControl 0 sampleCaller (.setWriteMode sampleEnable),sampleDriver false [] {},[],none,
  sampleDriver false [some sampleEnabling] {}⟩

def sampleEnabled : DriverStep :=
 ⟨.resume 0,sampleDriver false [some sampleEnabling] {},[],some ⟨.success,0,none⟩,
  sampleDriver true [none] {}⟩

def sampleSubmitted : DriverStep :=
 ⟨.deviceControl 0 sampleCaller (.writePhysical sampleWrite),sampleDriver true [none] {},[],
  none,sampleDriver true [none,some sampleWriting] {}⟩

def sampleStored : DriverStep :=
 ⟨.resume 1,sampleDriver true [none,some sampleWriting] {},sampleTrace,
  some ⟨.success,32,some (.transferred 1)⟩,
  sampleDriver false [none,none] ⟨1,0, .success, .complete,1⟩⟩

def sampleHistory : List DriverStep :=
 [sampleCreated,sampleChecked,sampleEnabled,sampleSubmitted,sampleStored]

lemma sampleWrite_exec :
 (Driver.writePhysical sampleWrite ⟨true,{}⟩).Exec sampleTrace
  (⟨.success,32,some (.transferred 1)⟩,⟨false,⟨1,0, .success, .complete,1⟩⟩) := by
 have stores : (writeValidatedPhysicalRange 0x1000 [7] 1
  ⟨0,0, .pending, .validation,0⟩).Exec
  [⟨.mapIoSpace 0x1000 1,true⟩,⟨.writeMapping 0x1000 [7],none⟩]
  ((.success,1),⟨0,0, .pending, .copying,0⟩) :=
  writeValidatedPhysicalRange_stores _ (by decide) (by decide) rfl
 refine .call _ ?_
 change Prog.Exec (writeValidatedPhysicalRange 0x1000 [7] 1 _ >>= _) _ _
 exact (Prog.exec_bind _ _ _ _).2 ⟨_,_,[],rfl,stores, .ret _⟩

lemma sampleCreated_valid : (machine 0x7FFF).Valid sampleCreated := .call _ (.ret _)

lemma sampleStored_valid : (machine 0x7FFF).Valid sampleStored :=
 (Prog.exec_bind _ _ _ _).2 ⟨_,_,[],rfl,sampleWrite_exec, .ret _⟩

lemma sampleHistory_run : (machine 0x7FFF).Run sampleHistory sampleStored.after :=
 ((((Machine.Run.nil.snoc sampleCreated rfl sampleCreated_valid).snoc sampleChecked rfl
  (.ret _)).snoc sampleEnabled rfl (.ret _)).snoc sampleSubmitted rfl (.ret _)).snoc
   sampleStored rfl sampleStored_valid

theorem sampleHistory_one_shot :
 (∃ file caller j,LockedSection sampleStored file caller ∧ Consumes sampleHistory file j 4 ∧
  (∃ y∈sampleHistory.take 4,Creates y file caller) ∧
  InReportedPage sampleStored.trace 0x1000 1) ∧
 ∃ context,sampleStored.after.context 0=some context ∧ context.writeEnabled=false := by
 have one_shot := run_write_gate_one_shot sampleHistory_run
 have loud : ¬ Silent sampleStored.trace := by
  simp [sampleStored,sampleTrace,KernelCall.isWrite]
 have locks : Locks sampleStored 0 :=
  ⟨sampleCaller,1, .writePhysical sampleWrite,true,rfl,rfl,rfl⟩
 have disabled : ¬ Enables sampleStored 0 := by
  rintro ⟨_,_,_,_,_,⟨⟩,waits,enables,-⟩
  cases waits
  cases enables
 refine ⟨?_,one_shot.2 sampleStored (by simp [sampleHistory]) 0 locks disabled⟩
 obtain ⟨file,caller,j,locked,consumes,-,creator,inside⟩ :=
  one_shot.1 4 sampleStored rfl loud
 refine ⟨file,caller,j,locked,consumes,creator,?_⟩
 exact inside ⟨.writeMapping 0x1000 [7],none⟩ (List.mem_of_getElem? (i := 2) rfl) _ _ rfl

end KDbg.Driver
