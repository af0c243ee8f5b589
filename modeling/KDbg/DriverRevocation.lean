import KDbg.DriverWriteGate
set_option autoImplicit false
/-! What the cleanup of a file object revokes, and what a request that passed its controller
check before the cleanup can still do. -/
namespace KDbg.Driver
open Interaction RequestSlots

/-- The sections of `CleanupFileContext` after the exchange on `CleanedUp`. -/
def Pending.isCleaning : Pending→Bool
 | .revoke _ _ | .release _ _ => true
 | .control _ _ _ _ | .free _ => false

/-- The cleanup of the file object has set `CleanedUp` and has closed the gate. -/
structure Revoked (s : Driver) (file : ℕ) : Prop where
 known : file < s.files.length
 flagged : ∀ context,s.context file=some context → context.cleanedUp=true
 passed : ∀ id closing,s.request id≠some (.revoke file closing)

def CompletesCleanup (x : DriverStep) (file : ℕ) : Prop :=
 ∃ id closing,x.op=.resume id ∧ x.before.request id=some (.release file closing)

/-- A packet that `SET_WRITE_MODE` accepts and that opens the gate. -/
def Ioctl.opensGate : Ioctl→Bool
 | .setWriteMode irp => irp.buffer.any fun request =>
  irp.inputLength == kWriteModeRequestSize && irp.outputLength == 0 &&
   request.size == kWriteModeRequestSize && request.enableWrite == 1 &&
   request.acknowledge == kWriteAckMagic
 | _ => false

/-- The step runs an accepted request to enable writing on a context whose cleanup has already
 closed the gate. -/
def EnablesLate (x : DriverStep) : Prop :=
 ∃ id file caller ioctl,x.op=.resume id ∧
  x.before.request id=some (.control file caller ioctl true) ∧ ioctl.opensGate=true ∧
  Revoked x.before file

section Steps
variable {highestUser:UInt64} {s s':Driver} {op:Op} {t:List KernelEvent}
 {r:Option Completion}

section
variable {id:ℕ} {next p:Pending}

/-- Where a request that cleans up comes from. -/
inductive CleaningStep (s:Driver) (op:Op) (s':Driver) (id:ℕ) (next:Pending) : Prop where
 | old (held:s.request id=some next)
 | started (file:ℕ) (closing:Bool) (context:FileContext)
  (last:id=s.pending.length) (starts:next=.revoke file closing)
  (found:s.context file=some context) (clear:context.cleanedUp=false)
  (flagged:∀ context',s'.context file=some context' → context'.cleanedUp=true)
 | advanced (file:ℕ) (closing:Bool) (resumed:op=.resume id)
  (held:s.request id=some (.revoke file closing)) (released:next=.release file closing)

lemma CleaningStep.of_exchange {file:ℕ} {closing:Bool} {context:FileContext}
 (found:s.context file=some context) (clear:context.cleanedUp=false)
 (held:(exchangeCleanedUp file context (.revoke file closing) s).request id=some next) :
 CleaningStep s op (exchangeCleanedUp file context (.revoke file closing) s) id next := by
 rcases append_cases held with ⟨last,starts⟩|kept
 · refine .started file closing context last starts found clear fun _ live => ?_
   rcases context_set_cases found live with ⟨-,same⟩|⟨differs,-⟩
   · cases same
     rfl
   · exact absurd rfl differs
 · exact .old kept

lemma StepExit.cleaningStep (h:StepExit highestUser s op t r s')
 (held:s'.request id=some next) (cleaning:next.isCleaning=true) :
 CleaningStep s op s' id next := by
 have dropped {i:ℕ} {p:Pending} (waits:s.request i=some p)
  (held:(s.advance i none).request id=some next) : CleaningStep s op s' id next := by
  rcases set_cases waits held with ⟨-,none⟩|⟨-,kept⟩
  · cases none
  · exact .old kept
 cases h with
 | idle | refused | created => exact .old held
 | checked _ _ _ _ _ kept | dropped =>
  rcases append_cases held with ⟨-,rfl⟩|kept
  · cases cleaning
  · exact .old kept
 | cleaned _ _ found clear | closed _ _ found clear => exact .of_exchange found clear held
 | denied i _ _ _ waits | rejected i _ _ _ _ waits | handled i _ _ _ _ waits =>
  exact dropped waits held
 | revoked i file closing _ waits =>
  rcases set_cases waits held with ⟨rfl,same⟩|⟨-,kept⟩
  · exact .advanced file closing rfl waits (Option.some.inj same).symm
  · exact .old kept
 | released i file closing waits =>
  rcases set_cases waits held with ⟨-,same⟩|⟨-,kept⟩
  · split at same
    · cases same
      cases cleaning
    · cases same
  · exact .old kept
 | freed i _ _ waits => exact dropped waits held

end

lemma StepExit.cleanedUp (h:StepExit highestUser s op t r s') {file:ℕ}
 {context context':FileContext} (found:s.context file=some context)
 (found':s'.context file=some context') (set:context.cleanedUp=true) :
 context'.cleanedUp=true := by
 have same {held:FileContext} (other:s.context file=some held) : held.cleanedUp=true := by
  cases found.symm.trans other
  exact set
 have written {target:ℕ} {old:FileContext} (value:FileContext)
  (live:s.context target=some old) (flag:old.cleanedUp=true → value.cleanedUp=true)
  (held:(s.setContext target (some value)).context file=some context') :
  context'.cleanedUp=true := by
  rcases context_set_cases live held with ⟨rfl,value_eq⟩|⟨-,kept⟩
  · cases value_eq
    exact flag (same live)
  · exact same kept
 cases h with
 | idle | checked | dropped | denied => exact same found'
 | refused =>
  rw [context_kept found] at found'
  cases found'
  exact set
 | created =>
  have kept:s.context file=some context':=by
   rcases context_created found' with kept|⟨last,-⟩
   · exact kept
   · subst last
     simp [Driver.context] at found
  exact same kept
 | cleaned _ old live | closed _ old live =>
  exact written { old with cleanedUp := true } live (fun _=>rfl) found'
 | rejected i _ _ _ old _ live | revoked i _ _ old _ live =>
  exact written { old with writeEnabled := false } live (fun flag=>flag) found'
 | @handled i _ _ _ old _ live t _ after _ =>
  exact written { old with writeEnabled := after.writeEnabled } live (fun flag=>flag) found'
 | released =>
  exact same found'
 | freed i _ _ _ live =>
  rcases context_set_cases live found' with ⟨-,none⟩|⟨-,kept⟩
  · cases none
  · exact same kept

lemma StepExit.known (h:StepExit highestUser s op t r s') :
 s.files.length ≤ s'.files.length := by
 cases h <;> simp [exchangeCleanedUp,Driver.setContext,Driver.enqueue,Driver.advance,releaseOwner]

lemma Ioctl.opensGate_of_success {ioctl:Ioctl} {held after:Section}
 {completion:Completion} (asks:ioctl.enables=true)
 (body:(ioctl.handle highestUser held).Exec t (completion,after))
 (success:completion.status=.success) : ioctl.opensGate=true := by
 cases ioctl with
 | setWriteMode =>
  obtain ⟨-,same,-⟩:=body.of_pure_prod
  rw [same] at success
  unfold Driver.setWriteMode at success
  unfold Ioctl.enables at asks
  unfold Ioctl.opensGate
  split at success
  · cases success
  rename_i request buffered
  split at success
  · cases success
  rename_i lengths
  split at success
  · cases success
  rename_i fields
  simp only [not_or,not_not,UInt32.not_lt] at lengths fields
  simp only [buffered,Option.any_some,bne_iff_ne] at asks ⊢
  have positive:request.enableWrite.toNat≠0:=fun zero=>asks (UInt32.toNat_inj.1 zero)
  have most:request.enableWrite.toNat≤1:=UInt32.le_iff_toNat_le.1 fields.2.1
  have one:request.enableWrite=1:=UInt32.toNat_inj.1 (by
   change request.enableWrite.toNat=1
   omega)
  simp [lengths,fields,one]
 | _ => cases asks

/-- What a step can open, it opens by an accepted request that passed the controller check. -/
lemma StepExit.opens (h:StepExit highestUser s op t r s') {file:ℕ}
 (enables:Enables ⟨op,s,t,r,s'⟩ file) :
 ∃ id caller ioctl,op=.resume id ∧
  s.request id=some (.control file caller ioctl true) ∧ ioctl.opensGate=true := by
 obtain ⟨id,caller,ioctl,_,_,resumed,waits,asks,answered,success⟩ :=
  enables
 subst resumed
 cases h with
 | idle r quiet => cases (quiet id rfl).symm.trans waits
 | denied | rejected =>
  cases answered
  cases success
 | handled _ _ _ _ _ waits' _ body =>
  cases waits.symm.trans waits'
  cases answered
  exact ⟨id,caller,ioctl,rfl,waits,Ioctl.opensGate_of_success asks body success⟩
 | revoked _ _ _ _ waits' | released _ _ _ waits' | freed _ _ _ waits' =>
  cases waits.symm.trans waits'

end Steps

/-- A context that is being cleaned up is flagged so, by one request only. -/
structure Cleaning (s : Driver) : Prop where
 flagged : ∀ id next context,s.request id=some next → next.isCleaning=true →
  s.context next.file=some context → context.cleanedUp=true
 single : ∀ id next other next',s.request id=some next → next.isCleaning=true →
  s.request other=some next' → next'.isCleaning=true → next'.file=next.file → other=id

/-- A file object on which the cleanup has closed the gate, and nobody has opened it since. -/
structure Sealed (s : Driver) (file : ℕ) : Prop where
 revoked : Revoked s file
 closed : ¬ GateOpen s file

section Preservation
variable {highestUser:UInt64} {s s':Driver} {op:Op} {t:List KernelEvent}
 {r:Option Completion}

/-- A cleaning request after the step either stood there before, on the same file object, or it
 starts the cleanup of a context that was not flagged. -/
lemma CleaningStep.cases {id:ℕ} {next:Pending} (h:CleaningStep s op s' id next)
 (cleaning:next.isCleaning=true) :
 (∃ old,s.request id=some old ∧ old.isCleaning=true ∧ old.file=next.file) ∨
  (id=s.pending.length ∧
   (∃ context,s.context next.file=some context ∧ context.cleanedUp=false) ∧
   ∀context,s'.context next.file=some context → context.cleanedUp=true) := by
 cases h with
 | old held => exact .inl ⟨next,held,cleaning,rfl⟩
 | started _ _ context last starts found clear flagged =>
  subst starts
  exact .inr ⟨last,⟨context,found,clear⟩,flagged⟩
 | advanced _ _ _ held released =>
  subst released
  exact .inl ⟨_,held,rfl,rfl⟩

lemma StepExit.cleaning (h:StepExit highestUser s op t r s') (inv:Invariant s)
 (clean:Cleaning s) : Cleaning s' := by
 refine ⟨fun id _ context held cleaning found => ?_,
  fun id _ other _ held cleaning held' cleaning' on => ?_⟩
 · rcases (h.cleaningStep held cleaning).cases cleaning with ⟨old,stood,kind,file⟩|⟨-,-,flag⟩
   · obtain ⟨before,live⟩:=inv.attached id old stood
     have set:=clean.flagged id old before stood kind live
     rw [file] at live
     exact h.cleanedUp live found set
   · exact flag context found
 · have clash {i:ℕ} {old p:Pending} (stood:s.request i=some old)
    (kind:old.isCleaning=true) (file:old.file=p.file)
    (clear:∃ context,s.context p.file=some context ∧ context.cleanedUp=false) :
    False := by
    obtain ⟨context,live,clear⟩:=clear
    rw [←file] at live
    cases (clean.flagged i old context stood kind live).symm.trans clear
   rcases (h.cleaningStep held cleaning).cases cleaning with
    ⟨old,stood,kind,file⟩ | ⟨last,clear,-⟩
   · rcases (h.cleaningStep held' cleaning').cases cleaning' with
      ⟨old',stood',kind',file'⟩ | ⟨-,clear',-⟩
     · exact clean.single id old other old' stood kind stood' kind'
        (file'.trans (on.trans file.symm))
     · exact (clash stood kind (file.trans on.symm) clear').elim
   · rcases (h.cleaningStep held' cleaning').cases cleaning' with
      ⟨_,stood',kind',file'⟩ | ⟨last',-,-⟩
     · exact (clash stood' kind' (file'.trans on) clear).elim
     · exact last'.trans last.symm

lemma StepExit.revoked_mono (h:StepExit highestUser s op t r s') {file:ℕ}
 (revoked:Revoked s file) : Revoked s' file := by
 refine ⟨revoked.known.trans_le h.known,fun _ found => ?_,fun id closing held => ?_⟩
 · cases h.contextStep found with
   | created creates => exact absurd creates.2.1 revoked.known.ne
   | kept _ live | locked _ live => exact h.cleanedUp live found (revoked.flagged _ live)
 · cases h.cleaningStep held rfl with
   | old stood => exact revoked.passed id closing stood
   | started _ _ context _ starts live clear flagged =>
    cases starts
    cases (revoked.flagged context live).symm.trans clear
   | advanced _ _ _ _ released => cases released

/-- A sealed file object stays so, unless an accepted request opens its gate too late. -/
lemma StepExit.sealed_mono (h:StepExit highestUser s op t r s')
 (timely:¬EnablesLate ⟨op,s,t,r,s'⟩) {file:ℕ} (held:Sealed s file) :
 Sealed s' file := by
 refine ⟨h.revoked_mono held.revoked,?_⟩
 rintro ⟨_,found,on⟩
 cases h.contextStep found with
 | created _ closed => cases closed.symm.trans on
 | kept before live _ _ gate => exact held.closed ⟨before,live,gate on⟩
 | locked _ _ _ _ gate =>
  obtain ⟨id,caller,ioctl,resumed,waits,opens⟩:=h.opens (gate on)
  exact timely ⟨id,file,caller,ioctl,resumed,waits,opens,held.revoked⟩

lemma StepExit.seals (h:StepExit highestUser s op t r s') (inv:Invariant s)
 (clean:Cleaning s) {id file:ℕ} {closing:Bool} (resumed:op=.resume id)
 (waits:s.request id=some (.revoke file closing)) : Sealed s' file := by
 subst resumed
 obtain ⟨context,live⟩:=inv.attached id _ waits
 have flag:=clean.flagged id _ context waits rfl live
 have known:file < s.files.length:=by
  by_contra beyond
  simp [Pending.file,Driver.context,List.getElem?_eq_none (Nat.le_of_not_lt beyond)] at live
 cases h with
 | idle r quiet => cases (quiet id rfl).symm.trans waits
 | revoked _ _ closing' context' waits' found =>
  cases waits.symm.trans waits'
  have after (c:FileContext) (held:(((s.advance id (some (.release file closing))).setContext
   file (some { context' with writeEnabled := false })).context file=some c)) :
   c={ context' with writeEnabled := false } := by
   rw [context_setContext (s := s.advance id _) found,if_pos rfl] at held
   exact (Option.some.inj held).symm
  refine ⟨⟨by simpa [Driver.setContext,Driver.advance] using known,fun c held => ?_,
   fun j _ held => ?_⟩,?_⟩
  · rw [after c held]
    cases found.symm.trans live
    exact flag
  · rcases set_cases waits held with ⟨-,same⟩|⟨differs,old⟩
    · cases same
    · exact differs (clean.single id _ j _ waits rfl old rfl rfl)
  · rintro ⟨c,held,on⟩
    rw [after c held] at on
    cases on
 | denied _ _ _ _ waits' | rejected _ _ _ _ _ waits' | handled _ _ _ _ _ waits'
 | released _ _ _ waits' | freed _ _ _ waits' => cases waits.symm.trans waits'

lemma StepExit.gateOpen_of_stores (h:StepExit highestUser s op t r s') {file:ℕ}
 (locks:Locks ⟨op,s,t,r,s'⟩ file) (loud:¬Silent t) : GateOpen s file := by
 obtain ⟨_,_,_,_,resumed,waits,-⟩:=locks
 obtain ⟨_,_,_,_,context,resumed',waits',-,found,armed,-⟩ :=
  h.stores loud
 cases Option.some.inj ((congrArg some resumed).symm.trans (congrArg some resumed'))
 cases waits.symm.trans waits'
 exact ⟨context,found,armed⟩

end Preservation

section
variable {highestUser:UInt64} {h:List DriverStep} {s:Driver}

lemma run_cleaning (run:(machine highestUser).Run h s) : Cleaning s := by
 refine run.history_invariant (fun _ s=>Cleaning s) ⟨by simp [machine,request],
  by simp [machine,request]⟩ fun _ x before valid clean => ?_
 have inv:=run_invariant before
 exact (step_exit x valid inv).cleaning inv clean

/-- As long as no request opens a gate too late, a file object is sealed from the second section
 of its cleanup on. -/
lemma run_sealed (run:(machine highestUser).Run h s) (timely:∀x∈h,¬EnablesLate x) :
 (∀id file closing,s.request id=some (.release file closing)→Sealed s file) ∧
  ∀y∈h,∀file,CompletesCleanup y file→Sealed s file := by
 refine run.history_invariant (fun h s=>(∀x∈h,¬EnablesLate x) →
  (∀id file closing,s.request id=some (.release file closing)→Sealed s file) ∧
   ∀y∈h,∀file,CompletesCleanup y file→Sealed s file) ?_ ?_ timely
 · intro _
   exact ⟨by simp [machine,request],by simp⟩
 · intro _ x before valid earlier timely
   obtain ⟨releasing,completed⟩:=earlier fun z mem=>timely z (List.mem_append_left _ mem)
   have inv:=run_invariant before
   have exit:=step_exit x valid inv
   have kept {file:ℕ} (held:Sealed x.before file) : Sealed x.after file :=
    exit.sealed_mono (timely x (by simp)) held
   refine ⟨fun id file closing held => ?_,fun y mem file done => ?_⟩
   · cases exit.cleaningStep held rfl with
     | old stood => exact kept (releasing id file closing stood)
     | started _ _ _ _ starts => cases starts
     | advanced _ _ resumed stood released =>
      cases released
      exact exit.seals inv (run_cleaning before) resumed stood
   · rcases List.mem_append.1 mem with old|new
     · exact kept (completed y old file done)
     · rw [List.mem_singleton] at new
       subst new
       obtain ⟨id,closing,-,waits⟩:=done
       exact kept (releasing id file closing waits)

end

/-- Once the cleanup of a file object is complete, its gate is never open and no request writes
 on it. -/
def RevokesForGood (h : List DriverStep) : Prop :=
 ∀ (j : ℕ) y file,h[j]?=some y → CompletesCleanup y file → ∀ i x,j ≤ i → h[i]?=some x →
  ¬ GateOpen x.after file ∧ (j < i→Locks x file→Silent x.trace)

theorem run_revokes_for_good {highestUser : UInt64} {h : List DriverStep} {s : Driver}
 (run : (machine highestUser).Run h s) (timely : ∀ x∈h,¬ EnablesLate x) :
 RevokesForGood h := by
 intro j y file hy done i x le hx
 obtain ⟨before,valid⟩ := run.before_eq hx
 have past (z : DriverStep) (mem : z∈h.take i) : ¬ EnablesLate z :=
  timely z (List.mem_of_mem_take mem)
 have here : ¬ EnablesLate x := timely x (List.mem_of_getElem? hx)
 refine ⟨?_,fun lt locks => ?_⟩
 · have after := before.snoc x rfl valid
   refine ((run_sealed after fun z mem => ?_).2 y ?_ file done).closed
   · rcases List.mem_append.1 mem with old | new
     · exact past z old
     · rwa [List.mem_singleton.1 new]
   · rcases Nat.lt_or_eq_of_le le with lt | rfl
     · exact List.mem_append_left _ (List.mem_of_getElem? ((List.getElem?_take_of_lt lt).trans hy))
     · cases hy.symm.trans hx
       simp
 · have mem : y∈h.take i := List.mem_of_getElem? ((List.getElem?_take_of_lt lt).trans hy)
   by_contra loud
   exact ((run_sealed before past).2 y mem file done).closed
    ((step_exit x valid (run_invariant before)).gateOpen_of_stores locks loud)

def cleanedDriver (gate : Bool) (handles : Int32) (pending : List (Option Pending))
 (statistics : Statistics) : Driver :=
 { files := [some { writeEnabled := gate,cleanedUp := true,owner := sampleCaller }],pending,
   toOwnership := if handles=0 then {} else ⟨sampleCaller.process,sampleCaller.pid,handles⟩,
   statistics }

def timelyCleaned : DriverStep :=
 ⟨.cleanup 0,sampleDriver true [none,some sampleWriting] {},[],none,
  cleanedDriver true 1 [none,some sampleWriting,some (.revoke 0 false)] {}⟩

def timelyRevoked : DriverStep :=
 ⟨.resume 2,timelyCleaned.after,[],none,
  cleanedDriver false 1 [none,some sampleWriting,some (.release 0 false)] {}⟩

def timelyReleased : DriverStep :=
 ⟨.resume 2,timelyRevoked.after,[],some ⟨.success,0,none⟩,
  cleanedDriver false 0 [none,some sampleWriting,none] {}⟩

/-- The write that passed its controller check before the cleanup finds the gate closed. -/
def timelyRefused : DriverStep :=
 ⟨.resume 1,timelyReleased.after,[⟨.physicalMemoryRanges,some [⟨0x1000,0x2000⟩]⟩],
  some ⟨.accessDenied,0,none⟩,
  cleanedDriver false 0 [none,none,none] ⟨0,1, .accessDenied, .validation,0⟩⟩

def timelyHistory : List DriverStep :=
 [sampleCreated,sampleChecked,sampleEnabled,sampleSubmitted,timelyCleaned,timelyRevoked,
  timelyReleased,timelyRefused]

lemma timelyRefused_valid : (machine 0x7FFF).Valid timelyRefused := .call _ (.ret _)

lemma timelyHistory_run : (machine 0x7FFF).Run timelyHistory timelyRefused.after :=
 (((((((Machine.Run.nil.snoc sampleCreated rfl sampleCreated_valid).snoc sampleChecked rfl
  (.ret _)).snoc sampleEnabled rfl (.ret _)).snoc sampleSubmitted rfl (.ret _)).snoc
   timelyCleaned rfl (.ret _)).snoc timelyRevoked rfl (.ret _)).snoc timelyReleased rfl
    (.ret _)).snoc timelyRefused rfl timelyRefused_valid

lemma timelyHistory_timely : ∀x∈timelyHistory,¬EnablesLate x := by
 have early:¬EnablesLate sampleEnabled:=by
  rintro ⟨_,_,_,_,⟨⟩,⟨⟩,-,revoked⟩
  cases revoked.flagged _ rfl
 have refused:¬EnablesLate timelyRefused:=by
  rintro ⟨_,_,_,_,⟨⟩,⟨⟩,opens,-⟩
  cases opens
 have released:¬EnablesLate timelyReleased:=by
  rintro ⟨_,_,_,_,⟨⟩,waits,-⟩
  cases waits
 have revoked:¬EnablesLate timelyRevoked:=by
  rintro ⟨_,_,_,_,⟨⟩,waits,-⟩
  cases waits
 have dispatched {x:DriverStep} (other:∀id,x.op≠.resume id) : ¬EnablesLate x := by
  rintro ⟨id,_,_,_,resumed,-⟩
  exact other id resumed
 simp only [timelyHistory,List.forall_mem_cons,early,revoked,released,refused,
  not_false_eq_true,true_and]
 exact ⟨dispatched (by rintro _ ⟨⟩),dispatched (by rintro _ ⟨⟩),dispatched (by rintro _ ⟨⟩),
  dispatched (by rintro _ ⟨⟩),by simp⟩

theorem timelyHistory_revokes :
 CompletesCleanup timelyReleased 0 ∧ ¬ GateOpen timelyRefused.after 0 ∧
  (Locks timelyRefused 0 ∧ Silent timelyRefused.trace) := by
 have completes : CompletesCleanup timelyReleased 0 := ⟨2,false,rfl,rfl⟩
 have locks : Locks timelyRefused 0 :=
  ⟨sampleCaller,1, .writePhysical sampleWrite,true,rfl,rfl,rfl⟩
 obtain ⟨closed,silent⟩ := run_revokes_for_good timelyHistory_run timelyHistory_timely 6
  timelyReleased 0 rfl completes 7 timelyRefused (by decide) rfl
 exact ⟨completes,closed,locks,silent (by decide) locks⟩

def lateSubmitted : DriverStep :=
 ⟨.deviceControl 0 sampleCaller (.writePhysical sampleWrite),
  sampleDriver false [some sampleEnabling] {},[],none,
  sampleDriver false [some sampleEnabling,some sampleWriting] {}⟩

def lateCleaned : DriverStep :=
 ⟨.cleanup 0,lateSubmitted.after,[],none,
  cleanedDriver false 1 [some sampleEnabling,some sampleWriting,some (.revoke 0 false)] {}⟩

def lateRevoked : DriverStep :=
 ⟨.resume 2,lateCleaned.after,[],none,
  cleanedDriver false 1 [some sampleEnabling,some sampleWriting,some (.release 0 false)] {}⟩

def lateReleased : DriverStep :=
 ⟨.resume 2,lateRevoked.after,[],some ⟨.success,0,none⟩,
  cleanedDriver false 0 [some sampleEnabling,some sampleWriting,none] {}⟩

def lateEnabled : DriverStep :=
 ⟨.resume 0,lateReleased.after,[],some ⟨.success,0,none⟩,
  cleanedDriver true 0 [none,some sampleWriting,none] {}⟩

def lateStored : DriverStep :=
 ⟨.resume 1,lateEnabled.after,sampleTrace,some ⟨.success,32,some (.transferred 1)⟩,
  cleanedDriver false 0 [none,none,none] ⟨1,0, .success, .complete,1⟩⟩

/-- Both requests pass their controller checks before the cleanup and take the `WriteLock` after
 it. -/
def lateHistory : List DriverStep :=
 [sampleCreated,sampleChecked,lateSubmitted,lateCleaned,lateRevoked,lateReleased,
  lateEnabled,lateStored]

lemma lateStored_valid : (machine 0x7FFF).Valid lateStored :=
 (Prog.exec_bind _ _ _ _).2 ⟨_,_,[],rfl,sampleWrite_exec, .ret _⟩

lemma lateHistory_run : (machine 0x7FFF).Run lateHistory lateStored.after :=
 (((((((Machine.Run.nil.snoc sampleCreated rfl sampleCreated_valid).snoc sampleChecked rfl
  (.ret _)).snoc lateSubmitted rfl (.ret _)).snoc lateCleaned rfl (.ret _)).snoc lateRevoked rfl
   (.ret _)).snoc lateReleased rfl (.ret _)).snoc lateEnabled rfl (.ret _)).snoc lateStored rfl
    lateStored_valid

/-- The gate of a revoked file object is opened again, and a write is executed on it. -/
theorem lateHistory_writes_after_cleanup :
 (∃ s,(machine 0x7FFF).Run lateHistory s) ∧ CompletesCleanup lateReleased 0 ∧
  GateOpen lateEnabled.after 0 ∧ Locks lateStored 0 ∧ ¬ Silent lateStored.trace ∧
  ¬ RevokesForGood lateHistory := by
 have completes : CompletesCleanup lateReleased 0 := ⟨2,false,rfl,rfl⟩
 have opened : GateOpen lateEnabled.after 0 := ⟨_,rfl,rfl⟩
 have locks : Locks lateStored 0 :=
  ⟨sampleCaller,1, .writePhysical sampleWrite,true,rfl,rfl,rfl⟩
 have loud : ¬ Silent lateStored.trace := by
  simp [lateStored,sampleTrace,KernelCall.isWrite]
 refine ⟨⟨_,lateHistory_run⟩,completes,opened,locks,loud,fun revokes => ?_⟩
 exact (revokes 5 lateReleased 0 rfl completes 6 lateEnabled (by decide) rfl).1 opened

end KDbg.Driver
