import KDbg.DriverRevocation
import KDbg.ProbeDriver
set_option autoImplicit false
/-! The controlling process of the probe driver, and both drivers together. -/
namespace KDbg
open Interaction ExclusiveOwner RequestSlots
open Driver (Caller SingleController Admissible)

namespace ProbeDriver

inductive StepExit (s:ProbeDriver) : Op→ProbeDriver→Prop where
 | idle {op:Op} (quiet:∀ id,op=.resume id → s.request id=none) : StepExit s op s
 | refused (caller:Caller) : StepExit s (.create caller) { s with files := s.files++[none] }
 | created (caller:Caller) (owner:Ownership) (claimed:s.claim caller=some owner) :
  StepExit s (.create caller)
   { s with toOwnership := owner,files := s.files++[some { owner := caller }] }
 | checked (file:ℕ) (caller:Caller) (ioctl:Ioctl) (kept:s.isClosing file=false) :
  StepExit s (.deviceControl file caller ioctl) (s.enqueue (.control file ioctl))
 | cleaned (file:ℕ) (context:FileContext) (found:s.context file=some context)
  (clear:context.cleanedUp=false) (kept:s.isClosing file=false) :
  StepExit s (.cleanup file) (exchangeCleanedUp file context false s)
 | closed (file:ℕ) (context:FileContext) (found:s.context file=some context)
  (clear:context.cleanedUp=false) (alone:s.isBusy file=false) :
  StepExit s (.close file) (exchangeCleanedUp file context true s)
 | dropped (file:ℕ) (context:FileContext) (found:s.context file=some context)
  (set:context.cleanedUp=true) (alone:s.isBusy file=false) :
  StepExit s (.close file) (s.enqueue (.free file))
 | handled (id file:ℕ) (ioctl:Ioctl) (waits:s.request id=some (.control file ioctl))
  (buffer:Page) (generation:UInt32) :
  StepExit s (.resume id) ({ s with buffer,generation }.advance id none)
 | released (id file:ℕ) (closing:Bool) (waits:s.request id=some (.release file closing)) :
  StepExit s (.resume id)
   (s.releaseOwner.advance id (if closing then some (.free file) else none))
 | freed (id file:ℕ) (waits:s.request id=some (.free file)) :
  StepExit s (.resume id) ((s.advance id none).setContext file none)

lemma handle_buffer (ioctl:Ioctl) (s:ProbeDriver) :
 ∃ buffer generation,(handle ioctl s).2={ s with buffer,generation } := by
 cases ioctl with
 | getInfo | other => exact ⟨s.buffer,s.generation,rfl⟩
 | control =>
  have same : ∃ buffer generation,s={ s with buffer,generation } :=
   ⟨s.buffer,s.generation,rfl⟩
  simp only [handle,control]
  split
  · exact same
  · repeat' split
    all_goals first
     | exact same
     | exact ⟨_,_,rfl⟩

lemma dispatchCreate_exit {caller:Caller} {s s':ProbeDriver} {t:List KernelEvent}
 {r:Option Completion} (h:(dispatchCreate caller s).Exec t (r,s')) :
 StepExit s (.create caller) s' := by
 obtain ⟨_,u,-,h⟩:=h.of_ask
 rcases h.of_guard with ⟨-,-,same⟩|⟨-,h⟩
 · cases same
   exact .refused caller
 split at h
 · obtain ⟨-,-,rfl⟩:=h.of_pure_prod
   exact .refused caller
 · rename_i owner claimed
   obtain ⟨-,-,rfl⟩:=h.of_pure_prod
   exact .created caller owner claimed

lemma dispatchDeviceControl_exit {file:ℕ} {caller:Caller} {ioctl:Ioctl}
 {s:ProbeDriver} : StepExit s (.deviceControl file caller ioctl)
  (dispatchDeviceControl file caller ioctl s).2 := by
 refine onContext_cases (P := fun _ => StepExit s _) (fun _ => .idle (by rintro _ ⟨⟩))
  fun _ kept _ => ?_
 split
 · exact .idle (by rintro _ ⟨⟩)
 · exact .checked file caller ioctl kept

lemma dispatchCleanup_exit {file:ℕ} {s:ProbeDriver} :
 StepExit s (.cleanup file) (dispatchCleanup file s).2 := by
 refine onContext_cases (P := fun _ => StepExit s _) (fun _ => .idle (by rintro _ ⟨⟩))
  fun context kept found => ?_
 cases clear:context.cleanedUp with
 | true => exact .idle (by rintro _ ⟨⟩)
 | false => exact .cleaned file context found clear kept

lemma dispatchClose_exit {file:ℕ} {s:ProbeDriver} :
 StepExit s (.close file) (dispatchClose file s).2 := by
 refine onContext_cases (P := fun _ => StepExit s _) (fun _ => .idle (by rintro _ ⟨⟩))
  fun context alone found => ?_
 cases flag:context.cleanedUp with
 | true => exact .dropped file context found flag alone
 | false => exact .closed file context found flag alone

lemma resume_exit {id:ℕ} {s:ProbeDriver} : StepExit s (.resume id) (resume id s).2 := by
 unfold resume
 split
 · rename_i none
   refine .idle ?_
   rintro _ ⟨⟩
   exact none
 · rename_i file ioctl waits
   obtain ⟨buffer,generation,same⟩:=handle_buffer ioctl s
   dsimp only
   rw [same]
   exact .handled id file ioctl waits buffer generation
 · rename_i file closing waits
   have released:=StepExit.released id file closing waits
   cases closing <;> exact released
 · rename_i file waits
   exact .freed id file waits

lemma step_exit {page:Page} {virtualAddress physicalAddress:UInt64} {x:ProbeStep}
 (valid:(machine page virtualAddress physicalAddress).Valid x) :
 StepExit x.before x.op x.after := by
 obtain ⟨op,s,t,r,s'⟩:=x
 change (exec op s).Exec t (r,s') at valid
 cases op with
 | create => exact dispatchCreate_exit valid
 | deviceControl =>
  obtain ⟨-,-,rfl⟩:=valid.of_pure_prod
  exact dispatchDeviceControl_exit
 | cleanup =>
  obtain ⟨-,-,rfl⟩:=valid.of_pure_prod
  exact dispatchCleanup_exit
 | close =>
  obtain ⟨-,-,rfl⟩:=valid.of_pure_prod
  exact dispatchClose_exit
 | resume =>
  obtain ⟨-,-,rfl⟩:=valid.of_pure_prod
  exact resume_exit

section State
variable {s s':ProbeDriver} {op:Op}

def ClosesAlone (s : ProbeDriver) : Prop :=
 RequestSlots.ClosesAlone Pending.file Pending.isClosing s.pending

lemma StepExit.closesAlone (h:StepExit s op s') (alone:ClosesAlone s) : ClosesAlone s' := by
 cases h with
 | idle | refused | created => exact alone
 | checked _ _ _ kept | cleaned _ _ _ _ kept => exact alone.of_kept kept rfl
 | closed _ _ _ _ idle | dropped _ _ _ _ idle => exact alone.of_idle idle
 | handled _ _ _ waits | freed _ _ waits => exact alone.set waits (by rintro p ⟨⟩)
 | released _ _ closing waits =>
  refine alone.set waits fun p held => ?_
  cases closing with
  | false => cases held
  | true =>
   cases held
   exact ⟨rfl,rfl⟩

end State

def Pending.cleaning : Pending→Option (ℕ×Bool)
 | .control _ _ => none
 | .release file _ => some (file,false)
 | .free file => some (file,true)

def FileContext.view (context : FileContext) : Caller×Bool := (context.owner,context.cleanedUp)

def desk (s : ProbeDriver) : Desk Caller :=
 Driver.deskOf FileContext.view Pending.cleaning s.files s.pending s.toOwnership

def moveOf (s : ProbeDriver) (op : Op) (s' : ProbeDriver) : Move Caller :=
 match op with
 | .create caller =>
  if (s'.context s.files.length).isSome then .grant s.files.length caller else .quiet
 | .resume id =>
  match s.request id with
  | some (.release file _) => .subtract file
  | _ => .quiet
 | _ => .quiet

def move (x : ProbeStep) : Move Caller := moveOf x.before x.op x.after

def Genuine (x : ProbeStep) : Prop :=
 ∀ caller,x.op=.create caller→Admissible FileContext.owner x.before.files caller

section Steps
variable {s s':ProbeDriver} {op:Op} {created:List (ℕ×Caller)} {subtracted:List ℕ}

lemma StepExit.desk_step (h:StepExit s op s') (alone:ClosesAlone s)
 (ledger:Ledger created subtracted s.desk)
 (genuine:∀caller,op=.create caller→Admissible FileContext.owner s.files caller) :
 s.desk.Step (moveOf s op s') s'.desk := by
 cases h with
 | idle quiet =>
  have still:moveOf s op s=.quiet:=by
   cases op with
   | create => simp [moveOf,ProbeDriver.context]
   | resume id => simp [moveOf,quiet id rfl]
   | deviceControl | cleanup | close => rfl
  rw [still]
  exact .quiet
 | refused caller =>
  have quiet : moveOf s (.create caller) { s with files := s.files++[none] }=.quiet :=
   if_neg (by simp [ProbeDriver.context])
  rw [quiet]
  exact Driver.refuse_step _ _
 | created caller owner claimed =>
  have admitted : moveOf s (.create caller) { s with
   toOwnership := owner,files := s.files++[some { owner := caller }] } =
    .grant s.files.length caller :=
   if_pos (congrArg Option.isSome (slot_append.trans (if_pos rfl)))
  rw [admitted]
  exact Driver.grant_step _ _ ledger (genuine caller rfl) claimed rfl
 | checked => exact Driver.plain_step _ _ rfl
 | cleaned _ context found clear | closed _ context found clear =>
  exact Driver.flag_step _ _ found (congrArg (Prod.mk context.owner) clear) rfl rfl
 | dropped _ context found set =>
  exact Driver.drop_step _ _ found (congrArg (Prod.mk context.owner) set) rfl
 | handled id _ _ waits buffer generation =>
  have after : ({ s with buffer,generation }.advance id none).desk=s.desk :=
   Driver.deskOf_advance_same _ _ waits rfl
  rw [after]
  simp only [moveOf,waits]
  exact .quiet
 | released _ _ closing waits =>
  simp only [moveOf,waits]
  exact Driver.subtract_step _ _ ledger closing waits rfl (by cases closing <;> rfl)
 | freed id file waits =>
  obtain ⟨_,held⟩ :=
   ledger.flagged id file true (congrArg (Option.bind · Pending.cleaning) waits)
  obtain ⟨_,found,-⟩:=Option.map_eq_some_iff.1 held
  simp only [moveOf,waits]
  refine Driver.free_step _ _ found waits rfl fun id' next p held part on => ?_
  refine alone id (.free file) id' next waits rfl held ?_
  cases next with
  | control => cases part
  | release | free =>
   cases part
   exact on

end Steps

def creations (h : List ProbeStep) : List (ℕ×Caller) := h.flatMap fun x=>(move x).created

def subtractions (h : List ProbeStep) : List ℕ := h.flatMap fun x=>(move x).subtracted

section Runs
variable {page:Page} {virtualAddress physicalAddress:UInt64} {h:List ProbeStep}
 {s:ProbeDriver}

lemma run_closesAlone (run:(machine page virtualAddress physicalAddress).Run h s) :
 ClosesAlone s := by
 refine run.invariant ClosesAlone ?_ fun x valid alone=>(step_exit valid).closesAlone alone
 intro _ _ _ _ held
 simp [machine,start,resetPattern] at held

lemma run_ledger (run:(machine page virtualAddress physicalAddress).Run h s)
 (genuine:∀x∈h,Genuine x) : Ledger (creations h) (subtractions h) s.desk := by
 refine run.history_invariant (fun h s=>(∀x∈h,Genuine x) →
  Ledger (creations h) (subtractions h) s.desk) ?_ ?_ genuine
 · intro _
   exact .start
 · intro _ x before valid ledger genuine
   have earlier:=ledger fun y mem=>genuine y (List.mem_append_left _ mem)
   have step : x.before.desk.Step (move x) x.after.desk :=
    (step_exit valid).desk_step (run_closesAlone before) earlier
     (genuine x (List.mem_append_right _ List.mem_cons_self))
   have next:=earlier.step step
   simpa only [creations,subtractions,List.flatMap_append,List.flatMap_singleton] using next

end Runs

def isCleaning (s : ProbeDriver) (file : ℕ) : Prop :=
 ∃ id closing,s.request id=some (.release file closing)

def passesCheck (s : ProbeDriver) (file : ℕ) (caller : Caller) : Prop :=
 ∃ context,s.context file=some context ∧ context.isController caller=true

lemma run_singleController {page:Page} {virtualAddress physicalAddress:UInt64}
 {h:List ProbeStep} {s:ProbeDriver}
 (run:(machine page virtualAddress physicalAddress).Run h s)
 (genuine:∀x∈h,Genuine x) :
 SingleController (creations h) (subtractions h) s.passesCheck s.isCleaning s.toOwnership := by
 refine .of_ledger _ _ (run_ledger run genuine) ?_ ?_
 · intro file caller
   constructor
   · rintro ⟨context,found,controls⟩
     simp only [FileContext.isController,Bool.and_eq_true,Bool.not_eq_true',beq_iff_eq]
      at controls
     obtain ⟨⟨clear,process⟩,pid⟩:=controls
     have owner:context.owner=caller:=by
      obtain ⟨_,_⟩:=caller
      cases process
      cases pid
      rfl
     rw [←owner,←clear]
     exact congrArg (Option.map FileContext.view) found
   · intro held
     obtain ⟨context,found,same⟩:=Option.map_eq_some_iff.1 held
     obtain ⟨owner,clear⟩:=Prod.mk.inj same
     exact ⟨context,found,by simp [FileContext.isController,owner,clear]⟩
 · intro _
   constructor
   · rintro ⟨id,_,waits⟩
     exact ⟨id,congrArg (Option.bind · Pending.cleaning) waits⟩
   · rintro ⟨id,cleaning⟩
     obtain ⟨next,waits,same⟩:=Option.bind_eq_some_iff.1 cleaning
     cases next with
     | control | free => cases same
     | release _ closing =>
      cases same
      exact ⟨id,closing,waits⟩

end ProbeDriver

/-- Both drivers have one controlling process in every run. -/
theorem one_controlling_process :
 (∀ (highestUser : UInt64) (h : List DriverStep) (s : Driver),
  (Driver.machine highestUser).Run h s→(∀ x∈h,Driver.Genuine x) →
   SingleController (Driver.creations h) (Driver.subtractions h) s.passesCheck s.isCleaning
    s.toOwnership) ∧
 (∀ (page : Page) (virtualAddress physicalAddress : UInt64) (h : List ProbeStep)
  (s : ProbeDriver),
  (ProbeDriver.machine page virtualAddress physicalAddress).Run h s →
   (∀ x∈h,ProbeDriver.Genuine x) →
   SingleController (ProbeDriver.creations h) (ProbeDriver.subtractions h) s.passesCheck
    s.isCleaning s.toOwnership) :=
 ⟨fun _ _ _ run genuine=>Driver.run_singleController run genuine,
  fun _ _ _ _ _ run genuine=>ProbeDriver.run_singleController run genuine⟩

/-! A process opens the probe and its cleanup is under way when another process tries. -/
namespace ProbeDriver

def sampleProbe : ProbeDriver := start zeroPage 0xFFFF800000001000 0x5000

def firstCaller : Caller := ⟨0x10,4⟩
def secondCaller : Caller := ⟨0x20,8⟩

def probeOpened : ProbeStep :=
 ⟨.create firstCaller,sampleProbe,[⟨.allocatePool,true⟩],some { status := .success },
  { sampleProbe with
    toOwnership := ⟨0x10,4,1⟩
    files := [some { owner := firstCaller }] }⟩

def probeFlagged : ProbeStep :=
 ⟨.cleanup 0,probeOpened.after,[],none,
  { probeOpened.after with
    files := [some { cleanedUp := true,owner := firstCaller }]
    pending := [some (.release 0 false)] }⟩

def probeRefused : ProbeStep :=
 ⟨.create secondCaller,probeFlagged.after,[⟨.allocatePool,true⟩],
  some { status := .sharingViolation },
  { probeFlagged.after with
    files := [some { cleanedUp := true,owner := firstCaller },none] }⟩

def probeHistory : List ProbeStep := [probeOpened,probeFlagged,probeRefused]

abbrev sampleMachine : Machine KernelCall KernelAnswer Op ProbeDriver (Option Completion) :=
 machine zeroPage 0xFFFF800000001000 0x5000

lemma probeOpened_valid : sampleMachine.Valid probeOpened := .call _ (.ret _)

lemma probeRefused_valid : sampleMachine.Valid probeRefused := .call _ (.ret _)

lemma probeHistory_run : sampleMachine.Run probeHistory probeRefused.after :=
 ((Machine.Run.nil.snoc probeOpened rfl probeOpened_valid).snoc probeFlagged rfl (.ret _)).snoc
  probeRefused rfl probeRefused_valid

lemma probeHistory_genuine : ∀x∈probeHistory,Genuine x := by
 simp only [probeHistory,List.forall_mem_cons]
 refine ⟨?_,?_,?_,by simp⟩
 · rintro _ ⟨⟩
   refine ⟨by decide,fun _ _ found => ?_,by decide⟩
   simp [probeOpened,sampleProbe,start,resetPattern] at found
 · rintro _ ⟨⟩
 · rintro _ ⟨⟩
   refine ⟨by decide,fun file _ found same => ?_,by decide⟩
   cases file with
   | zero =>
    cases found
    exact absurd same (by decide)
   | succ => simp [probeRefused,probeFlagged] at found

end ProbeDriver

lemma timelyHistory_genuine : ∀x∈Driver.timelyHistory,Driver.Genuine x := by
 intro x mem _ created
 have first:x=Driver.sampleCreated:=by
  simp only [Driver.timelyHistory,List.mem_cons,List.not_mem_nil,or_false] at mem
  rcases mem with rfl|rfl|rfl|rfl|rfl|rfl|rfl|rfl
  · rfl
  all_goals cases created
 subst first
 cases created
 refine ⟨by decide,fun _ _ found => ?_,by decide⟩
 simp [Driver.sampleCreated] at found

theorem sampleHistories_one_controller :
 SingleController (Driver.creations Driver.timelyHistory)
  (Driver.subtractions Driver.timelyHistory) Driver.timelyRefused.after.passesCheck
  Driver.timelyRefused.after.isCleaning {} ∧
  SingleController (ProbeDriver.creations ProbeDriver.probeHistory)
   (ProbeDriver.subtractions ProbeDriver.probeHistory)
   ProbeDriver.probeRefused.after.passesCheck ProbeDriver.probeRefused.after.isCleaning
   ⟨0x10,4,1⟩ :=
 ⟨one_controlling_process.1 _ _ _ Driver.timelyHistory_run timelyHistory_genuine,
  one_controlling_process.2 _ _ _ _ _ ProbeDriver.probeHistory_run
   ProbeDriver.probeHistory_genuine⟩

end KDbg
