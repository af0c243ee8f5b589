import KDbg.DeviceOwnership
import KDbg.DriverSteps
set_option autoImplicit false
/-! The controlling process of the driver, in every run. -/
namespace KDbg
open Interaction ExclusiveOwner RequestSlots

namespace Driver

/-- The handle that a request is cleaning up, and whether it has lowered the count. -/
def Pending.cleaning : Pending→Option (ℕ×Bool)
 | .control _ _ _ _ => none
 | .revoke file _ | .release file _ => some (file,false)
 | .free file => some (file,true)

def FileContext.view (context : FileContext) : Caller×Bool := (context.owner,context.cleanedUp)

def desk (s : Driver) : Desk Caller :=
 deskOf FileContext.view Pending.cleaning s.files s.pending s.toOwnership

def moveOf (s : Driver) (op : Op) (s' : Driver) : Move Caller :=
 match op with
 | .create caller =>
  if (s'.context s.files.length).isSome then .grant s.files.length caller else .quiet
 | .resume id =>
  match s.request id with
  | some (.release file _) => .subtract file
  | _ => .quiet
 | _ => .quiet

def move (x : DriverStep) : Move Caller := moveOf x.before x.op x.after

def Genuine (x : DriverStep) : Prop :=
 ∀ caller,x.op=.create caller→Admissible FileContext.owner x.before.files caller

section State
variable {s:Driver} {file id:ℕ} {next:Pending} {context:FileContext}

lemma desk_contexts (found:s.context file=some context) :
 s.desk.contexts file=some (context.owner,context.cleanedUp) :=
 congrArg (Option.map FileContext.view) found

lemma desk_cleaning (waits:s.request id=some next) : s.desk.cleaning id=next.cleaning :=
 congrArg (Option.bind · Pending.cleaning) waits

/-- A section under the `WriteLock` changes the gate of a context and the statistics. -/
lemma desk_locked (waits:s.request id=some next) (found:s.context file=some context)
 {slot:Option Pending} (same:slot.bind Pending.cleaning=next.cleaning) (gate:Bool)
 (statistics:Statistics) :
 ({ (s.advance id slot).setContext file (some { context with writeEnabled := gate }) with
  statistics } : Driver).desk=s.desk := by
 refine Eq.trans ?_ (deskOf_advance_same _ _ waits same)
 refine (deskOf_setContext _ _ found _).trans (Desk.ext ?_ rfl rfl rfl rfl)
 have here : (some { context with writeEnabled := gate }).map FileContext.view =
  s.desk.contexts file := (desk_contexts found).symm
 rw [here]
 exact Function.update_eq_self _ _

end State

section Steps
variable {highestUser:UInt64} {s s':Driver} {op:Op} {t:List KernelEvent}
 {r:Option Completion}

lemma StepExit.desk_step (h:StepExit highestUser s op t r s') (inv:Invariant s)
 {created:List (ℕ×Caller)} {subtracted:List ℕ}
 (ledger:Ledger created subtracted s.desk) (genuine:Genuine ⟨op,s,t,r,s'⟩) :
 s.desk.Step (moveOf s op s') s'.desk := by
 cases h with
 | idle _ quiet =>
  have still:moveOf s op s=.quiet:=by
   cases op with
   | create => simp [moveOf,Driver.context]
   | resume id => simp [moveOf,quiet id rfl]
   | deviceControl | cleanup | close => rfl
  rw [still]
  exact .quiet
 | refused =>
  simp only [moveOf,context_append,if_pos]
  exact refuse_step _ _
 | created caller owner claimed =>
  have admitted : moveOf s (.create caller) { s with
   toOwnership := owner,files := s.files++[some { owner := caller }] } =
    .grant s.files.length caller :=
   if_pos (congrArg Option.isSome (slot_append.trans (if_pos rfl)))
  rw [admitted]
  exact grant_step _ _ ledger (genuine caller rfl) claimed rfl
 | checked => exact plain_step _ _ rfl
 | cleaned _ context found clear | closed _ context found clear =>
  exact flag_step _ _ found (congrArg (Prod.mk context.owner) clear) rfl rfl
 | dropped _ context found set =>
  exact drop_step _ _ found (congrArg (Prod.mk context.owner) set) rfl
 | denied _ _ _ _ waits =>
  have same:(s.advance _ none).desk=s.desk:=deskOf_advance_same _ _ waits rfl
  rw [same]
  simp only [moveOf,waits]
  exact .quiet
 | rejected _ _ _ _ _ waits found | @handled _ _ _ _ _ waits found t _ _ _ =>
  rw [desk_locked waits found rfl]
  simp only [moveOf,waits]
  exact .quiet
 | revoked id file closing context waits found =>
  have same : ((s.advance id (some (.release file closing))).setContext file
   (some { context with writeEnabled := false })).desk=s.desk :=
   desk_locked waits found rfl false s.statistics
  rw [same]
  simp only [moveOf,waits]
  exact .quiet
 | released _ _ closing waits =>
  simp only [moveOf,waits]
  exact subtract_step _ _ ledger closing waits rfl (by cases closing <;> rfl)
 | freed id file _ waits found =>
  simp only [moveOf,waits]
  refine free_step _ _ found waits rfl fun id' next p held part on => ?_
  refine inv.alone id (.free file) id' next waits rfl held ?_
  cases next with
  | control => cases part
  | revoke | release | free =>
   cases part
   exact on

lemma step_ledger {x:DriverStep} (inv:Invariant x.before)
 {created:List (ℕ×Caller)} {subtracted:List ℕ}
 (ledger:Ledger created subtracted x.before.desk)
 (valid:(machine highestUser).Valid x) (genuine:Genuine x) :
 Ledger (created++(move x).created) (subtracted++(move x).subtracted) x.after.desk :=
 ledger.step ((step_exit x valid inv).desk_step inv ledger genuine)

end Steps

section
variable {highestUser:UInt64} {h:List DriverStep} {s:Driver}

def creations (h : List DriverStep) : List (ℕ×Caller) := h.flatMap fun x=>(move x).created

def subtractions (h : List DriverStep) : List ℕ := h.flatMap fun x=>(move x).subtracted

lemma run_ledger (run:(machine highestUser).Run h s) (genuine:∀x∈h,Genuine x) :
 Ledger (creations h) (subtractions h) s.desk := by
 refine run.history_invariant (fun h s=>(∀x∈h,Genuine x) →
  Ledger (creations h) (subtractions h) s.desk) ?_ ?_ genuine
 · intro _
   exact .start
 · intro _ x before valid ledger genuine
   have earlier:=ledger fun y mem=>genuine y (List.mem_append_left _ mem)
   have next:=step_ledger (run_invariant before) earlier valid
    (genuine x (List.mem_append_right _ List.mem_cons_self))
   simpa only [creations,subtractions,List.flatMap_append,List.flatMap_singleton] using next

/-- A cleanup of the file object has set its flag and has not yet lowered the count. -/
def isCleaning (s : Driver) (file : ℕ) : Prop :=
 ∃ id closing,s.request id=some (.revoke file closing) ∨
  s.request id=some (.release file closing)

def passesCheck (s : Driver) (file : ℕ) (caller : Caller) : Prop :=
 ∃ context,s.context file=some context ∧ context.isController caller=true

lemma run_singleController (run:(machine highestUser).Run h s) (genuine:∀x∈h,Genuine x) :
 SingleController (creations h) (subtractions h) s.passesCheck s.isCleaning s.toOwnership := by
 refine .of_ledger _ _ (run_ledger run genuine) ?_ ?_
 · intro _ _
   constructor
   · rintro ⟨_,found,controls⟩
     have owner:=isController_owner controls
     simp only [FileContext.isController,Bool.and_eq_true,Bool.not_eq_true'] at controls
     rw [←controls.1.1,←owner]
     exact desk_contexts found
   · intro held
     obtain ⟨context,found,same⟩:=Option.map_eq_some_iff.1 held
     obtain ⟨owner,clear⟩:=Prod.mk.inj same
     exact ⟨context,found,by simp [FileContext.isController,owner,clear]⟩
 · intro _
   constructor
   · rintro ⟨id,_,waits | waits⟩
     · exact ⟨id,desk_cleaning waits⟩
     · exact ⟨id,desk_cleaning waits⟩
   · rintro ⟨id,cleaning⟩
     obtain ⟨next,waits,same⟩:=Option.bind_eq_some_iff.1 cleaning
     cases next with
     | control | free => cases same
     | revoke _ closing =>
      cases same
      exact ⟨id,closing, .inl waits⟩
     | release _ closing =>
      cases same
      exact ⟨id,closing, .inr waits⟩

end

end Driver
end KDbg
