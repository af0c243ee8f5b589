import KDbg.Driver
import KDbg.DriverWriteExits
import KDbg.RequestSlots
set_option autoImplicit false
/-! What one section of the driver can do to its file contexts and pending
requests. -/
namespace KDbg.Driver
open Interaction RequestSlots

section State
variable {s:Driver} {file other id j:ℕ} {next p:Pending} {slot:Option Pending}
 {context:FileContext} {value:Option FileContext}

@[simp] lemma context_advance : (s.advance id slot).context file=s.context file := rfl

lemma context_setContext (found:s.context file=some context) :
 (s.setContext file value).context other=if other=file then value else s.context other :=
 slot_set found

lemma context_append : ({ s with files := s.files++[value] } : Driver).context file =
 if file=s.files.length then value else s.context file :=
 slot_append

lemma request_enqueue : (s.enqueue next).request id =
 if id=s.pending.length then some next else s.request id :=
 slot_append

lemma request_advance (found:s.request id=some p) :
 (s.advance id slot).request j=if j=id then slot else s.request j :=
 slot_set found

lemma file_ne_of_not_isBusy (idle:s.isBusy file=false) (found:s.request id=some p) :
 p.file≠file := by
 simpa using of_any idle found

lemma not_closing_of_not_isClosing (open_:s.isClosing file=false)
 (found:s.request id=some p) (on:p.file=file) : p.isClosing=false := by
 simpa [on] using of_any open_ found

end State

inductive StepExit (highestUser:UInt64) (s:Driver) :
 Op→List KernelEvent→Option Completion→Driver→Prop where
 | idle {op:Op} (r:Option Completion) (quiet:∀ id,op=.resume id → s.request id=none) :
  StepExit highestUser s op [] r s
 | refused (caller:Caller) (allocated:Bool) (r:Option Completion) :
  StepExit highestUser s (.create caller) [⟨.allocatePool,allocated⟩] r
   { s with files := s.files++[none] }
 | created (caller:Caller) (owner:Ownership) (claimed:s.claim caller=some owner) :
  StepExit highestUser s (.create caller) [⟨.allocatePool,true⟩]
   (some { status := .success })
   { s with toOwnership := owner,files := s.files++[some { owner := caller }] }
 | checked (file:ℕ) (caller:Caller) (ioctl:Ioctl) (context:FileContext)
  (found:s.context file=some context) (kept:s.isClosing file=false) :
  StepExit highestUser s (.deviceControl file caller ioctl) [] none
   (s.enqueue (.control file caller ioctl (context.isController caller)))
 | cleaned (file:ℕ) (context:FileContext) (found:s.context file=some context)
  (clear:context.cleanedUp=false) (kept:s.isClosing file=false) :
  StepExit highestUser s (.cleanup file) [] none
   (exchangeCleanedUp file context (.revoke file false) s)
 | closed (file:ℕ) (context:FileContext) (found:s.context file=some context)
  (clear:context.cleanedUp=false) (alone:s.isBusy file=false) :
  StepExit highestUser s (.close file) [] none
   (exchangeCleanedUp file context (.revoke file true) s)
 | dropped (file:ℕ) (context:FileContext) (found:s.context file=some context)
  (set:context.cleanedUp=true) (alone:s.isBusy file=false) :
  StepExit highestUser s (.close file) [] none (s.enqueue (.free file))
 | denied (id file:ℕ) (caller:Caller) (ioctl:Ioctl)
  (waits:s.request id=some (.control file caller ioctl false))
  (read:ioctl.isWriteClass=false) :
  StepExit highestUser s (.resume id) [] (some { status := .accessDenied })
   (s.advance id none)
 | rejected (id file:ℕ) (caller:Caller) (ioctl:Ioctl) (context:FileContext)
  (waits:s.request id=some (.control file caller ioctl false))
  (found:s.context file=some context) (write:ioctl.isWriteClass=true)
  (statistics:Statistics) :
  StepExit highestUser s (.resume id) [] (some { status := .accessDenied })
   { (s.advance id none).setContext file (some { context with writeEnabled := false }) with
     statistics }
 | handled (id file:ℕ) (caller:Caller) (ioctl:Ioctl) (context:FileContext)
  (waits:s.request id=some (.control file caller ioctl true))
  (found:s.context file=some context) {t:List KernelEvent} {completion:Completion}
  {after:Section}
  (body:(ioctl.handle highestUser ⟨context.writeEnabled,s.statistics⟩).Exec t
   (completion,after)) :
  StepExit highestUser s (.resume id) t (some completion)
   { (s.advance id none).setContext file
    (some { context with writeEnabled := after.writeEnabled }) with
     statistics := after.statistics }
 | revoked (id file:ℕ) (closing:Bool) (context:FileContext)
  (waits:s.request id=some (.revoke file closing))
  (found:s.context file=some context) :
  StepExit highestUser s (.resume id) [] none
   ((s.advance id (some (.release file closing))).setContext file
    (some { context with writeEnabled := false }))
 | released (id file:ℕ) (closing:Bool) (waits:s.request id=some (.release file closing)) :
  StepExit highestUser s (.resume id) []
   (if closing then none else some { status := .success })
   (s.releaseOwner.advance id (if closing then some (.free file) else none))
 | freed (id file:ℕ) (context:FileContext) (waits:s.request id=some (.free file))
  (found:s.context file=some context) :
  StepExit highestUser s (.resume id) [] (some { status := .success })
   ((s.advance id none).setContext file none)

/-- Requests work on live contexts, a request that passed the controller check comes from the
 owner of its context, and a file object that is being closed has no other request. -/
structure Invariant (s : Driver) : Prop where
 attached : ∀ id next,s.request id=some next → ∃ context,s.context next.file=some context
 admitted : ∀ id file caller ioctl context,
  s.request id=some (.control file caller ioctl true) → s.context file=some context →
   context.owner=caller
 alone : ClosesAlone Pending.file Pending.isClosing s.pending

lemma invariant_init : Invariant {} :=
 ⟨by simp [request],by simp [request],by simp [ClosesAlone]⟩

variable {highestUser:UInt64} {t:List KernelEvent} {r:Option Completion}

section
variable {caller:Caller} {s s':Driver}

lemma dispatchCreate_exit (h:(dispatchCreate caller s).Exec t (r,s')) :
 StepExit highestUser s (.create caller) t r s' := by
 obtain ⟨allocated,u,rfl,hu⟩:=h.of_ask
 rcases hu.of_guard with ⟨-,rfl,same⟩|⟨allowed,opening⟩
 · cases same
   exact .refused caller allocated _
 split at opening
 · obtain ⟨rfl,rfl,rfl⟩:=opening.of_pure_prod
   exact .refused caller allocated _
 · rename_i owner claimed
   obtain ⟨rfl,rfl,rfl⟩:=opening.of_pure_prod
   cases allocated with
   | false => exact absurd rfl allowed
   | true => exact .created caller owner claimed

lemma dispatchDeviceControl_exit {file:ℕ} {ioctl:Ioctl} :
 StepExit highestUser s (.deviceControl file caller ioctl) []
  (dispatchDeviceControl file caller ioctl s).1
  (dispatchDeviceControl file caller ioctl s).2 := by
 refine onContext_cases (fun _ => .idle _ (by rintro _ ⟨⟩)) fun context kept found => ?_
 exact .checked file caller ioctl context found kept

lemma dispatchCleanup_exit {file:ℕ} :
 StepExit highestUser s (.cleanup file) [] (dispatchCleanup file s).1
  (dispatchCleanup file s).2 := by
 refine onContext_cases (fun _ => .idle _ (by rintro _ ⟨⟩)) fun context kept found => ?_
 cases clear:context.cleanedUp with
 | true => exact .idle _ (by rintro _ ⟨⟩)
 | false => exact .cleaned file context found clear kept

lemma dispatchClose_exit {file:ℕ} :
 StepExit highestUser s (.close file) [] (dispatchClose file s).1
  (dispatchClose file s).2 := by
 refine onContext_cases (fun _ => .idle _ (by rintro _ ⟨⟩)) fun context alone found => ?_
 cases flag:context.cleanedUp with
 | true => exact .dropped file context found flag alone
 | false => exact .closed file context found flag alone

lemma locked_exec {file:ℕ} {context:FileContext}
 {body:Section→KernelM (Completion×Section)}
 (h:(locked file context body s).Exec t (r,s')) :
 ∃ completion after,(body ⟨context.writeEnabled,s.statistics⟩).Exec t (completion,after) ∧
  r=some completion ∧
  s'={ s.setContext file (some { context with writeEnabled := after.writeEnabled }) with
   statistics := after.statistics } := by
 obtain ⟨u,⟨completion,after⟩,v,rfl,hu,hv⟩:=h.of_bind
 obtain ⟨rfl,rfl,rfl⟩:=hv.of_pure_prod
 rw [List.append_nil]
 exact ⟨completion,after,hu,rfl,rfl⟩

lemma resume_exit {id:ℕ} (inv:Invariant s) (h:(resume highestUser id s).Exec t (r,s')) :
 StepExit highestUser s (.resume id) t r s' := by
 unfold resume at h
 split at h
 · rename_i absent
   obtain ⟨rfl,rfl,rfl⟩:=h.of_pure_prod
   exact .idle _ (by rintro _ ⟨⟩;exact absent)
 · rename_i file caller ioctl admitted waits
   obtain ⟨context,found⟩:=inv.attached id _ waits
   have live:(s.advance id none).context file=some context:=found
   rw [control,live] at h
   dsimp only at h
   cases admitted with
   | true =>
    obtain ⟨_,_,body,rfl,rfl⟩:=locked_exec h
    exact .handled id file caller ioctl context waits found body
   | false =>
    split at h
    · rename_i on
      cases on
    · split at h
      · rename_i write
        obtain ⟨_,_,body,rfl,rfl⟩:=locked_exec h
        obtain ⟨rfl,rfl,rfl⟩:=body.of_pure_prod
        exact .rejected id file caller ioctl context waits found write _
      · rename_i read
        obtain ⟨rfl,rfl,rfl⟩:=h.of_pure_prod
        exact .denied id file caller ioctl waits (by simpa using read)
 · rename_i file closing waits
   obtain ⟨rfl,rfl,rfl⟩:=h.of_pure_prod
   obtain ⟨context,found⟩:=inv.attached id _ waits
   have live:(s.advance id (some (.release file closing))).context file=some context:=found
   rw [revokeGate,live]
   exact .revoked id file closing context waits found
 · rename_i file closing waits
   have exit:StepExit highestUser s _ _ _ _:=.released id file closing waits
   cases closing with
   | false | true =>
    obtain ⟨rfl,rfl,rfl⟩:=h.of_pure_prod
    exact exit
 · rename_i file waits
   obtain ⟨rfl,rfl,rfl⟩:=h.of_pure_prod
   obtain ⟨context,found⟩:=inv.attached id _ waits
   exact .freed id file context waits found

end

lemma step_exit (x:DriverStep) (valid:(machine highestUser).Valid x)
 (inv:Invariant x.before) : StepExit highestUser x.before x.op x.trace x.result x.after := by
 obtain ⟨op,s,t,r,s'⟩:=x
 change (exec highestUser op s).Exec t (r,s') at valid
 cases op with
 | create => exact dispatchCreate_exit valid
 | deviceControl =>
  obtain ⟨rfl,rfl,rfl⟩:=valid.of_pure_prod
  exact dispatchDeviceControl_exit
 | cleanup =>
  obtain ⟨rfl,rfl,rfl⟩:=valid.of_pure_prod
  exact dispatchCleanup_exit
 | close =>
  obtain ⟨rfl,rfl,rfl⟩:=valid.of_pure_prod
  exact dispatchClose_exit
 | resume => exact resume_exit inv valid

section Preservation
variable {s:Driver} {file id:ℕ} {next:Pending} {context:FileContext}

/-- The invariant reads nothing but the requests and, for each file object, the owner of its
 context. -/
lemma Invariant.of_same (inv:Invariant s) {s':Driver}
 (requests:∀j,s'.request j=s.request j)
 (contexts:∀f c,s.context f=some c → ∃ c',s'.context f=some c' ∧ c'.owner=c.owner) :
 Invariant s' := by
 refine ⟨fun j p held => ?_,fun j f caller ioctl _ held found' => ?_,
  fun j p k q held closing held' on => ?_⟩
 · rw [requests] at held
   obtain ⟨c,found⟩:=inv.attached j p held
   obtain ⟨c',found',-⟩:=contexts _ c found
   exact ⟨c',found'⟩
 · rw [requests] at held
   obtain ⟨c,found⟩:=inv.attached j _ held
   obtain ⟨_,found'',owner⟩:=contexts _ c found
   cases found'.symm.trans found''
   rw [owner]
   exact inv.admitted j f caller ioctl c held found
 · exact inv.alone j p k q ((requests j).symm.trans held) closing
    ((requests k).symm.trans held') on

lemma Invariant.setContext (inv:Invariant s) (found:s.context file=some context)
 (context':FileContext) (owner:context'.owner=context.owner) :
 Invariant (s.setContext file (some context')) := by
 refine inv.of_same (fun j=>rfl) fun f c held => ?_
 rw [context_setContext found]
 by_cases same:f=file
 · subst same
   cases held.symm.trans found
   exact ⟨context',if_pos rfl,owner⟩
 · exact ⟨c,by rw [if_neg same,held],rfl⟩

lemma Invariant.enqueue (inv:Invariant s) (next:Pending)
 (found:s.context next.file=some context)
 (admitted:∀caller ioctl,next=.control next.file caller ioctl true →
  context.owner=caller)
 (alone:∀j p,s.request j=some p → p.file=next.file →
  p.isClosing=false ∧ next.isClosing=false) : Invariant (s.enqueue next) := by
 refine ⟨fun j p held => ?_,fun j f caller ioctl c held found' => ?_,inv.alone.append alone⟩
 · rcases append_cases held with ⟨-,rfl⟩|held
   · exact ⟨context,found⟩
   · exact inv.attached j p held
 · rcases append_cases held with ⟨-,rfl⟩|held
   · cases found.symm.trans found'
     exact admitted caller ioctl rfl
   · exact inv.admitted j f caller ioctl c held found'

lemma Invariant.advance (inv:Invariant s) (waits:s.request id=some next)
 (slot:Option Pending)
 (same:∀p,slot=some p → p.file=next.file ∧ p.isClosing=next.isClosing ∧
  ∀file caller ioctl admitted,p≠.control file caller ioctl admitted) :
 Invariant (s.advance id slot) := by
 refine ⟨fun j p held => ?_,fun j f caller ioctl c held found' => ?_,
  inv.alone.set waits fun p held=>⟨(same p held).1,(same p held).2.1⟩⟩
 · rcases set_cases waits held with ⟨-,held⟩|⟨-,held⟩
   · rw [(same p held).1]
     exact inv.attached id next waits
   · exact inv.attached j p held
 · rcases set_cases waits held with ⟨-,held⟩|⟨-,held⟩
   · exact absurd rfl ((same _ held).2.2 _ _ _ _)
   · exact inv.admitted j f caller ioctl c held found'

lemma Invariant.exchangeCleanedUp (inv:Invariant s) (found:s.context file=some context)
 (closing:Bool) (alone:∀j p,s.request j=some p → p.file=file →
  p.isClosing=false ∧ closing=false) :
 Invariant (exchangeCleanedUp file context (.revoke file closing) s) := by
 refine (inv.setContext found { context with cleanedUp := true } rfl).enqueue _
  ((context_setContext found).trans (if_pos rfl)) ?_ alone
 rintro _ _ ⟨⟩

lemma Invariant.free (inv:Invariant s) (waits:s.request id=some next)
 (closing:next.isClosing=true) :
 Invariant ((s.advance id none).setContext next.file none) := by
 have rest:=inv.advance waits none (by rintro p ⟨⟩)
 obtain ⟨_,found⟩:=inv.attached id next waits
 have elsewhere {j:ℕ} {p:Pending} (held:(s.advance id none).request j=some p) :
  p.file≠next.file := by
  intro on
  rcases set_cases waits held with ⟨-,gone⟩|⟨differs,held⟩
  · cases gone
  · exact differs (inv.alone id next j p waits closing held on)
 have kept {j:ℕ} {p:Pending} (held:(s.advance id none).request j=some p) :
  ((s.advance id none).setContext next.file none).context p.file=s.context p.file := by
  rw [context_setContext (s := s.advance id none) found,if_neg (elsewhere held),
   context_advance]
 refine ⟨fun j p held => ?_,fun j f caller ioctl c held live => ?_,rest.alone⟩
 · obtain ⟨c,live⟩:=rest.attached j p held
   exact ⟨c,(kept held).trans live⟩
 · exact rest.admitted j f caller ioctl c held ((kept held).symm.trans live)

end Preservation

lemma isController_owner {context:FileContext} {caller:Caller}
 (h:context.isController caller=true) : context.owner=caller := by
 simp only [FileContext.isController,Bool.and_eq_true,beq_iff_eq] at h
 obtain ⟨_,_⟩:=caller
 obtain ⟨⟨-,rfl⟩,rfl⟩:=h
 rfl

lemma context_kept {s:Driver} {slot:Option FileContext} {file:ℕ} {context:FileContext}
 (found:s.context file=some context) :
 ({ s with files := s.files++[slot] } : Driver).context file=some context := by
 rw [context_append,if_neg,found]
 rintro rfl
 simp [Driver.context] at found

lemma StepExit.invariant {s s':Driver} {op:Op} (h:StepExit highestUser s op t r s')
 (inv:Invariant s) : Invariant s' := by
 cases h with
 | idle => exact inv
 | refused | created =>
  exact inv.of_same (fun j=>rfl) fun f c held=>⟨c,context_kept held,rfl⟩
 | checked _ _ _ _ found kept =>
  refine inv.enqueue _ found (fun _ _ same => ?_) fun j p held on => ?_
  · obtain ⟨-,rfl,-,on⟩:=Pending.control.inj same
    exact isController_owner on
  · exact ⟨not_closing_of_not_isClosing kept held on,rfl⟩
 | cleaned _ _ found _ kept =>
  exact inv.exchangeCleanedUp found false fun j p held on =>
   ⟨not_closing_of_not_isClosing kept held on,rfl⟩
 | closed _ _ found _ alone =>
  exact inv.exchangeCleanedUp found true fun j p held on =>
   absurd on (file_ne_of_not_isBusy alone held)
 | dropped _ _ found _ alone =>
  exact inv.enqueue _ found (by rintro _ _ ⟨⟩) fun j p held on =>
   absurd on (file_ne_of_not_isBusy alone held)
 | denied _ _ _ _ waits =>
  exact inv.advance waits none (by rintro p ⟨⟩)
 | rejected _ _ _ _ context waits found =>
  have rest:=(inv.advance waits none (by rintro p ⟨⟩)).setContext found
   { context with writeEnabled := false } rfl
  exact rest.of_same (fun j=>rfl) fun f c held=>⟨c,held,rfl⟩
 | @handled _ _ _ _ context waits found t _ after _ =>
  have rest:=(inv.advance waits none (by rintro p ⟨⟩)).setContext found
   { context with writeEnabled := after.writeEnabled } rfl
  exact rest.of_same (fun j=>rfl) fun f c held=>⟨c,held,rfl⟩
 | revoked _ _ _ _ waits found =>
  refine Invariant.setContext (inv.advance waits _ ?_) found _ rfl
  rintro p ⟨⟩
  exact ⟨rfl,rfl,by rintro _ _ _ _ ⟨⟩⟩
 | released id file closing waits =>
  have rest:Invariant (s.advance id (if closing then some (.free file) else none)):=by
   refine inv.advance waits _ fun p held => ?_
   split at held
   · rename_i on
     cases held
     exact ⟨rfl,on.symm,by rintro _ _ _ _ ⟨⟩⟩
   · cases held
  exact rest.of_same (fun j=>rfl) fun f c held=>⟨c,held,rfl⟩
 | freed _ _ _ waits => exact inv.free waits rfl

lemma run_invariant {h:List DriverStep} {s:Driver} (run:(machine highestUser).Run h s) :
 Invariant s :=
 run.invariant Invariant invariant_init fun x valid inv=>(step_exit x valid inv).invariant inv

end KDbg.Driver
