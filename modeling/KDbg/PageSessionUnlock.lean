import KDbg.PageSessionRollbackPair
set_option autoImplicit false
/-!
Every compare/write consumes an unlock of its own: the unlocked flag stands for
the last unlock, and nothing that unlock covered has changed since.
-/
namespace KDbg.PageSession
open Interaction

/-- The two transactions a session can have in flight, with the pages they name. -/
inductive Transaction (s:PageSession) (target:PhysicalWriteTarget) :
 Op→Page→Page→Prop where
 | apply (ready:ApplyReady s target) : Transaction s target .applyAndVerify s.baseline s.working
 | rollback {snapshot expected:Page} (ready:RollbackReady s target snapshot expected) :
  Transaction s target .rollbackBaseline expected snapshot

section Transaction
variable {s:PageSession} {target:PhysicalWriteTarget} {op:Op} {expected desired:Page}

lemma Transaction.unlocked (h:Transaction s target op expected desired) :
 s.writeUnlocked=true := by
 cases h with
 | apply ready | rollback ready => exact ready.unlocked

lemma Transaction.loaded (h:Transaction s target op expected desired) :
 s.target=some target := by
 cases h with
 | apply ready | rollback ready => exact ready.loaded

lemma Transaction.pages (h:Transaction s target op expected desired) :
 (op=.applyAndVerify ∧ expected=s.baseline ∧ desired=s.working) ∨
  (op=.rollbackBaseline ∧ s.rollbackExpected=some expected ∧
   s.rollbackSnapshot=some desired) := by
 cases h with
 | apply => exact .inl ⟨rfl,rfl,rfl⟩
 | rollback ready => exact .inr ⟨rfl,ready.expected,ready.snapshot⟩

end Transaction

section
variable {t:List BackendEvent} {event:BackendEvent}

/-- A compare/write in the trace of an operation, with the answers that let it through. -/
structure Issued (s : PageSession) (op : Op) (t : List BackendEvent) (k : ℕ)
 (event : BackendEvent) (target : PhysicalWriteTarget) (expected desired : Page) : Prop where
 position : k=2
 transaction : Transaction s target op expected desired
 call : event.call =
  .compareWritePhysicalPage target.address.physicalAddress expected desired
 ranges : ∃ ranges,⟨.getPhysicalRanges,ranges⟩∈t ∧ rangeVerdict target ranges=.ok ()

lemma Quiet.not_write (quiet:Quiet t) {k:ℕ} (hk:t[k]?=some event)
 (write:event.call.isCompareWrite=true) : False := by
 rw [quiet event (List.mem_of_getElem? hk)] at write
 cases write

lemma StepExit.issued {s s':PageSession} {op:Op} {r:Result Unit} (h:StepExit s op t r s')
 {k:ℕ} (hk:t[k]?=some event) (write:event.call.isCompareWrite=true) :
 ∃ target expected desired,Issued s op t k event target expected desired := by
 cases h with
 | load exit | reload exit =>
  refine (Quiet.not_write ?_ hk write).elim
  cases exit <;> simp [Quiet,BackendCall.isCompareWrite,pageRead]
 | invalidate | edit | revertAll | unlock => simp at hk
 | apply exit =>
  cases exit with
  | refused => simp at hk
  | rejected =>
   refine (Quiet.not_write ?_ hk write).elim
   simp [Quiet,BackendCall.isCompareWrite]
  | gateRefused _ _ _ _ e opening =>
   refine (Quiet.not_write ?_ hk write).elim
   simpa [Quiet,BackendCall.isCompareWrite] using opening_quiet opening
  | transacted ready ranges verdict _ _ _ closes =>
   obtain ⟨rfl,rfl⟩:=transactionTrace_write (closing_quiet closes) hk write
   exact ⟨_,_,_,rfl, .apply ready,rfl,ranges,by simp [transactionTrace],verdict⟩
 | rollback exit =>
  cases exit with
  | refused => simp at hk
  | rejected =>
   refine (Quiet.not_write ?_ hk write).elim
   simp [Quiet,BackendCall.isCompareWrite]
  | gateRefused _ _ _ _ e opening =>
   refine (Quiet.not_write ?_ hk write).elim
   simpa [Quiet,BackendCall.isCompareWrite] using opening_quiet opening
  | transacted ready ranges verdict _ _ _ closes =>
   obtain ⟨rfl,rfl⟩:=transactionTrace_write (closing_quiet closes) hk write
   exact ⟨_,_,_,rfl, .rollback ready,rfl,ranges,by simp [transactionTrace],verdict⟩

end

lemma covers_of_rangeVerdict {target:PhysicalWriteTarget}
 {ranges:Result (List PhysicalRange)} (verdict:rangeVerdict target ranges=.ok ()) :
 ∃ list range,ranges=.ok list ∧ range∈list ∧
  range.Covers target.address.physicalAddress.toNat kPhysicalPageSize := by
 cases ranges with
 | error => cases verdict
 | ok list =>
  unfold rangeVerdict at verdict
  dsimp only at verdict
  split at verdict
  · rename_i found
    obtain ⟨range,mem,contains⟩:=List.any_eq_true.1 found
    exact ⟨list,range,rfl,mem,PhysicalRange.covers_of_contains contains⟩
  · cases verdict

def Unlocks (x : PageStep) (pfn : UInt64) : Prop :=
 x.op.retypedPfn?=some pfn ∧ x.result=.ok ()

/-- The operations after which an earlier unlock must not be used. -/
def Disturbs (x : PageStep) : Prop :=
 match x.op with
 | .load _ | .invalidate | .revertAll => True
 | .editByte .. | .revertByte .. => x.after.working≠x.before.working
 | .undo _ | .redo _ => x.result=.ok ()
 | _ => False

/-- The unlock that the flag stands for is the last one, and nothing it covered has changed. -/
def UnlockPending (h : List PageStep) (s : PageSession) : Prop :=
 s.writeUnlocked=true → ∃ u target,Since (fun z => ¬ Disturbs z ∧ ¬ Writes z) h u ∧
  Unlocks u target.address.pfn ∧ u.before.target=some target ∧ s.target=some target ∧
  u.after.working=s.working

variable {h:List PageStep} {x:PageStep}

section
variable {s:PageSession} {p:ℕ×ℕ} {desired expected:Page}

lemma UnlockPending.keep (pending:UnlockPending h x.before) (same:x.after=x.before)
 (calm:¬Disturbs x) (quiet:x.trace=[]) : UnlockPending (h++[x]) x.after := by
 rw [same]
 intro unlocked
 obtain ⟨u,target,since,hu⟩:=pending unlocked
 exact ⟨u,target,since.snoc ⟨calm,by simp [Writes,quiet]⟩,hu⟩

lemma UnlockPending.locked (locked:s.writeUnlocked=false) : UnlockPending h s := by
 intro unlocked
 rw [locked] at unlocked
 cases unlocked

lemma UnlockPending.pageOutcome (pending:UnlockPending h x.before) (calm:¬Disturbs x)
 (outcome:PageOutcome x.before x.trace x.result x.after) :
 UnlockPending (h++[x]) x.after := by
 rcases outcome.locks with ⟨same,quiet⟩|locked
 · exact pending.keep same calm quiet
 · exact .locked locked

lemma disturbs_of_edits (edits:x.op.edits=true) :
 Disturbs x ↔ if x.op.movesHistory then x.result=.ok ()
  else x.after.working≠x.before.working := by
 obtain ⟨op,s,t,r,_⟩:=x
 cases op <;> simp_all [Disturbs,Op.edits,Op.movesHistory]

lemma UnlockPending.edited (pending:UnlockPending h x.before) (edits:x.op.edits=true)
 (edited:Edited x.before x.result x.after) (quiet:x.trace=[])
 (locks:x.op.movesHistory=true → x.result=.ok () → x.after.writeUnlocked=false) :
 UnlockPending (h++[x]) x.after := by
 by_cases unlocked:x.after.writeUnlocked=false
 · exact .locked unlocked
 · obtain ⟨op,s,t,r,s'⟩:=x
   change Edited s r s' at edited
   cases edited with
   | refused =>
    refine pending.keep rfl ?_ quiet
    simp [disturbs_of_edits edits]
   | unchanged =>
    refine pending.keep rfl ?_ quiet
    have still:op.movesHistory=false:=by
     by_contra moves
     exact unlocked (locks (by simpa using moves) rfl)
    simp [disturbs_of_edits edits,still]
   | staged => exact (unlocked rfl).elim

lemma unlockPending_step (h:List PageStep) (x:PageStep) (inv:Invariant x.before)
 (exit:StepExit x.before x.op x.trace x.result x.after)
 (pending:UnlockPending h x.before) : UnlockPending (h++[x]) x.after := by
 obtain ⟨op,s,t,r,s'⟩:=x
 change StepExit s op t r s' at exit
 cases exit with
 | load exit =>
  refine .locked ?_
  cases exit <;> rfl
 | reload exit | apply exit | rollback exit => exact pending.pageOutcome id exit.pageOutcome
 | invalidate => exact .locked rfl
 | edit edits edited locks => exact pending.edited edits edited rfl locks
 | revertAll =>
  refine .locked ?_
  unfold PageSession.revertAll
  split
  · rename_i unloaded
    exact (inv.blank (by simpa using unloaded)).locked
  · rfl
 | unlock _ retyped unlocking =>
  cases unlocking with
  | refused =>
   refine pending.keep rfl ?_ rfl
   cases op <;> simp_all [Disturbs,Op.retypedPfn?]
  | unlocked target loaded same =>
   intro _
   exact ⟨_,target, .here _ _ _,⟨by rw [retyped,same],rfl⟩,loaded,loaded,rfl⟩

lemma run_unlockPending (run:machine.Run h s) : UnlockPending h s := by
 refine run.history_invariant UnlockPending (.locked rfl) fun past x before valid pending => ?_
 have inv:=run_invariant before
 exact unlockPending_step past x inv (step_exit x valid inv) pending

structure WriteAt (h : List PageStep) (p : ℕ×ℕ) (x : PageStep) (address : UInt64)
 (expected desired : Page) : Prop where
 step : h[p.1]?=some x
 call : ∃ answer,x.trace[p.2]? =
  some ⟨.compareWritePhysicalPage address expected desired,answer⟩

/-- The unlock `u` at position `j` is the one the compare/write at `p` consumes. -/
structure Authorises (h : List PageStep) (j : ℕ) (u : PageStep) (target : PhysicalWriteTarget)
 (p : ℕ×ℕ) (x : PageStep) (address : UInt64) (expected desired : Page) : Prop where
 unlock : h[j]?=some u
 earlier : j < p.1
 retyped : Unlocks u target.address.pfn
 loaded : u.before.target=some target ∧ x.before.target=some target
 undisturbed : ∀ m y,j < m → m < p.1 → h[m]?=some y → ¬ Disturbs y ∧ ¬ Writes y
 page : address=target.address.physicalAddress
 ram : ∃ ranges range,⟨.getPhysicalRanges, .ok ranges⟩∈x.trace ∧ range∈ranges ∧
  range.Covers address.toNat kPhysicalPageSize
 pages : (x.op=.applyAndVerify ∧ expected=x.before.baseline ∧ desired=u.after.working) ∨
  (x.op=.rollbackBaseline ∧ x.before.rollbackExpected=some expected ∧
   x.before.rollbackSnapshot=some desired ∧
   (∃ o,Since (fun z => ∀ page,¬ Observes z page) (h.take p.1) o ∧ Observes o expected) ∧
   (∃ a,Since (fun z => ∀ page,¬ Saves z page) (h.take p.1) a ∧ Saves a desired))

lemma WriteAt.writes {address:UInt64} (w:WriteAt h p x address expected desired) :
 Writes x := by
 obtain ⟨_,hk⟩:=w.call
 exact ⟨_,List.mem_of_getElem? hk,rfl⟩

lemma WriteAt.unique {y:PageStep} {a b:UInt64} {expected' desired':Page}
 (w:WriteAt h p x a expected desired) (v:WriteAt h p y b expected' desired') :
 x=y ∧ a=b ∧ expected=expected' ∧ desired=desired' := by
 obtain rfl : x=y := Option.some.inj (w.step.symm.trans v.step)
 obtain ⟨_,hw⟩:=w.call
 obtain ⟨_,hv⟩:=v.call
 have event:=Option.some.inj (hw.symm.trans hv)
 cases event
 exact ⟨rfl,rfl,rfl,rfl⟩

lemma WriteAt.issued (run:machine.Run h s) {address:UInt64}
 (w:WriteAt h p x address expected desired) :
 p.2=2 ∧ ∃ target ranges,address=target.address.physicalAddress ∧
  Transaction x.before target x.op expected desired ∧
  ⟨.getPhysicalRanges,ranges⟩∈x.trace ∧ rangeVerdict target ranges=.ok () := by
 obtain ⟨-,exit⟩:=run_stepExit run (List.mem_of_getElem? w.step)
 obtain ⟨_,hk⟩:=w.call
 obtain ⟨target,e,d,position,transaction,call,ranges,mem,verdict⟩:=exit.issued hk rfl
 cases call
 exact ⟨position,target,ranges,rfl,transaction,mem,verdict⟩

lemma WriteAt.authorised (run:machine.Run h s) {address:UInt64}
 (w:WriteAt h p x address expected desired) :
 ∃ j u target,Authorises h j u target p x address expected desired := by
 obtain ⟨-,target,_,rfl,transaction,mem,verdict⟩:=w.issued run
 obtain ⟨before,-⟩:=run.before_eq w.step
 have loaded:=transaction.loaded
 obtain ⟨u,bound,since,retyped,hu,hs,working⟩ :=
  run_unlockPending before transaction.unlocked
 obtain rfl : bound=target := Option.some.inj (hs.symm.trans loaded)
 obtain ⟨j,hj,unlock,calm⟩:=since.index
 have hlt:j < p.1:=lt_of_lt_of_le hj (by simp)
 have within {m:ℕ} (hm:m < p.1) : (h.take p.1)[m]?=h[m]? := List.getElem?_take_of_lt hm
 obtain ⟨list,range,rfl,hrange,covers⟩:=covers_of_rangeVerdict verdict
 refine ⟨j,u,bound,(within hlt).symm.trans unlock,hlt,retyped,⟨hu,loaded⟩,
  fun m y hjm hmp hy=>calm m y hjm ((within hmp).trans hy),rfl,
  ⟨list,range,mem,hrange,covers⟩,?_⟩
 rcases transaction.pages with ⟨op,he,hd⟩|⟨op,he,hd⟩
 · exact .inl ⟨op,he,hd.trans working.symm⟩
 · exact .inr ⟨op,he,hd,run_expected_observed before _ he,run_snapshot_saved before _ hd⟩

end

/-- Every compare/write of a run consumes a successful unlock of its own. -/
theorem run_writes_consume_unlocks {h : List PageStep} {s : PageSession}
 (run : machine.Run h s) :
 ∃ unlock : ℕ×ℕ→ℕ,
  Set.InjOn unlock {p | ∃ x address expected desired,WriteAt h p x address expected desired} ∧
  ∀ p x address expected desired,WriteAt h p x address expected desired →
   ∃ u target,Authorises h (unlock p) u target p x address expected desired := by
 have each (p : ℕ×ℕ) : ∃ j,∀ x address expected desired,
  WriteAt h p x address expected desired →
   ∃ u target,Authorises h j u target p x address expected desired := by
  by_cases write : ∃ x address expected desired,WriteAt h p x address expected desired
  · obtain ⟨x,_,_,_,w⟩ := write
    obtain ⟨j,u,target,authorised⟩ := w.authorised run
    refine ⟨j,fun y b e d v => ?_⟩
    obtain ⟨rfl,rfl,rfl,rfl⟩ := w.unique v
    exact ⟨u,target,authorised⟩
  · exact ⟨0,fun x address expected desired w=>(write ⟨x,address,expected,desired,w⟩).elim⟩
 choose unlock consumed using each
 refine ⟨unlock,?_,consumed⟩
 rintro p ⟨x,a,e,d,w⟩ q ⟨y,b,e',d',v⟩ same
 obtain ⟨u,_,hp⟩ := consumed p x a e d w
 obtain ⟨_,_,hq⟩ := consumed q y b e' d' v
 -- Two writes with one unlock: the earlier step would lie between the unlock and the later one.
 rcases lt_trichotomy p.1 q.1 with hlt | heq | hgt
 · exact absurd w.writes (hq.undisturbed p.1 x (same ▸ hp.earlier) hlt w.step).2
 · exact Prod.ext heq ((w.issued run).1.trans (v.issued run).1.symm)
 · exact absurd v.writes (hp.undisturbed q.1 y (same ▸ hq.earlier) hgt v.step).2

theorem failedApply_consumes_unlock : ∃ j u target,Authorises
 ([loadStep {} zeroPage,editStep sampleLoaded 1,unlockStep sampleEdited]++[failedApply])
 j u target (3,2) failedApply 0x10000 sampleUnlocked.baseline sampleUnlocked.working := by
 obtain ⟨unlock,-,consumed⟩ := run_writes_consume_unlocks failedApply_run
 obtain ⟨u,target,authorised⟩ := consumed (3,2) failedApply 0x10000 _ _ ⟨rfl,_,rfl⟩
 exact ⟨unlock (3,2),u,target,authorised⟩

end KDbg.PageSession
