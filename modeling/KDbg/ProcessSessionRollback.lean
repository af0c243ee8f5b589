import KDbg.ProcessSessionSteps
set_option autoImplicit false
/-!
The rollback image over whole runs. The image is the view as the last attempt
found it, and every byte the session expects is a byte of that image or a byte
that attempt intended to write.
-/
namespace KDbg.ProcessSession
open Interaction

/-- An apply that has read the live view and found its baseline there. -/
def PastCheck (x : ProcessStep) : Prop :=
 x.op=.applyAndVerify ∧ ⟨x.before.viewRead, .ok x.before.baseline⟩∈x.trace

/-- The step ends the life of an earlier attempt: the view is replaced, a rollback succeeds,
 or a later apply gets past its conflict check. -/
def Supersedes (x : ProcessStep) : Prop :=
 match x.op with
 | .load _ _ | .reset => True
 | .rollback => x.result=.ok ()
 | .applyAndVerify => PastCheck x
 | _ => False

/-- `a` is the last attempt of the history, and nothing has superseded it. -/
def Outstanding (h : List ProcessStep) (a : ProcessStep) : Prop :=
 Since (fun z => ¬ Supersedes z) h a ∧ PastCheck a

structure SameView (s s' : ProcessSession) : Prop where
 pid : s'.pid=s.pid
 address : s'.address=s.address
 length : s'.working.length=s.working.length

lemma SameView.refl (s:ProcessSession) : SameView s s := ⟨rfl,rfl,rfl⟩

variable {s s':ProcessSession}

lemma SameView.trans {s'':ProcessSession} (h:SameView s s') (h':SameView s' s'') :
 SameView s s'' :=
 ⟨h'.pid.trans h.pid,h'.address.trans h.address,h'.length.trans h.length⟩

def Op.replacesView : Op→Bool
 | .load _ _ | .reset => true
 | _ => false

variable {t:List ProcessEvent} {r:Result Unit}

lemma StepExit.sameView {op:Op} (inv:Invariant s) (h:StepExit s op t r s')
 (stays:op.replacesView=false) : SameView s s' := by
 cases h with
 | load | reset => cases stays
 | edit _ edited =>
  cases edited with
  | refused | unchanged => exact .refl s
  | staged => exact ⟨rfl,rfl,by simp⟩
 | revertAll =>
  unfold ProcessSession.revertAll
  split
  · exact .refl s
  · exact ⟨rfl,rfl,inv.baselineLength⟩
 | apply exit =>
  cases exit with
  | stopped e _ _ _ report | failed e _ _ _ _ _ report =>
   cases report
   exact ⟨rfl,rfl,rfl⟩
  | verified => exact ⟨rfl,rfl,rfl⟩
 | rollback exit =>
  cases exit with
  | stopped e _ _ report | failed e _ _ _ _ _ _ report =>
   cases report
   exact ⟨rfl,rfl,rfl⟩
  | verified held => exact ⟨rfl,rfl,inv.savedLength _ held⟩

inductive PointStep (x:ProcessStep) : Prop where
 | dropped (ends:Supersedes x) (absent:x.after.rollbackBytes=none)
 | kept (calm:¬ Supersedes x) (view:SameView x.before x.after)
  (baseline:x.after.baseline=x.before.baseline)
  (saved:x.after.rollbackBytes=x.before.rollbackBytes)
  (expected:x.after.rollbackExpected=x.before.rollbackExpected)
  (allows:x.after.rollbackAllowsPartial=x.before.rollbackAllowsPartial)
 | opened (attempt:PastCheck x) (view:SameView x.before x.after)
  (saved:x.after.rollbackBytes=some x.before.baseline)
  (expected:x.after.rollbackExpected=some x.before.working)
 | observed (live:List UInt8) (calm:¬ Supersedes x) (view:SameView x.before x.after)
  (seen:⟨x.before.viewRead, .ok live⟩∈x.trace)
  (saved:x.after.rollbackBytes=x.before.rollbackBytes)
  (accepted:∀ image,x.before.rollbackBytes=some image→Accepts x.before image live)
  (expected:x.after.rollbackExpected=some live)

lemma mem_preflight (s:ProcessSession) (live:List UInt8) (t:List ProcessEvent) :
 ⟨s.viewRead, .ok live⟩∈s.preflight live++t :=
 List.mem_append_left _ (by simp [preflight])

lemma Disarming.unread {armed:Bool} (h:ProcessWriteArmGuard.Disarming armed t r)
 (s:ProcessSession) (bytes:List UInt8) : ⟨s.viewRead, .ok bytes⟩ ∉ t := by
 have calls:∀event∈t,event.call=.setWritesArmed false:=by
  cases h <;> simp
 intro mem
 cases calls _ mem

/-- An apply that stops before its attempt has not seen its baseline. -/
lemma not_pastCheck {armed:Bool} {checks closing:List ProcessEvent} {closed:Result Unit}
 (unmatched:⟨s.viewRead, .ok s.baseline⟩ ∉ checks)
 (closes:ProcessWriteArmGuard.Disarming armed closing closed) :
 ¬PastCheck ⟨.applyAndVerify,s,⟨.writesArmed,armed⟩::(checks++closing),r,s'⟩ := by
 rintro ⟨-,mem⟩
 rcases List.mem_cons.1 mem with same|mem
 · cases congrArg Event.call same
 · rcases List.mem_append.1 mem with mem|mem
   · exact unmatched mem
   · exact Disarming.unread closes s _ mem

lemma ApplyExit.pointStep (h:ApplyExit s t r s') :
 PointStep ⟨.applyAndVerify,s,t,r,s'⟩ := by
 cases h with
 | stopped e _ unmatched closes report =>
  cases report
  exact .kept (not_pastCheck unmatched closes) ⟨rfl,rfl,rfl⟩ rfl rfl rfl rfl
 | failed e _ _ _ _ _ report =>
  cases report
  exact .opened ⟨rfl,mem_preflight s s.baseline _⟩ ⟨rfl,rfl,rfl⟩ rfl rfl
 | verified =>
  exact .opened ⟨rfl,mem_preflight s s.baseline _⟩ ⟨rfl,rfl,rfl⟩ rfl rfl

lemma RollbackExit.pointStep (h:RollbackExit s t r s') :
 PointStep ⟨.rollback,s,t,r,s'⟩ := by
 have calm (e:Error) : ¬Supersedes ⟨.rollback,s,t, .error e,s'⟩ := by
  rintro ⟨⟩
 cases h with
 | stopped e _ _ report =>
  cases report
  exact .kept (calm e) ⟨rfl,rfl,rfl⟩ rfl rfl rfl rfl
 | @failed saved live write closing last written closed _ e held length accepted writing closes
  plain report cause =>
  cases report
  refine .observed live (calm e) ⟨rfl,rfl,rfl⟩ (mem_preflight s live _) rfl ?_ rfl
  intro _ present
  cases held.symm.trans present
  exact accepted
 | verified => exact .dropped rfl rfl

lemma Edited.pointStep {op:Op} (h:Edited s r s') (isLocal:op.isLocal=true) :
 PointStep ⟨op,s,[],r,s'⟩ := by
 have calm (r:Result Unit) (s':ProcessSession) : ¬Supersedes ⟨op,s,[],r,s'⟩ := by
  cases op <;> first | exact id | cases isLocal
 cases h with
 | refused | unchanged => exact .kept (calm _ _) (.refl s) rfl rfl rfl rfl
 | staged =>
  exact .kept (calm _ _) ⟨rfl,rfl,by simp⟩ rfl rfl rfl rfl

lemma StepExit.pointStep {op:Op} (inv:Invariant s) (h:StepExit s op t r s') :
 PointStep ⟨op,s,t,r,s'⟩ := by
 cases h with
 | load exit => cases exit <;> exact .dropped trivial rfl
 | reset => exact .dropped trivial rfl
 | edit isLocal edited => exact edited.pointStep isLocal
 | revertAll =>
  unfold ProcessSession.revertAll
  split
  · exact .kept id (.refl s) rfl rfl rfl rfl
  · exact .kept id ⟨rfl,rfl,inv.baselineLength⟩ rfl rfl rfl rfl
 | apply exit | rollback exit => exact exit.pointStep

/-- The bytes a rollback accepts are those of the image and those the session expects. -/
lemma Invariant.accepted (inv:Invariant s) {saved live:List UInt8}
 (held:s.rollbackBytes=some saved) (accepted:Accepts s saved live) :
 ∃ expected,s.rollbackExpected=some expected ∧
  ∀i < s.working.length,live[i]?=saved[i]? ∨ live[i]?=expected[i]? := by
 have present:s.rollbackBytes.isSome=true:=by rw [held];rfl
 obtain ⟨expected,expects⟩:=Option.isSome_iff_exists.1 (inv.bound present).2.2
 refine ⟨expected,expects,fun i lt => ?_⟩
 have byte:=accepted i lt
 unfold rollbackAccepts at byte
 rw [expects] at byte
 cases allows:s.rollbackAllowsPartial with
 | true => simpa [allows] using byte
 | false =>
  have same : expected=s.baseline :=
   Option.some.inj (expects.symm.trans (inv.verified present allows))
  subst same
  exact .inr (by simpa [allows] using byte)

/-- The image a session holds is the view its last attempt started from, and every byte it
 expects is a byte of that view or one the attempt intended. -/
structure PointOf (s : ProcessSession) (saved : List UInt8) (a : ProcessStep) : Prop where
 view : SameView a.before s
 image : saved=a.before.baseline
 expected : ∃ expected,s.rollbackExpected=some expected ∧
  ∀ i < s.working.length,expected[i]?=saved[i]? ∨ expected[i]?=a.before.working[i]?

/-- What a rollback accepts is a byte of the image or one the attempt intended. -/
lemma PointOf.accepted {saved live:List UInt8} {a:ProcessStep} (point:PointOf s saved a)
 (inv:Invariant s) (held:s.rollbackBytes=some saved) (accepted:Accepts s saved live) :
 ∀i < s.working.length,live[i]?=saved[i]? ∨ live[i]?=a.before.working[i]? := by
 obtain ⟨expected,expects,allowed⟩:=point.expected
 obtain ⟨expected',expects',bytes⟩:=inv.accepted held accepted
 obtain rfl : expected=expected' := Option.some.inj (expects.symm.trans expects')
 intro i lt
 rcases bytes i lt with byte|byte
 · exact .inl byte
 · rw [byte]
   exact allowed i lt

lemma run_point {h:List ProcessStep} (run:machine.Run h s) {saved:List UInt8}
 (held:s.rollbackBytes=some saved) : ∃ a,Outstanding h a ∧ PointOf s saved a := by
 refine run.history_invariant (fun h s => ∀saved,s.rollbackBytes=some saved →
  ∃ a,Outstanding h a ∧ PointOf s saved a) ?_ ?_ saved held
 · rintro _ ⟨⟩
 · intro _ x before valid point saved held
   have inv:=run_invariant before
   have step:PointStep x:=(step_exit x valid inv).pointStep inv
   cases step with
   | dropped _ absent => cases absent.symm.trans held
   | kept calm view _ same expected =>
    obtain ⟨a,⟨since,attempt⟩,point⟩:=point saved (same.symm.trans held)
    refine ⟨a,⟨since.snoc calm,attempt⟩,point.view.trans view,point.image,?_⟩
    rw [expected,view.length]
    exact point.expected
   | opened attempt view same expected =>
    obtain rfl : x.before.baseline=saved := Option.some.inj (same.symm.trans held)
    refine ⟨x,⟨.here _ _ _,attempt⟩,view,rfl,_,expected,fun i _ => .inr rfl⟩
   | observed live calm view _ same accepted expected =>
    have held:=same.symm.trans held
    obtain ⟨a,⟨since,attempt⟩,point⟩:=point saved held
    refine ⟨a,⟨since.snoc calm,attempt⟩,point.view.trans view,point.image,live,expected,
     fun i lt => ?_⟩
    exact point.accepted inv held (accepted saved held) i (view.length ▸ lt)

end KDbg.ProcessSession
