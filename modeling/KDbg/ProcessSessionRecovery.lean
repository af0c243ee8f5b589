import KDbg.ProcessSessionWrites
set_option autoImplicit false
/-!
A process session can undo its own damage. Memory is a state of its own here:
the calls of the session act on it, a write may take effect in part, and nobody
else touches the bytes of the view.
-/
namespace KDbg.ProcessSession
open Interaction

abbrev Memory := UInt32→ℕ→UInt8

def byteAt (s : ProcessSession) (m : Memory) (i : ℕ) : UInt8 := m s.pid (s.address.toNat+i)

def Undisturbed (s : ProcessSession) (m m' : Memory) : Prop :=
 ∀ i < s.working.length,s.byteAt m' i=s.byteAt m i

/-- What one call of an operation that is attached to process `p` may do to the view of `s`. A
 write leaves each requested byte at its old or at its new value, whatever it answers. A read
 that returns all it was asked for is true. -/
def Acts (s : ProcessSession) (p : UInt32) (m : Memory) : ProcessEvent→Memory→Prop
 | ⟨.write address data,_⟩,m' => ∀ i < s.working.length,
  s.byteAt m' i=s.byteAt m i ∨
   (p=s.pid ∧ ∃ k,address.toNat+k=s.address.toNat+i ∧
    data[k]?=some (s.byteAt m' i))
 | ⟨.read address length,answer⟩,m' => Undisturbed s m m' ∧
  ∀ bytes : List UInt8,answer=.ok bytes → bytes.length=length.toNat →
   ∀ k < bytes.length,bytes[k]?=some (m p (address.toNat+k))
 | ⟨.processId,pid⟩,m' => Undisturbed s m m' ∧ pid=p
 | _,m' => Undisturbed s m m'

inductive ActsAll (s:ProcessSession) (p:UInt32) :
 Memory→List ProcessEvent→Memory→Prop where
 | nil (m:Memory) : ActsAll s p m [] m
 | cons {m m₁ m₂:Memory} {event:ProcessEvent} {t:List ProcessEvent}
  (acts:Acts s p m event m₁) (rest:ActsAll s p m₁ t m₂) : ActsAll s p m (event::t) m₂

/-- A run together with the memory it acts on. Each step is listed with the memory it has
 started from; between two steps only bytes outside the view may change. -/
inductive Lived : List (ProcessStep×Memory)→ProcessSession→Memory→Prop where
 | nil (m:Memory) : Lived [] machine.init m
 | snoc {h:List (ProcessStep×Memory)} {s:ProcessSession} {m m₀ m':Memory}
  (past:Lived h s m) (x:ProcessStep) (start:x.before=s) (valid:machine.Valid x)
  (idle:Undisturbed s m m₀) (p:UInt32) (acts:ActsAll s p m₀ x.trace m') :
  Lived (h++[(x,m₀)]) x.after m'

lemma Lived.run {h:List (ProcessStep×Memory)} {s:ProcessSession} {m:Memory}
 (lived:Lived h s m) : machine.Run (h.map Prod.fst) s := by
 induction lived with
 | nil m => exact .nil
 | snoc _ x start valid _ p _ ih =>
  rw [List.map_append]
  exact ih.snoc x start valid

lemma Undisturbed.trans {s:ProcessSession} {m m₁ m₂:Memory} (h:Undisturbed s m m₁)
 (h':Undisturbed s m₁ m₂) : Undisturbed s m m₂ := fun i lt=>(h' i lt).trans (h i lt)

variable {bytes saved:List UInt8} {r:Result Unit}

section Acting
variable {s:ProcessSession} {p:UInt32} {m m':Memory} {t u:List ProcessEvent}

lemma actsAll_append (h:ActsAll s p m (t++u) m') :
 ∃ m₁,ActsAll s p m t m₁ ∧ ActsAll s p m₁ u m' := by
 induction t generalizing m with
 | nil => exact ⟨m, .nil m,h⟩
 | cons _ t ih =>
  cases h with
  | cons acts rest =>
   obtain ⟨m₁,first,second⟩:=ih rest
   exact ⟨m₁, .cons acts first,second⟩

lemma Acts.undisturbed {event:ProcessEvent} (h:Acts s p m event m')
 (silent:event.call.isWrite=false) : Undisturbed s m m' := by
 obtain ⟨call,_⟩:=event
 cases call with
 | write => cases silent
 | read | processId => exact h.1
 | isOpen | writesArmed | setWritesArmed => exact h

lemma ActsAll.undisturbed (h:ActsAll s p m t m')
 (silent:∀event∈t,event.call.isWrite=false) : Undisturbed s m m' := by
 induction h with
 | nil m => exact fun i _=>rfl
 | cons acts _ ih =>
  exact (acts.undisturbed (silent _ (by simp))).trans
   (ih fun event mem=>silent event (by simp [mem]))

def Shows (s : ProcessSession) (m : Memory) (bytes : List UInt8) : Prop :=
 ∀ i < s.working.length,bytes[i]?=some (s.byteAt m i)

lemma Shows.undisturbed (h:Shows s m bytes) (same:Undisturbed s m m') : Shows s m' bytes := by
 intro i lt
 rw [same i lt]
 exact h i lt

/-- A complete read of the view in a stretch without writes is true. -/
lemma ActsAll.shows (h:ActsAll s s.pid m t m')
 (size:s.working.length ≤ kMaximumViewSize.toNat)
 (silent:∀event∈t,event.call.isWrite=false) (length:bytes.length=s.working.length)
 (mem:⟨s.viewRead, .ok bytes⟩∈t) : Shows s m bytes := by
 induction h with
 | nil m => cases mem
 | @cons m _ _ event t acts _ ih =>
  rcases List.mem_cons.1 mem with same|mem
  · subst same
    have small:s.working.length<2^32:=lt_of_le_of_lt size (by decide)
    have full:bytes.length=(UInt32.ofNat s.working.length).toNat:=by
     rw [UInt32.toNat_ofNat_of_lt' small,length]
    exact fun i lt=>acts.2 bytes rfl full i (length ▸ lt)
  · have later:=ih (fun event mem=>silent event (by simp [mem])) mem
    intro i lt
    rw [←acts.undisturbed (silent _ (by simp)) i lt]
    exact later i lt

def Mixed (s : ProcessSession) (image : List UInt8) (m m' : Memory) : Prop :=
 ∀ i < s.working.length,s.byteAt m' i=s.byteAt m i ∨ image[i]?=some (s.byteAt m' i)

lemma Mixed.trans {image:List UInt8} {m₁:Memory} (h:Mixed s image m m₁)
 (h':Mixed s image m₁ m') : Mixed s image m m' := by
 intro i lt
 rcases h' i lt with same|byte
 · rw [same]
   exact h i lt
 · exact .inr byte

lemma Undisturbed.mixed (h:Undisturbed s m m') (image:List UInt8) : Mixed s image m m' :=
 fun i lt => .inl (h i lt)

/-- An armed write whose bytes all come from `image` mixes it into the view. -/
lemma ActsAll.armedWrite {address:UInt64} {data image:List UInt8} (h:ActsAll s p m t m')
 (write:ArmedWrite address data t r)
 (content:∀q∈addressed address data,∀i,q.1=s.address.toNat+i →
  image[i]?=some q.2) : Mixed s image m m' := by
 rcases ArmedWrite.split write with silent|⟨_,_,rfl⟩
 · exact (h.undisturbed silent).mixed image
 · cases h with
   | cons armed h =>
   cases h with
   | cons written h =>
   have before:=(armed.undisturbed rfl).mixed image
   have after:=(h.undisturbed (by simp [ProcessCall.isWrite])).mixed image
   refine (before.trans fun i lt => ?_).trans after
   rcases written i lt with same|⟨-,k,place,value⟩
   · exact .inl same
   · exact .inr (content (_,_) (mem_addressed.2 ⟨k,value,rfl⟩) i place)

lemma ActsAll.runsWritten (inv:Invariant s) {runs:List DiffRun} (h:ActsAll s p m t m')
 (writing:RunsWritten s.address runs t r) (inside:∀run∈runs,run∈s.diffRuns) :
 Mixed s s.working m m' := by
 have content (run:DiffRun) (mem:run∈s.diffRuns) :
  ∀q∈addressed (s.address+UInt64.ofNat run.offset) run.after,∀i,
   q.1=s.address.toNat+i → s.working[i]?=some q.2 := by
  intro q hq i _
  obtain ⟨j,-,_,value,-⟩:=inv.stagedByte mem hq
  obtain rfl : i=j := by omega
  exact value
 induction writing generalizing m with
 | done =>
  cases h
  exact fun i _ => .inl rfl
 | stopped write => exact h.armedWrite write (content _ (inside _ (by simp)))
 | next write _ ih =>
  obtain ⟨_,first,second⟩:=actsAll_append h
  exact (first.armedWrite write (content _ (inside _ (by simp)))).trans
   (ih second fun run mem=>inside run (by simp [mem]))

/-- After the opening calls the operation is known to be attached to the bound process, and
 what it has read is what memory holds. -/
lemma ActsAll.preflight {live:List UInt8} (h:ActsAll s p m (s.preflight live) m')
 (size:s.working.length ≤ kMaximumViewSize.toNat) (length:live.length=s.working.length) :
 p=s.pid ∧ Undisturbed s m m' ∧ Shows s m live := by
 have attached:s.pid=p:=by
  cases h with
  | cons _ h =>
  cases h with
  | cons _ h =>
  cases h with
  | cons identified h => exact identified.2
 subst attached
 exact ⟨rfl,h.undisturbed (preflight_silent s live),
  h.shows size (preflight_silent s live) length (by simp [ProcessSession.preflight])⟩

end Acting
section
variable {s s':ProcessSession} {m m' origin:Memory} {t:List ProcessEvent} {p:UInt32}
 {op:Op} {event:ProcessEvent}

/-- The session holds the view that memory `origin` had, and can tell every live byte from a
 foreign one. -/
structure Held (s : ProcessSession) (m origin : Memory) (saved : List UInt8) : Prop where
 held : s.rollbackBytes=some saved
 image : Shows s origin saved
 partially : s.rollbackAllowsPartial=true → ∃ expected,s.rollbackExpected=some expected ∧
  ∀ i < s.working.length,
   saved[i]?=some (s.byteAt m i) ∨ expected[i]?=some (s.byteAt m i)
 verified : s.rollbackAllowsPartial=false→Shows s m s.baseline

lemma SameView.shows (view:SameView s s') : Shows s' m bytes ↔ Shows s m bytes := by
 unfold Shows byteAt
 rw [view.pid,view.address,view.length]

/-- Nothing about the image changes when neither the session nor the view is touched. -/
lemma Held.keep (h:Held s m origin saved) (view:SameView s s')
 (baseline:s'.baseline=s.baseline) (bytes:s'.rollbackBytes=s.rollbackBytes)
 (expected:s'.rollbackExpected=s.rollbackExpected)
 (allows:s'.rollbackAllowsPartial=s.rollbackAllowsPartial) (same:Undisturbed s m m') :
 Held s' m' origin saved where
 held := bytes.trans h.held
 image := view.shows.2 h.image
 partially := by
  intro may
  obtain ⟨image,expects,live⟩:=h.partially (allows ▸ may)
  refine ⟨image,expected.trans expects,fun i lt => ?_⟩
  rw [view.length] at lt
  have byte:s'.byteAt m' i=s.byteAt m i:=by
   unfold byteAt
   rw [view.pid,view.address]
   exact same i lt
  rw [byte]
  exact live i lt
 verified := by
  intro full
  rw [baseline]
  exact view.shows.2 ((h.verified (allows ▸ full)).undisturbed same)

/-- An attempt holds the view it has started from. -/
lemma ApplyExit.held (inv:Invariant s) (h:ApplyExit s t r s') (acts:ActsAll s p m t m')
 (attempt:PastCheck ⟨.applyAndVerify,s,t,r,s'⟩) : ∃ saved,Held s' m' m saved := by
 refine ⟨s.baseline,?_⟩
 cases h with
 | stopped e _ unmatched closes =>
  exact absurd attempt (not_pastCheck unmatched closes)
 | failed e _ _ writing closes plain report =>
  obtain ⟨_,opening,acts⟩:=actsAll_append acts
  obtain ⟨_,during,rest⟩:=actsAll_append acts
  obtain ⟨rfl,idle,shows⟩:=opening.preflight inv.size inv.baselineLength
  have silent:=silent_append (Disarming.silent closes) plain.silent
  have mixed:Mixed s s.working m m':=((idle.mixed _).trans
   (during.runsWritten inv writing fun _ mem=>mem)).trans
    ((rest.undisturbed silent).mixed _)
  cases report
  refine ⟨rfl,shows,fun _=>⟨_,rfl,fun i lt => ?_⟩,fun full=>by cases full⟩
  rcases mixed i lt with same|byte
  · exact .inl ((shows i lt).trans (congrArg some same.symm))
  · exact .inr byte
 | verified =>
  obtain ⟨_,opening,acts⟩:=actsAll_append acts
  obtain ⟨_,_,rest⟩:=actsAll_append acts
  obtain ⟨rfl,_,shows⟩:=opening.preflight inv.size inv.baselineLength
  have silent : ∀event∈[⟨.setWritesArmed false, .ok ()⟩,(⟨s.viewRead, .ok s.working⟩ :
   ProcessEvent)],event.call.isWrite=false := by simp [viewRead,ProcessCall.isWrite]
  have readback:=rest.shows inv.size silent rfl (by simp)
  refine ⟨rfl,shows,(fun may=>by cases may),fun _ => ?_⟩
  exact readback.undisturbed (rest.undisturbed silent)

/-- A failed rollback keeps the image and learns what it has seen. -/
lemma RollbackExit.held (inv:Invariant s) (h:RollbackExit s t r s')
 (acts:ActsAll s p m t m') (failed:r≠.ok ()) (held:Held s m origin saved) :
 Held s' m' origin saved := by
 cases h with
 | stopped e plain closes report =>
  have same:=acts.undisturbed (stopped_silent plain closes)
  cases report
  exact held.keep ⟨rfl,rfl,rfl⟩ rfl rfl rfl rfl same
 | @failed image live _ _ _ _ _ _ e present length _ writing closes plain report _ =>
  obtain rfl : image=saved := Option.some.inj (present.symm.trans held.held)
  obtain ⟨_,opening,acts⟩:=actsAll_append acts
  obtain ⟨_,during,rest⟩:=actsAll_append acts
  obtain ⟨rfl,idle,shows⟩:=opening.preflight inv.size length
  have silent:=silent_append (Disarming.silent closes) plain.silent
  have content : ∀q∈addressed s.address image,∀i,q.1=s.address.toNat+i →
   image[i]?=some q.2 := by
   intro q mem i _
   obtain ⟨k,value,_⟩:=mem_addressed.1 mem
   obtain rfl : k=i := by omega
   exact value
  have mixed:Mixed s image m m':=((idle.mixed _).trans
   (during.armedWrite writing content)).trans ((rest.undisturbed silent).mixed _)
  cases report
  refine ⟨present,held.image,fun _=>⟨live,rfl,fun i lt => ?_⟩,fun full=>by cases full⟩
  rcases mixed i lt with same|byte
  · exact .inr ((shows i lt).trans (congrArg some same.symm))
  · exact .inl byte
 | verified => exact absurd rfl failed

lemma StepExit.keepsHeld (inv:Invariant s) (h:StepExit s op t r s')
 (calm:¬Supersedes ⟨op,s,t,r,s'⟩) (acts:ActsAll s p m t m')
 (held:Held s m origin saved) : Held s' m' origin saved := by
 have quiet (silent:∀event∈t,event.call.isWrite=false) : Undisturbed s m m' :=
  acts.undisturbed silent
 cases h with
 | load | reset => exact absurd trivial calm
 | edit _ edited =>
  have same:=quiet (by simp)
  cases edited with
  | refused e | unchanged => exact held.keep (.refl s) rfl rfl rfl rfl same
  | staged i =>
   exact held.keep ⟨rfl,rfl,by simp⟩ rfl rfl rfl rfl same
 | revertAll =>
  have same:=quiet (by simp)
  unfold ProcessSession.revertAll
  split
  · exact held.keep (.refl s) rfl rfl rfl rfl same
  · exact held.keep ⟨rfl,rfl,inv.baselineLength⟩ rfl rfl rfl rfl same
 | apply exit =>
  cases exit with
  | stopped e plain _ closes report =>
   have same:=quiet (stopped_silent plain closes)
   cases report
   exact held.keep ⟨rfl,rfl,rfl⟩ rfl rfl rfl rfl same
  | failed e =>
   exact absurd ⟨rfl,mem_preflight s s.baseline _⟩ calm
  | verified => exact absurd ⟨rfl,mem_preflight s s.baseline _⟩ calm
 | rollback exit => exact exit.held inv acts calm held

lemma StepExit.held (inv:Invariant s) (h:StepExit s op t r s') (acts:ActsAll s p m t m')
 (attempt:PastCheck ⟨op,s,t,r,s'⟩) : ∃ saved,Held s' m' m saved := by
 cases h with
 | apply exit => exact exit.held inv acts attempt
 | load | reset | revertAll | rollback => cases attempt.1
 | edit isLocal =>
  have isApply:op=.applyAndVerify:=attempt.1
  subst isApply
  cases isLocal

/-- While an attempt is outstanding the session holds the view it has started from. -/
lemma lived_held {h:List (ProcessStep×Memory)} (lived:Lived h s m) {a:ProcessStep}
 (since:Since (fun z => ¬Supersedes z.1) h (a,origin)) (attempt:PastCheck a) :
 ∃ saved,Held s m origin saved := by
 induction lived with
 | nil m => exact absurd since.mem (by simp)
 | @snoc h s m m₀ _ past x start valid idle p acts ih =>
  subst start
  have inv:=run_invariant past.run
  have exit:=step_exit x valid inv
  rcases since.of_snoc with same|⟨since,calm⟩
  · obtain ⟨rfl,rfl⟩:=Prod.mk.inj same
    exact exit.held inv acts attempt
  · obtain ⟨saved,held⟩:=ih since
    have waiting : Held x.before m₀ origin saved :=
     held.keep (.refl _) rfl rfl rfl rfl idle
    exact ⟨saved,exit.keepsHeld inv calm acts waiting⟩

/-- A call that works: it is answered as it should be, and a write takes effect everywhere. -/
def Performs (s : ProcessSession) (m : Memory) (event : ProcessEvent) (m' : Memory) : Prop :=
 Acts s s.pid m event m' ∧ Working s event ∧
  ∀ address data,event.call=.write address data → ∀ i < s.working.length,∀ k,
   address.toNat+k=s.address.toNat+i → ∀ value,data[k]?=some value →
    s.byteAt m' i=value

inductive PerformsAll (s:ProcessSession) : Memory→List ProcessEvent→Memory→Prop where
 | nil (m:Memory) : PerformsAll s m [] m
 | cons {m m₁ m₂:Memory} {event:ProcessEvent} {t:List ProcessEvent}
  (performs:Performs s m event m₁) (rest:PerformsAll s m₁ t m₂) :
  PerformsAll s m (event::t) m₂

lemma PerformsAll.acts (h:PerformsAll s m t m') : ActsAll s s.pid m t m' := by
 induction h with
 | nil m => exact .nil m
 | cons performs _ ih => exact .cons performs.1 ih

lemma PerformsAll.working (h:PerformsAll s m t m') (mem:event∈t) : Working s event := by
 induction h with
 | nil m => cases mem
 | cons performs _ ih =>
  rcases List.mem_cons.1 mem with rfl|mem
  · exact performs.2.1
  · exact ih mem

lemma PerformsAll.not_broken (h:PerformsAll s m t m') : ¬Broken s t := by
 rintro ⟨_,mem,broken⟩
 exact broken (h.working mem)

/-- In a working stretch without writes every read of the view is complete and true. -/
lemma PerformsAll.shows (h:PerformsAll s m t m')
 (size:s.working.length ≤ kMaximumViewSize.toNat)
 (silent:∀event∈t,event.call.isWrite=false) (mem:⟨s.viewRead, .ok bytes⟩∈t) :
 bytes.length=s.working.length ∧ Shows s m bytes := by
 have length:bytes.length=s.working.length:=by
  obtain ⟨_,same,full⟩:=h.working mem
  cases same
  rwa [UInt32.toNat_ofNat_of_lt' (lt_of_le_of_lt size (by decide))] at full
 exact ⟨length,h.acts.shows size silent length mem⟩

lemma performsAll_append {u:List ProcessEvent} (h:PerformsAll s m (t++u) m') :
 ∃ m₁,PerformsAll s m t m₁ ∧ PerformsAll s m₁ u m' := by
 induction t generalizing m with
 | nil => exact ⟨m, .nil m,h⟩
 | cons _ t ih =>
  cases h with
  | cons performs rest =>
   obtain ⟨m₁,first,second⟩:=ih rest
   exact ⟨m₁, .cons performs first,second⟩

/-- The single write of a rollback, when it works, leaves the saved view in memory. -/
lemma PerformsAll.restores (h:PerformsAll s m t m') (write:ArmedWrite s.address saved t r)
 (length:saved.length=s.working.length) : Shows s m' saved := by
 cases r with
 | error e => exact absurd (ArmedWrite.broken write) h.not_broken
 | ok =>
  cases write with
  | written =>
  cases h with
  | cons _ h =>
  cases h with
  | cons written h =>
  intro i lt
  have present:saved[i]?=some (saved.getD i 0):=by simp [length,lt]
  have byte:=written.2.2 _ _ rfl i lt i rfl _ present
  rw [h.acts.undisturbed (by simp [ProcessCall.isWrite]) i lt,byte,present]

lemma Shows.unique {left right:List UInt8} (hl:Shows s m left) (hr:Shows s m right)
 (leftLength:left.length=s.working.length) (rightLength:right.length=s.working.length) :
 left=right := by
 refine List.ext_getElem? fun i => ?_
 rcases Nat.lt_or_ge i s.working.length with lt | _
 · rw [hl i lt,hr i lt]
 · rw [List.getElem?_eq_none (by omega),List.getElem?_eq_none (by omega)]

lemma Held.accepts {live:List UInt8} (held:Held s m origin saved) (shows:Shows s m live) :
 Accepts s saved live := by
 intro i lt
 unfold rollbackAccepts
 cases allows:s.rollbackAllowsPartial with
 | false => simp [held.verified allows i lt,shows i lt]
 | true =>
  obtain ⟨_,expects,bytes⟩:=held.partially allows
  rcases bytes i lt with byte|byte <;> simp [expects,byte,shows i lt]

/-- A rollback whose calls all work, from a session that holds an image, succeeds and leaves
 that image in memory. -/
lemma Held.rollback_restores (inv:Invariant s) (held:Held s m origin saved)
 (exec:s.rollback.Exec t (r,s')) (works:PerformsAll s m t m') :
 r=.ok () ∧ Shows s m' saved := by
 have size:=inv.savedLength saved held.held
 have answered:=works.not_broken
 cases rollback_exit inv exec with
 | @stopped _ _ _ _ _ e plain closes _ cause =>
  exfalso
  rcases cause with none|broken|⟨image,_,present,seen,rejected⟩
  · cases none.symm.trans held.held
  · refine answered (broken.mono fun _ mem => ?_)
    exact List.mem_append_left _ mem
  · obtain rfl : image=saved := Option.some.inj (present.symm.trans held.held)
    have read:=works.shows inv.size (stopped_silent plain closes)
     (List.mem_cons_of_mem _ (List.mem_append_left _ seen))
    exact rejected (held.accepts read.2)
 | @failed image live write closing last written closed _ e present length accepted writing closes
  plain report cause =>
  exfalso
  obtain rfl : image=saved := Option.some.inj (present.symm.trans held.held)
  obtain ⟨_,_,works⟩:=performsAll_append works
  obtain ⟨_,during,rest⟩:=performsAll_append works
  rcases cause with broken|⟨_,mem,differs⟩
  · exact works.not_broken broken
  · have silent:=silent_append (Disarming.silent closes) plain.silent
    have read:=rest.shows inv.size silent (List.mem_append_right _ mem)
    exact differs (read.2.unique (during.restores writing size) read.1 size)
 | verified present _ _ writing =>
  obtain ⟨_,_,works⟩:=performsAll_append works
  obtain ⟨_,during,rest⟩:=performsAll_append works
  obtain rfl := Option.some.inj (present.symm.trans held.held)
  refine ⟨rfl,(during.restores writing size).undisturbed (rest.acts.undisturbed ?_)⟩
  simp [viewRead,ProcessCall.isWrite]

/-- Whatever has failed since, a rollback whose calls all work brings back the view as it was
 when the last attempt began. -/
theorem lived_rollback_restores {h : List (ProcessStep×Memory)} {s : ProcessSession}
 {m : Memory} (lived : Lived h s m) {a : ProcessStep} {origin : Memory}
 (since : Since (fun z => ¬ Supersedes z.1) h (a,origin)) (attempt : PastCheck a)
 {m₀ m' : Memory} (idle : Undisturbed s m m₀) {t : List ProcessEvent} {r : Result Unit}
 {s' : ProcessSession} (exec : s.rollback.Exec t (r,s')) (works : PerformsAll s m₀ t m') :
 r=.ok () ∧ ∀ i < s.working.length,s.byteAt m' i=s.byteAt origin i := by
 obtain ⟨saved,held⟩ := lived_held lived since attempt
 have waiting : Held s m₀ origin saved := held.keep (.refl s) rfl rfl rfl rfl idle
 obtain ⟨succeeds,shows⟩ := waiting.rollback_restores (run_invariant lived.run) exec works
 refine ⟨succeeds,fun i lt => ?_⟩
 exact Option.some.inj ((shows i lt).symm.trans (held.image i lt))

def sampleMemory (first : UInt8) : Memory := fun _ a=>if a=0x1000 then first else 2

lemma sampleMemory_shows {first:UInt8} (address:s.address=0x1000)
 (length:s.working.length=2) : Shows s (sampleMemory first) [first,2] := by
 intro i lt
 rw [length] at lt
 unfold byteAt
 rw [address]
 match i,lt with
 | 0,_ => rfl
 | 1,_ => rfl

lemma sampleApply_lived : Lived [(sampleLoad,sampleMemory 1),(sampleEdit,sampleMemory 1),
 (sampleApply,sampleMemory 1)] sampleApply.after (sampleMemory 9) := by
 have loading:ActsAll {} 7 (sampleMemory 1) sampleLoad.trace (sampleMemory 1):=by
  refine .cons (fun i _=>rfl) (.cons ⟨fun i _=>rfl,rfl⟩ (.cons ⟨fun i _=>rfl,?_⟩
   (.cons ⟨fun i _=>rfl,rfl⟩ (.nil _))))
  intro _ same _
  cases same
  exact sampleMemory_shows (s := sampleView) rfl rfl
 have loaded:=(Lived.nil (sampleMemory 1)).snoc sampleLoad rfl sampleLoad_valid
  (fun i _=>rfl) 7 loading
 have edited:=loaded.snoc sampleEdit rfl (.ret _) (fun i _=>rfl) 7 (.nil _)
 have read : Acts sampleEdit.after 7 (sampleMemory 1) ⟨.read 0x1000 2, .ok [1,2]⟩
  (sampleMemory 1) := by
  refine ⟨fun i _=>rfl,fun _ same _ => ?_⟩
  cases same
  exact sampleMemory_shows (s := sampleView) rfl rfl
 have written : Acts sampleEdit.after 7 (sampleMemory 1) ⟨.write 0x1000 [9], .error lostWrite⟩
  (sampleMemory 9) := by
  intro i lt
  match i,lt with
  | 0,_ => exact .inr ⟨rfl,0,rfl,rfl⟩
  | 1,_ => exact .inl rfl
 refine edited.snoc sampleApply rfl sampleApply_valid (fun i _=>rfl) 7 ?_
 exact .cons (fun i _=>rfl) (.cons (fun i _=>rfl) (.cons ⟨fun i _=>rfl,rfl⟩
  (.cons read (.cons (fun i _=>rfl) (.cons written
   (.cons (fun i _=>rfl) (.cons (fun i _=>rfl) (.nil _))))))))

lemma performs_silent (acts:Acts s s.pid m event m') (works:Working s event)
 (silent:event.call.isWrite=false) : Performs s m event m' := by
 refine ⟨acts,works,fun _ _ same => ?_⟩
 rw [same] at silent
 cases silent

end

def restoredMemory : Memory := fun _ a=>if a=0x1000 then 1 else if a=0x1001 then 2 else 7

lemma sampleRollback_works :
 PerformsAll sampleApply.after (sampleMemory 9) sampleRollback.trace restoredMemory := by
 have live : Acts sampleApply.after 7 (sampleMemory 9) ⟨.read 0x1000 2, .ok [9,2]⟩
  (sampleMemory 9) := by
  refine ⟨fun i _=>rfl,fun _ same _ => ?_⟩
  cases same
  exact sampleMemory_shows (s := sampleView) rfl rfl
 have readback : Acts sampleApply.after 7 restoredMemory ⟨.read 0x1000 2, .ok [1,2]⟩
  restoredMemory := by
  refine ⟨fun i _=>rfl,fun _ same _ k lt => ?_⟩
  cases same
  match k,lt with
  | 0,_ => rfl
  | 1,_ => rfl
 have written : Performs sampleApply.after (sampleMemory 9) ⟨.write 0x1000 [1,2], .ok 2⟩
  restoredMemory := by
  refine ⟨fun i lt => ?_,⟨2,rfl,rfl⟩,fun _ _ same i lt k place _ byte => ?_⟩
  · match i,lt with
    | 0,_ => exact .inr ⟨rfl,0,rfl,rfl⟩
    | 1,_ => exact .inr ⟨rfl,1,rfl,rfl⟩
  · cases same
    obtain rfl : k=i := Nat.add_left_cancel place
    match k,lt with
    | 0,_ => exact Option.some.inj byte
    | 1,_ => exact Option.some.inj byte
 exact .cons (performs_silent (fun i _=>rfl) rfl rfl)
  (.cons (performs_silent (fun i _=>rfl) rfl rfl)
  (.cons (performs_silent ⟨fun i _=>rfl,rfl⟩ rfl rfl)
  (.cons (performs_silent live ⟨_,rfl,rfl⟩ rfl)
  (.cons (performs_silent (fun i _=>rfl) rfl rfl) (.cons written
  (.cons (performs_silent (fun i _=>rfl) rfl rfl)
  (.cons (performs_silent (fun i _=>rfl) rfl rfl)
  (.cons (performs_silent readback ⟨_,rfl,rfl⟩ rfl) (.nil _)))))))))

theorem sampleRollback_restores : sampleRollback.result=.ok () ∧
 ∀ i<2,sampleApply.after.byteAt restoredMemory i =
  sampleApply.after.byteAt (sampleMemory 1) i :=
 lived_rollback_restores sampleApply_lived
  (.here _ [(sampleLoad,sampleMemory 1),(sampleEdit,sampleMemory 1)] _)
  ⟨rfl,List.mem_of_getElem? (i := 3) rfl⟩ (fun _ _=>rfl) sampleRollback_valid
  sampleRollback_works

end KDbg.ProcessSession
