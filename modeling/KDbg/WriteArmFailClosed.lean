import KDbg.ProcessSessionSteps
import KDbg.WatchList
set_option autoImplicit false
/-! The process write arm fails closed: what a trace says about the arm, and the
four operations that write through it. -/
namespace KDbg
open Interaction ProcessSession ProcessWriteArmGuard

def ProcessCall.isArm : ProcessCall→Bool
 | .setWritesArmed _ => true
 | _ => false

/-- What a call can make of the arm: a successful disarm ends it, and nothing but an arming call
 begins it. A write may use it up. -/
inductive ArmStep : Bool→ProcessEvent→Bool→Prop where
 | armed (before:Bool) : ArmStep before ⟨.setWritesArmed true, .ok ()⟩ true
 | unarmed (before after:Bool) (e:Error) :
  ArmStep before ⟨.setWritesArmed true, .error e⟩ after
 | disarmed (before:Bool) : ArmStep before ⟨.setWritesArmed false, .ok ()⟩ false
 | kept {before after:Bool} (event:ProcessEvent)
  (other:∀ armed,event≠⟨.setWritesArmed armed, .ok ()⟩)
  (calm:event.call≠.setWritesArmed true) (falls:after=true → before=true) :
  ArmStep before event after

inductive ArmRun : Bool→List ProcessEvent→Bool→Prop where
 | nil (armed:Bool) : ArmRun armed [] armed
 | cons {before between after:Bool} {event:ProcessEvent} {t:List ProcessEvent}
  (step:ArmStep before event between) (rest:ArmRun between t after) :
  ArmRun before (event::t) after

/-- Whether the arm that a write would use is one that no disarm has followed. -/
def usable (before : Bool) : ProcessEvent→Bool
 | ⟨.setWritesArmed true,answer⟩ => match (answer : Result Unit) with
  | .ok () => true
  | .error _ => before
 | ⟨.setWritesArmed false,_⟩ => false
 | _ => before

/-- Every write of the trace has a usable arm. -/
def Disciplined : Bool→List ProcessEvent→Prop
 | _,[] => True
 | before,event::t =>
  (event.call.isWrite=true → before=true) ∧ Disciplined (usable before event) t

def disarmed (answer : Result Unit) : ProcessEvent := ⟨.setWritesArmed false,answer⟩

/-- The trace of a call that leaves the arm closed if anything can close it. -/
structure ArmFailClosed (t : List ProcessEvent) (r : Result Unit) : Prop where
 asked : ∃ armed rest,t=⟨.writesArmed,armed⟩::rest
 unarmed : ∀ rest,t=⟨.writesArmed,false⟩::rest →
  ∀ event∈rest,event.call.isWrite=false ∧ event.call≠.setWritesArmed true
 lastDisarms : ∀ rest,t=⟨.writesArmed,true⟩::rest →
  ∃ answer,Since (fun event=>event.call.isArm=false) rest (disarmed answer)
 rearmed : ∀ u answer v address data written w,
  t=u++disarmed answer::(v++⟨.write address data,written⟩::w) →
   ⟨.setWritesArmed true, .ok ()⟩∈v
 staysArmed : ∀ before u v,t=u++v→ArmRun before t true →
  (∀ event∈v,event.call≠.setWritesArmed true) → ∀ answer,disarmed answer∈v →
   answer≠.ok ()
 proven : ∀ rest,t=⟨.writesArmed,true⟩::rest → r=.ok () →
  Since (fun event=>event.call.isWrite=false) rest (disarmed (.ok ()))

section Arm
variable {t u v:List ProcessEvent} {before after:Bool}

lemma armRun_append (h:ArmRun before (t++u) after) :
 ∃ between,ArmRun before t between ∧ ArmRun between u after := by
 induction t generalizing before with
 | nil => exact ⟨before, .nil before,h⟩
 | cons _ t ih =>
  cases h with
  | cons step rest =>
   obtain ⟨between,left,right⟩:=ih rest
   exact ⟨between, .cons step left,right⟩

lemma ArmStep.falls {event:ProcessEvent} (h:ArmStep before event after)
 (calm:event.call≠.setWritesArmed true) (on:after=true) : before=true := by
 cases h with
 | armed | unarmed => exact absurd rfl calm
 | disarmed => cases on
 | kept _ _ _ falls => exact falls on

lemma ArmRun.falls (h:ArmRun before t after)
 (calm:∀event∈t,event.call≠.setWritesArmed true) (on:after=true) :
 before=true := by
 induction h with
 | nil => exact on
 | cons step _ ih =>
  refine step.falls (calm _ List.mem_cons_self) (ih (fun event mem => ?_) on)
  exact calm event (List.mem_cons_of_mem _ mem)

/-- Without an arming call after it, a successful disarm is final. -/
lemma ArmRun.disarmed_fails (h:ArmRun before (t++u) true)
 (calm:∀event∈u,event.call≠.setWritesArmed true) {answer:Result Unit}
 (mem:disarmed answer∈u) : answer≠.ok () := by
 rintro rfl
 obtain ⟨v,w,rfl⟩:=List.append_of_mem mem
 rw [←List.append_assoc] at h
 obtain ⟨_,-,right⟩:=armRun_append h
 cases right with
 | cons step rest =>
  have open_:=rest.falls (fun event mem=>calm event (by simp [mem])) rfl
  subst open_
  cases step with
  | kept _ other => exact other false rfl

lemma disciplined_append : Disciplined before (t++u) ↔
 Disciplined before t ∧ Disciplined (t.foldl usable before) u := by
 induction t generalizing before with
 | nil => simp [Disciplined]
 | cons _ t ih =>
  rw [List.cons_append,Disciplined,Disciplined,ih,List.foldl_cons,and_assoc]

lemma usable_false {event:ProcessEvent} (other:event≠⟨.setWritesArmed true, .ok ()⟩) :
 usable false event=false := by
 obtain ⟨call,answer⟩:=event
 cases call with
 | setWritesArmed armed =>
  cases armed with
  | false => rfl
  | true =>
   cases answer with
   | error => rfl
   | ok => exact absurd rfl other
 | _ => rfl

lemma Disciplined.rearmed {event:ProcessEvent} {w:List ProcessEvent}
 (h:Disciplined false (v++event::w)) (write:event.call.isWrite=true) :
 ⟨.setWritesArmed true, .ok ()⟩∈v := by
 induction v with
 | nil => cases h.1 write
 | cons head v ih =>
  by_cases same:head=⟨.setWritesArmed true, .ok ()⟩
  · rw [same]
    exact List.mem_cons_self
  · rw [List.cons_append,Disciplined,usable_false same] at h
    exact List.mem_cons_of_mem _ (ih h.2)

end Arm

structure Winding (t : List ProcessEvent) : Prop where
 calm : ∀ event∈t,event.call.isWrite=false ∧ event.call≠.setWritesArmed true
 disarms : ∃ answer,disarmed answer∈t

section Traces
variable {t writes tail:List ProcessEvent} {r:Result Unit}

lemma disciplined_of_silent (silent:∀event∈t,event.call.isWrite=false) (before:Bool) :
 Disciplined before t := by
 induction t generalizing before with
 | nil => trivial
 | cons event t ih =>
  refine ⟨fun write => ?_,ih (fun z mem=>silent z (List.mem_cons_of_mem _ mem)) _⟩
  cases (silent event List.mem_cons_self).symm.trans write

lemma Winding.last (h:Winding t) :
 ∃ answer,Since (fun event=>event.call.isArm=false) t (disarmed answer) := by
 obtain ⟨answer,mem⟩:=h.disarms
 obtain ⟨event,arm,since⟩:=Since.exists_last (P := fun event : ProcessEvent =>
  event.call.isArm=true) ⟨disarmed answer,mem,rfl⟩
 obtain ⟨call,reply⟩:=event
 have calm:=(h.calm _ since.mem).2
 simp only [Bool.not_eq_true] at since
 cases call with
 | setWritesArmed armed =>
  cases armed with
  | false => exact ⟨reply,since⟩
  | true => exact absurd rfl calm
 | _ => cases arm

lemma ArmFailClosed.of_unarmed (plain:Plain tail) :
 ArmFailClosed (⟨.writesArmed,false⟩::tail) r where
 asked := ⟨false,tail,rfl⟩
 unarmed := by
  rintro _ ⟨⟩ event mem
  exact ⟨(plain event mem).1,(plain event mem).2 true⟩
 lastDisarms := by rintro _ ⟨⟩
 rearmed := by
  intro u answer v _ _ _ w split
  have mem:disarmed answer∈(⟨.writesArmed,false⟩ : ProcessEvent)::tail:=by
   rw [split]
   simp
  rcases List.mem_cons.1 mem with ⟨⟨⟩⟩|mem
  exact absurd rfl ((plain _ mem).2 false)
 staysArmed _ _ _ split run calm _ mem := (split ▸ run).disarmed_fails calm mem
 proven := by rintro _ ⟨⟩

/-- Writes with usable arms, and then calls that only disarm. -/
lemma ArmFailClosed.of_armed (disciplined:Disciplined true writes) (winding:Winding tail)
 (proven:r=.ok () → disarmed (.ok ())∈tail) :
 ArmFailClosed (⟨.writesArmed,true⟩::(writes++tail)) r where
 asked := ⟨true,writes++tail,rfl⟩
 unarmed := by rintro _ ⟨⟩
 lastDisarms := by
  rintro _ ⟨⟩
  obtain ⟨answer,since⟩:=winding.last
  exact ⟨answer,since.prepend writes⟩
 rearmed := by
  intro u _ v _ _ _ w split
  have whole : Disciplined true (⟨.writesArmed,true⟩::(writes++tail)) :=
   ⟨fun _=>rfl,disciplined_append.2 ⟨disciplined,
    disciplined_of_silent (fun event mem=>(winding.calm event mem).1) _⟩⟩
  rw [split] at whole
  have later:=(disciplined_append.1 whole).2.2
  exact Disciplined.rearmed later rfl
 staysArmed _ _ _ split run calm _ mem := (split ▸ run).disarmed_fails calm mem
 proven := by
  rintro _ ⟨⟩ ok
  obtain ⟨u,v,rfl⟩:=List.append_of_mem (proven ok)
  refine ⟨writes++u,v,by simp,fun event mem => ?_⟩
  exact (winding.calm event (by simp [mem])).1

/-- A trace whose writes have their own arms. -/
def SelfArmed (t : List ProcessEvent) : Prop := ∀ before,Disciplined before t

lemma SelfArmed.append {u:List ProcessEvent} (h:SelfArmed t) (h':SelfArmed u) :
 SelfArmed (t++u) :=
 fun before=>disciplined_append.2 ⟨h before,h' _⟩

lemma selfArmed_of_plain (h:Plain t) : SelfArmed t :=
 disciplined_of_silent fun event mem=>(h event mem).1

lemma ArmedWrite.selfArmed {address:UInt64} {data:List UInt8}
 (h:ArmedWrite address data t r) : SelfArmed t := by
 intro _
 cases h <;> simp [Disciplined,usable,ProcessCall.isWrite]

lemma selfArmed_of_runsWritten {address:UInt64} {runs:List DiffRun}
 (h:RunsWritten address runs t r) : SelfArmed t := by
 induction h with
 | done => exact fun _=>trivial
 | stopped write => exact write.selfArmed
 | next write _ ih => exact write.selfArmed.append ih

lemma Winding.append_plain {last:List ProcessEvent} (h:Winding t) (plain:Plain last) :
 Winding (t++last) := by
 refine ⟨fun event mem => ?_,?_⟩
 · rcases List.mem_append.1 mem with mem|mem
   · exact h.calm event mem
   · exact ⟨(plain event mem).1,(plain event mem).2 true⟩
 · obtain ⟨answer,mem⟩:=h.disarms
   exact ⟨answer,List.mem_append_left _ mem⟩

def Disarms (t : List ProcessEvent) : Prop := ∀ event∈t,∃ answer,event=disarmed answer

lemma disarms_nil : Disarms [] := by simp [Disarms]

lemma Disarms.cons (h:Disarms t) (answer:Result Unit) : Disarms (disarmed answer::t) := by
 intro event mem
 rcases List.mem_cons.1 mem with same|mem
 · exact ⟨answer,same⟩
 · exact h event mem

lemma Disarms.silent (h:Disarms t) : ∀event∈t,event.call.isWrite=false := by
 intro event mem
 obtain ⟨_,rfl⟩:=h event mem
 rfl

lemma Disarms.calm (h:Disarms t) :
 ∀event∈t,event.call.isWrite=false ∧ event.call≠.setWritesArmed true := by
 intro event mem
 obtain ⟨_,rfl⟩:=h event mem
 exact ⟨rfl,by rintro ⟨⟩⟩

lemma Disarms.winding (h:Disarms t) (answer:Result Unit) : Winding (disarmed answer::t) :=
 ⟨(h.cons answer).calm,answer,List.mem_cons_self⟩

lemma Winding.append_disarms {last:List ProcessEvent} (h:Winding t) (h':Disarms last) :
 Winding (t++last) := by
 obtain ⟨answer,mem⟩:=h.disarms
 refine ⟨fun event mem => ?_,answer,List.mem_append_left _ mem⟩
 rcases List.mem_append.1 mem with mem|mem
 · exact h.calm event mem
 · exact h'.calm event mem

lemma winding_of_disarming (h:Disarming true t r) : Winding t := by
 cases h with
 | disarmed => exact disarms_nil.winding _
 | failed e again => exact (disarms_nil.cons again).winding _

end Traces

namespace ProcessSession
variable {s s':ProcessSession} {t:List ProcessEvent} {r:Result Unit}

lemma failClosed_of_stopped {armed:Bool} {checks closing:List ProcessEvent}
 {closed:Result Unit} {e:Error} (plain:Plain checks)
 (closes:Disarming armed closing closed) :
 ArmFailClosed (⟨.writesArmed,armed⟩::(checks++closing)) (.error e) := by
 cases armed with
 | false =>
  cases closes
  exact .of_unarmed (by simpa using plain)
 | true =>
  exact .of_armed (selfArmed_of_plain plain true) (winding_of_disarming closes) (by rintro ⟨⟩)

lemma plain_preflight (live:List UInt8) : Plain (s.preflight live).tail :=
 .cons ⟨rfl,by rintro _ ⟨⟩⟩ (.cons ⟨rfl,by rintro _ ⟨⟩⟩ (.cons ⟨rfl,by rintro _ ⟨⟩⟩ plain_nil))

lemma failClosed_of_preflight {live:List UInt8} {writes tail:List ProcessEvent}
 (writing:SelfArmed writes) (winding:Winding tail)
 (proven:r=.ok () → disarmed (.ok ())∈tail) :
 ArmFailClosed (s.preflight live++(writes++tail)) r := by
 have calls:=(selfArmed_of_plain (plain_preflight (s := s) live)).append writing
 have exit:=ArmFailClosed.of_armed (calls true) winding proven
 exact exit

lemma ApplyExit.failClosed (h:ApplyExit s t r s') : ArmFailClosed t r := by
 cases h with
 | stopped e plain _ closes => exact failClosed_of_stopped plain closes
 | failed e _ _ writing closes plain =>
  exact failClosed_of_preflight (selfArmed_of_runsWritten writing)
   ((winding_of_disarming closes).append_plain plain) (by rintro ⟨⟩)
 | verified _ _ writing =>
  refine failClosed_of_preflight (selfArmed_of_runsWritten writing) ?_ (by simp [disarmed])
  exact (winding_of_disarming .disarmed).append_plain (.cons ⟨rfl,by rintro _ ⟨⟩⟩ plain_nil)

lemma RollbackExit.failClosed (h:RollbackExit s t r s') : ArmFailClosed t r := by
 cases h with
 | stopped e plain closes => exact failClosed_of_stopped plain closes
 | failed e _ _ _ writing closes plain =>
  exact failClosed_of_preflight writing.selfArmed
   ((winding_of_disarming closes).append_plain plain) (by rintro ⟨⟩)
 | verified _ _ _ writing =>
  refine failClosed_of_preflight writing.selfArmed ?_ (by simp [disarmed])
  exact (winding_of_disarming .disarmed).append_plain (.cons ⟨rfl,by rintro _ ⟨⟩⟩ plain_nil)

end ProcessSession

/-- The calls of a guard after the last write, and of nothing else if it was never armed. -/
structure Wound (armed : Bool) (tail : List ProcessEvent) (r : Result Unit) : Prop where
 idle : armed=false → tail=[]
 winding : armed=true→Winding tail
 proven : armed=true → r=.ok () → disarmed (.ok ())∈tail

lemma Wound.failClosed {armed:Bool} {checks tail:List ProcessEvent} {r:Result Unit}
 (h:Wound armed tail r) (plain:Plain checks) :
 ArmFailClosed (⟨.writesArmed,armed⟩::(checks++tail)) r := by
 cases armed with
 | false =>
  rw [h.idle rfl,List.append_nil]
  exact .of_unarmed plain
 | true => exact .of_armed (selfArmed_of_plain plain true) (h.winding rfl) (h.proven rfl)

/-- Another guard may disarm in between. -/
lemma Wound.insert {t u between:List ProcessEvent} {r:Result Unit} (h:Wound true (t++u) r)
 (disarms:Disarms between) : Wound true (t++(between++u)) r := by
 have winding:=h.winding rfl
 have larger (event:ProcessEvent) (mem:event∈t++u) : event∈t++(between++u) := by
  rcases List.mem_append.1 mem with mem|mem <;> simp [mem]
 refine ⟨by rintro ⟨⟩,fun _=>⟨fun event mem => ?_,?_⟩,fun _ ok => ?_⟩
 · simp only [List.mem_append] at mem
   rcases mem with mem|mem|mem
   · exact winding.calm event (by simp [mem])
   · exact disarms.calm event mem
   · exact winding.calm event (by simp [mem])
 · obtain ⟨answer,mem⟩:=winding.disarms
   exact ⟨answer,larger _ mem⟩
 · exact larger _ (h.proven rfl ok)

lemma destroy_disarms {guard:ProcessWriteArmGuard} {t:List ProcessEvent}
 (h:guard.destroy.Exec t ()) : Disarms t := by
 cases armed:guard.armed with
 | false =>
  rw [destroy_disarmed_exec armed h]
  exact disarms_nil
 | true =>
  obtain ⟨again,rfl⟩:=destroy_armed_exec armed h
  exact disarms_nil.cons again

namespace WatchList
variable {list list':WatchList} {t u:List ProcessEvent} {r:Result Unit}
 {guard after:ProcessWriteArmGuard}

lemma disarm_exec (h:(WatchList.disarm guard).Exec t (r,after)) :
 (guard.armed=false ∧ t=[] ∧ r=.ok () ∧ after=guard) ∨
  (guard.armed=true ∧ t=[disarmed (.ok ())] ∧ r=.ok ()) ∨
  (guard.armed=true ∧ ∃ e e' again,t=[disarmed (.error e),disarmed again] ∧
   r=.error e') := by
 unfold WatchList.disarm at h
 split at h
 · rename_i unarmed
   obtain ⟨rfl,same⟩:=h.of_pure
   cases same
   exact .inl ⟨by simpa using unarmed,rfl,rfl,rfl⟩
 · rename_i armed
   have on:guard.armed=true:=by simpa using armed
   obtain ⟨closed,v,rfl,hv⟩:=h.of_ask
   cases closed with
   | ok =>
    obtain ⟨rfl,rfl,-⟩:=hv.of_pure_prod
    exact .inr (.inl ⟨on,rfl,rfl⟩)
   | error e =>
    obtain ⟨again,w,rfl,hw⟩:=hv.of_ask
    cases again with
    | ok | error =>
     obtain ⟨rfl,rfl,-⟩:=hw.of_pure_prod
     exact .inr (.inr ⟨on,e,_,_,rfl,rfl⟩)

lemma disarm_wound (h:(WatchList.disarm guard).Exec t (r,after)) : Wound guard.armed t r := by
 rcases disarm_exec h with ⟨off,rfl,-,-⟩|⟨on,rfl,-⟩|⟨on,e,_,again,rfl,rfl⟩
 · rw [off]
   exact ⟨fun _=>rfl,by rintro ⟨⟩,by rintro ⟨⟩⟩
 · rw [on]
   exact ⟨by rintro ⟨⟩,fun _=>disarms_nil.winding _,fun _ _=>List.mem_cons_self⟩
 · rw [on]
   exact ⟨by rintro ⟨⟩,fun _=>(disarms_nil.cons again).winding _,by rintro-⟨⟩⟩

/-- A guard that has nothing to disarm stays silent to its end. -/
lemma disarm_idle (h:(WatchList.disarm guard).Exec t (r,after))
 (destroyed:after.destroy.Exec u ()) (off:guard.armed=false) : u=[] := by
 rcases disarm_exec h with ⟨-,-,-,rfl⟩|⟨on,-⟩|⟨on,-⟩
 · exact destroy_disarmed_exec off destroyed
 · cases off.symm.trans on
 · cases off.symm.trans on

/-- A disarm, calls that neither arm nor write, and the destructor. -/
lemma wound_of_disarm {between:List ProcessEvent} (outcome:Result Unit)
 (h:(WatchList.disarm guard).Exec t (r,after)) (plain:Plain between)
 (silent:guard.armed=false → between=[])
 (destroyed:after.destroy.Exec u ()) :
 Wound guard.armed (t++(between++u)) (r.bind fun _=>outcome) := by
 have wound:=disarm_wound h
 refine ⟨fun off => ?_,fun on => ?_,fun on ok => ?_⟩
 · rw [wound.idle off,silent off,disarm_idle h destroyed off]
   rfl
 · rw [←List.append_assoc]
   exact ((wound.winding on).append_plain plain).append_disarms (destroy_disarms destroyed)
 · obtain ⟨⟨⟩,disarmed,-⟩:=Fallible.exists_of_bind ok
   exact List.mem_append_left _ (wound.proven on disarmed)

lemma finish_wound {outcome:Result Unit}
 (h:(finish guard list outcome).Exec t ((r,list'),after))
 (destroyed:after.destroy.Exec u ()) : Wound guard.armed (t++u) r := by
 obtain ⟨v,⟨_,_⟩,w,rfl,hv,hw⟩:=h.of_bind
 obtain ⟨rfl,same⟩:=hw.of_pure
 cases same
 rw [List.append_nil]
 exact wound_of_disarm outcome hv plain_nil (fun _=>rfl) destroyed

lemma plain_read (address:UInt64) (length:UInt32) (answer:Result (List UInt8)) :
 Plain [⟨.read address length,answer⟩] :=
 .cons ⟨rfl,by rintro _ ⟨⟩⟩ plain_nil

lemma writeEntry_failClosed {library:FloatingText} {entry:WatchEntry}
 {put:WatchEntry→WatchList} {text:List UInt8}
 (h:(writeEntry library list entry put text guard).Exec t ((r,list'),after))
 (destroyed:after.destroy.Exec u ()) :
 ArmFailClosed (⟨.writesArmed,guard.armed⟩::(t++u)) r := by
 unfold writeEntry at h
 split at h
 · exact (finish_wound h destroyed).failClosed plain_nil
 rename_i encoded _
 split at h
 · exact (finish_wound h destroyed).failClosed plain_nil
 rename_i armed
 have on:guard.armed=true:=by simpa using armed
 obtain ⟨before,v,rfl,hv⟩:=h.of_ask
 -- a way out before the write
 have stopped {begun:WatchList} {outcome:Result Unit}
  (hf:(finish guard begun outcome).Exec v ((r,list'),after)) :
  ArmFailClosed (⟨.writesArmed,guard.armed⟩ ::
   (⟨.read entry.address (UInt32.ofNat encoded.length),before⟩::v++u)) r :=
  (finish_wound hf destroyed).failClosed (plain_read _ _ _)
 cases before with
 | error => exact stopped hv
 | ok before =>
  dsimp only at hv
  split at hv
  · exact stopped hv
  split at hv
  · exact stopped hv
  obtain ⟨written,w,rfl,hw⟩:=hv.of_ask
  have disciplined : Disciplined true
   [⟨.read entry.address (UInt32.ofNat encoded.length), .ok before⟩,
    ⟨.write entry.address encoded,written⟩] :=
   ⟨fun _=>rfl,fun _=>rfl,trivial⟩
  -- a way out after it
  have ended {tail:List ProcessEvent} (wound:Wound guard.armed tail r) :
   ArmFailClosed (⟨.writesArmed,guard.armed⟩ ::
    (⟨.read entry.address (UInt32.ofNat encoded.length), .ok before⟩ ::
     ⟨.write entry.address encoded,written⟩::tail)) r := by
   have exit:=ArmFailClosed.of_armed disciplined (wound.winding on) (wound.proven on)
   rw [on]
   exact exit
  cases written with
  | error => exact ended (finish_wound hw destroyed)
  | ok count =>
   dsimp only at hw
   split at hw
   · exact ended (finish_wound hw destroyed)
   obtain ⟨x,⟨closed,guard'⟩,y,rfl,hx,hy⟩:=hw.of_bind
   obtain ⟨readback,z,rfl,hz⟩:=hy.of_ask
   -- every outcome of the read-back is reported the same way
   have reported {outcome:Result Unit} {shown:WatchEntry}
    (hp:(pure (((closed.bind fun _=>outcome),put shown),guard') :
     ProcessM _).Exec z ((r,list'),after)) :
    ArmFailClosed (⟨.writesArmed,guard.armed⟩ ::
     (⟨.read entry.address (UInt32.ofNat encoded.length), .ok before⟩ ::
      ⟨.write entry.address encoded, .ok count⟩::(x ++
       (⟨.read entry.address (UInt32.ofNat encoded.length),readback⟩::z))++u)) r := by
    obtain ⟨rfl,same⟩:=hp.of_pure
    cases same
    have wound:=wound_of_disarm outcome hx
     (plain_read entry.address (UInt32.ofNat encoded.length) readback)
     (fun off=>by cases off.symm.trans on) destroyed
    simpa using ended wound
   cases readback with
   | error => exact reported hz
   | ok =>
    dsimp only at hz
    split at hz
    · exact reported hz
    split at hz
    · exact reported hz
    · exact reported hz

lemma writeValue_failClosed {library:FloatingText} {id:UInt64} {text:List UInt8}
 (h:(writeValue library list id text).Exec t (r,list')) : ArmFailClosed t r := by
 obtain ⟨_,u,rfl,hu⟩:=h.of_ask
 obtain ⟨v,_,w,rfl,hv,destroyed⟩:=withGuard_exec hu
 split at hv
 · exact (finish_wound hv destroyed).failClosed plain_nil
 · exact writeEntry_failClosed hv destroyed

lemma disarm_disarms (h:(WatchList.disarm guard).Exec t (r,after)) : Disarms t := by
 rcases disarm_exec h with ⟨-,rfl,-,-⟩|⟨-,rfl,-⟩|⟨-,e,_,_,rfl,-⟩
 · exact disarms_nil
 · exact disarms_nil.cons _
 · exact (disarms_nil.cons _).cons _

lemma endTurn_disarms {entry entry':WatchEntry} {failed:Bool} {turn:FreezeTurn}
 (h:(endTurn r guard entry failed).Exec t (turn,entry')) : Disarms t := by
 cases r with
 | error =>
  obtain ⟨rfl,-⟩:=h.of_pure
  exact disarms_nil
 | ok =>
  obtain ⟨u,⟨⟩,v,rfl,hu,hv⟩:=h.of_bind
  obtain ⟨rfl,-⟩:=hv.of_pure
  rw [List.append_nil]
  exact destroy_disarms hu

lemma selfArmed_write {address:UInt64} {data:List UInt8} {written:Result UInt32}
 (silent:∀event∈t,event.call.isWrite=false) :
 SelfArmed (⟨.setWritesArmed true, .ok ()⟩::⟨.write address data,written⟩::t) :=
 fun _=>⟨by rintro ⟨⟩,fun _=>rfl,disciplined_of_silent silent _⟩

lemma freezeEntry_selfArmed {entry entry':WatchEntry} {turn:FreezeTurn}
 (h:(freezeEntry entry).Exec t (turn,entry')) : SelfArmed t := by
 have done {u:List ProcessEvent} {value:FreezeTurn×WatchEntry}
  (hp:(pure value:ProcessM _).Exec u (turn,entry')) : SelfArmed u := by
  obtain ⟨rfl,-⟩:=hp.of_pure
  exact selfArmed_of_plain plain_nil
 unfold freezeEntry at h
 dsimp only at h
 split at h
 · exact done h
 split at h
 · exact done h
 obtain ⟨before,u,rfl,hu⟩:=h.of_ask
 refine (selfArmed_of_plain (plain_read _ _ _)).append ?_
 cases before with
 | error => exact done hu
 | ok =>
 dsimp only at hu
 split at hu
 · exact done hu
 obtain ⟨expected,v,rfl,hv⟩:=hu.of_ask
 refine (selfArmed_of_plain (plain_read _ _ _)).append ?_
 cases expected with
 | error => exact done hv
 | ok =>
 dsimp only at hv
 split at hv
 · exact done hv
 split at hv
 · exact done hv
 obtain ⟨armed,w,rfl,hw⟩:=hv.of_ask
 cases armed with
 | error =>
  obtain ⟨rfl,-⟩:=hw.of_pure
  exact fun _=>⟨by rintro ⟨⟩,trivial⟩
 | ok =>
 obtain ⟨written,x,rfl,hx⟩:=hw.of_ask
 obtain ⟨y,⟨_,_⟩,z,rfl,hy,hz⟩:=hx.of_bind
 refine selfArmed_write fun event mem => ?_
 rcases List.mem_append.1 mem with mem|mem
 · exact (disarm_disarms hy).silent event mem
 cases written with
 | error => exact (endTurn_disarms hz).silent event mem
 | ok =>
 dsimp only at hz
 split at hz
 · exact (endTurn_disarms hz).silent event mem
 obtain ⟨readback,_,rfl,hlast⟩:=hz.of_ask
 rcases List.mem_cons.1 mem with rfl|later
 · rfl
 cases readback with
 | error => exact (endTurn_disarms hlast).silent event later
 | ok =>
 dsimp only at hlast
 split at hlast
 · exact (endTurn_disarms hlast).silent event later
 split at hlast
 · exact (endTurn_disarms hlast).silent event later
 · exact (endTurn_disarms hlast).silent event later

lemma freezeEntries_selfArmed {entries entries':List WatchEntry}
 {outcome:Except (Error×ProcessWriteArmGuard) ℕ}
 (h:(freezeEntries entries).Exec t (outcome,entries')) : SelfArmed t := by
 induction entries generalizing t outcome entries' with
 | nil =>
  obtain ⟨rfl,-⟩:=h.of_pure
  exact selfArmed_of_plain plain_nil
 | cons _ _ ih =>
  obtain ⟨u,⟨turn,_⟩,v,rfl,hu,hv⟩:=h.of_bind
  refine (freezeEntry_selfArmed hu).append ?_
  cases turn with
  | stop =>
   obtain ⟨rfl,-⟩:=hv.of_pure
   exact selfArmed_of_plain plain_nil
  | next =>
   obtain ⟨w,⟨_,_⟩,x,rfl,hw,hx⟩:=hv.of_bind
   obtain ⟨rfl,-⟩:=hx.of_pure
   rw [List.append_nil]
   exact ih hw

lemma freezeTick_failClosed (h:(freezeTick list).Exec t (r,list')) : ArmFailClosed t r := by
 obtain ⟨armed,u,rfl,hu⟩:=h.of_ask
 obtain ⟨v,_,w,rfl,hv,destroyed⟩:=withGuard_exec hu
 cases armed with
 | false => exact (finish_wound hv destroyed).failClosed plain_nil
 | true =>
  obtain ⟨x,⟨outcome,_⟩,y,rfl,hx,hy⟩:=hv.of_bind
  have disciplined:=freezeEntries_selfArmed hx true
  rw [List.append_assoc]
  cases outcome with
  | ok =>
   have wound:=finish_wound hy destroyed
   exact .of_armed disciplined (wound.winding rfl) (wound.proven rfl)
  | error stopped =>
   obtain ⟨z,⟨⟨_,_⟩,_⟩,_,rfl,hz,hlast⟩:=hy.of_bind
   obtain ⟨_,⟨⟩,_,rfl,hended,hrest⟩:=hlast.of_bind
   obtain ⟨rfl,same⟩:=hrest.of_pure
   cases same
   have wound:=(finish_wound hz destroyed).insert (destroy_disarms hended)
   rw [List.append_nil,List.append_assoc]
   exact .of_armed disciplined (wound.winding rfl) (wound.proven rfl)

end WatchList

/-- Whatever the process memory answers, the four operations that write through the arm leave it
 closed if anything can close it. -/
theorem process_write_arm_fail_closed (library : FloatingText) :
 (∀ h s t r s',ProcessSession.machine.Run h s → s.applyAndVerify.Exec t (r,s') →
  ArmFailClosed t r) ∧
  (∀ h s t r s',ProcessSession.machine.Run h s → s.rollback.Exec t (r,s') →
   ArmFailClosed t r) ∧
  (∀ (list : WatchList) id text t r list',(list.writeValue library id text).Exec t (r,list') →
   ArmFailClosed t r) ∧
  (∀ (list : WatchList) t r list',list.freezeTick.Exec t (r,list')→ArmFailClosed t r) := by
 refine ⟨fun h s t r _ run call => ?_,fun h s t r _ run call => ?_,
  fun _ _ _ t r _ call => ?_,fun _ t r _ call => ?_⟩
 · exact (apply_exit (run_invariant run) call).failClosed
 · exact (rollback_exit (run_invariant run) call).failClosed
 · exact WatchList.writeValue_failClosed call
 · exact WatchList.freezeTick_failClosed call

namespace WatchList

def sampleFrozen : WatchList :=
 { entries := [{ id := 1,address := 0x1000,type := .uint8,frozen := true,value := [1],
                 frozenValue := [2] }],nextId := 2 }

def sampleTick : List ProcessEvent :=
 [⟨.writesArmed,true⟩,⟨.read 0x1000 1, .ok [1]⟩,⟨.read 0x1000 1, .ok [1]⟩,
  ⟨.setWritesArmed true, .ok ()⟩,⟨.write 0x1000 [2], .ok 1⟩,disarmed (.error lostWrite),
  disarmed (.ok ()),⟨.read 0x1000 1, .ok [2]⟩,disarmed (.ok ())]

lemma sampleTick_exec : ∃ e list,sampleFrozen.freezeTick.Exec sampleTick (.error e,list) :=
 ⟨_,_, .call _ (.call _ (.call _ (.call _ (.call _ (.call _ (.call _ (.call _ (.call _
  (.ret _)))))))))⟩

theorem sampleTick_failClosed : ∃ e,ArmFailClosed sampleTick (.error e) := by
 obtain ⟨e,_,call⟩ := sampleTick_exec
 exact ⟨e,(process_write_arm_fail_closed ⟨fun _=>none,fun _=>none⟩).2.2.2 _ _ _ _ call⟩

end WatchList

end KDbg
