import KDbg.PageSessionInvariant
import KDbg.VerifiedWriter
set_option autoImplicit false
/-!
The write gate is fail-closed. A gate obeys the answers it gives: a successful
request sets it, a failed one leaves it or sets it, and no other call opens it.
-/
namespace KDbg
open Interaction

inductive GateStep : Bool→BackendEvent→Bool→Prop where
 | set {before enabled:Bool} : GateStep before ⟨.setWriteEnabled enabled, .ok ()⟩ enabled
 | failed {before enabled after:Bool} {e:Error} (moved:after=before ∨ after=enabled) :
  GateStep before ⟨.setWriteEnabled enabled, .error e⟩ after
 | other {before after:Bool} {event:BackendEvent} (call:event.call.isGate=false)
  (shut:after=true → before=true) : GateStep before event after

inductive GateRun : Bool→List BackendEvent→Bool→Prop where
 | nil {gate:Bool} : GateRun gate [] gate
 | cons {before middle after:Bool} {event:BackendEvent} {t:List BackendEvent}
  (step:GateStep before event middle) (rest:GateRun middle t after) :
  GateRun before (event::t) after

variable {t:List BackendEvent}

lemma gateRun_append {before after:Bool} {u:List BackendEvent}
 (h:GateRun before (t++u) after) :
 ∃ middle,GateRun before t middle ∧ GateRun middle u after := by
 induction t generalizing before with
 | nil => exact ⟨before, .nil,h⟩
 | cons _ t ih =>
  cases h with
  | cons step rest =>
   obtain ⟨middle,first,second⟩:=ih rest
   exact ⟨middle, .cons step first,second⟩

lemma GateStep.closed {event:BackendEvent} {after:Bool} (step:GateStep false event after)
 (quiet:event.call≠.setWriteEnabled true) : after=false := by
 cases step with
 | set => simpa using quiet
 | failed moved =>
  rcases moved with rfl|rfl
  · rfl
  · simpa using quiet
 | other _ shut => simpa using shut

/-- Without an enabling call a closed gate stays closed. -/
lemma gateRun_closed {after:Bool} (h:GateRun false t after)
 (quiet:∀event∈t,event.call≠.setWriteEnabled true) : after=false := by
 induction t with
 | nil =>
  cases h
  rfl
 | cons event t ih =>
  cases h with
  | cons step rest =>
   rw [step.closed (quiet event (by simp))] at rest
   exact ih rest fun z mem=>quiet z (by simp [mem])

/-- A disabling call that succeeds leaves the gate closed if nothing opens it afterwards. -/
lemma gateRun_disabled {before after:Bool} {u:List BackendEvent}
 (h:GateRun before (t++⟨.setWriteEnabled false, .ok ()⟩::u) after)
 (quiet:∀event∈u,event.call≠.setWriteEnabled true) : after=false := by
 obtain ⟨_,-,rest⟩:=gateRun_append h
 cases rest with
 | cons step rest =>
  cases step with
  | set => exact gateRun_closed rest quiet
  | other call => cases call

/-- What the trace of an operation owes to the gate. -/
structure FailClosed (t : List BackendEvent) (succeeded : Bool) : Prop where
 single : (t.filter fun event=>event.call.isWrite).length≤1
 enabled : ∀ (k : ℕ) (w : BackendEvent),t[k]?=some w → w.call.isWrite=true →
  ∃ j : ℕ,j < k ∧ t[j]?=some ⟨.setWriteEnabled true, .ok ()⟩
 last : ∀ (k : ℕ) (event : BackendEvent),t[k]?=some event → event.call.isGate=true →
  (∀ (j : ℕ) (z : BackendEvent),k < j → t[j]?=some z → z.call.isGate=false) →
  event.call=.setWriteEnabled false
 success : succeeded=true → ∃ (k j : ℕ) (w : BackendEvent),k < j ∧ t[k]?=some w ∧
  w.call.isWrite=true ∧ t[j]?=some ⟨.setWriteEnabled false, .ok ()⟩
 gate : ∀ after,GateRun false t after → after=true →
  ∃ past opened later,t=past++⟨.setWriteEnabled true,opened⟩::later ∧
   (∀ z∈later,z.call≠.setWriteEnabled true) ∧
   ∀ answer,⟨.setWriteEnabled false,answer⟩∈later → ∃ e,answer=.error e

def Plain (t : List BackendEvent) : Prop :=
 ∀ event∈t,event.call.isWrite=false ∧ event.call.isGate=false

lemma plain_nil : Plain [] := by
 simp [Plain]

lemma Plain.ne_enable (plain:Plain t) {enabled:Bool} :
 ∀event∈t,event.call≠.setWriteEnabled enabled := by
 intro event mem same
 have call:=(plain event mem).2
 rw [same] at call
 cases call

lemma Plain.filter_isWrite (plain:Plain t) :
 (t.filter fun event=>event.call.isWrite)=[] := by
 simpa [List.filter_eq_nil_iff] using fun event mem=>(plain event mem).1

lemma getElem?_split {α:Type} {first last:List α} {a x:α} {k:ℕ}
 (h:(first++a::last)[k]?=some x) :
 (k < first.length ∧ x∈first) ∨ (k=first.length ∧ x=a) ∨
  (first.length < k ∧ x∈last) := by
 rcases lt_trichotomy k first.length with hk|rfl|hk
 · rw [List.getElem?_append_left hk] at h
   exact .inl ⟨hk,List.mem_of_getElem? h⟩
 · rw [List.getElem?_append_right le_rfl,Nat.sub_self] at h
   exact .inr (.inl ⟨rfl,(Option.some.inj h).symm⟩)
 · obtain ⟨m,rfl⟩ : ∃ m,k=first.length+(m+1) := ⟨k-first.length-1,by omega⟩
   rw [List.getElem?_append_right (by omega),Nat.add_sub_cancel_left] at h
   exact .inr (.inr ⟨hk,List.mem_of_getElem? h⟩)

/-- A disabling call with no gate request after it is the last one. -/
lemma last_disable (first last:List BackendEvent) (answer:Result Unit)
 (split:t=first++⟨.setWriteEnabled false,answer⟩::last)
 (quiet:∀event∈last,event.call.isGate=false) (k:ℕ) (event:BackendEvent)
 (hk:t[k]?=some event) (gate:event.call.isGate=true)
 (final:∀(j:ℕ) (z:BackendEvent),k < j → t[j]?=some z → z.call.isGate=false) :
 event.call=.setWriteEnabled false := by
 subst split
 rcases getElem?_split hk with ⟨hlt,-⟩|⟨-,rfl⟩|⟨-,mem⟩
 · cases final first.length ⟨.setWriteEnabled false,answer⟩ hlt (by simp)
 · rfl
 · rw [quiet event mem] at gate
   cases gate

/-- The shapes of a trace around the gate: untouched, refused, or one write inside it. -/
inductive Gated : List BackendEvent→Bool→Prop where
 | untouched {t:List BackendEvent} (plain:Plain t) : Gated t false
 | refused {first gate:List BackendEvent} {e:Error} (plain:Plain first)
  (opening:WriteGateGuard.Opening gate (.error e)) : Gated (first++gate) false
 | written {first closing last:List BackendEvent} {w:BackendEvent} {closed:Result Unit}
  {succeeded:Bool} (before:Plain first) (write:w.call.isWrite=true)
  (closes:WriteGateGuard.Closing closing closed) (after:Plain last)
  (shut:succeeded=true → closed=.ok ()) :
  Gated (first++⟨.setWriteEnabled true, .ok ()⟩::w::(closing++last)) succeeded

lemma failClosed_untouched (plain:Plain t) : FailClosed t false where
 single := by simp [plain.filter_isWrite]
 enabled := by
  intro k w hk write
  rw [(plain w (List.mem_of_getElem? hk)).1] at write
  cases write
 last := by
  intro k event hk gate
  rw [(plain event (List.mem_of_getElem? hk)).2] at gate
  cases gate
 success := by simp
 gate := by
  intro _ run opened
  rw [gateRun_closed run plain.ne_enable] at opened
  cases opened

lemma failClosed_refused {first:List BackendEvent} (plain:Plain first) (e:Error)
 (closed:Result Unit) :
 FailClosed (first++[⟨.setWriteEnabled true, .error e⟩,⟨.setWriteEnabled false,closed⟩])
  false where
 single := by simp [List.filter_append,plain.filter_isWrite]
 enabled := by
  intro k w hk write
  rcases getElem?_split hk with ⟨-,mem⟩|⟨-,rfl⟩|⟨-,mem⟩
  · rw [(plain w mem).1] at write
    cases write
  · cases write
  · rw [List.mem_singleton.1 mem] at write
    cases write
 last := last_disable (first++[⟨.setWriteEnabled true, .error e⟩]) [] closed (by simp) (by simp)
 success := by simp
 gate := by
  intro _ run opened
  refine ⟨first, .error e,_,rfl,by simp,fun _ mem => ?_⟩
  cases List.mem_singleton.1 mem
  cases closed with
  | error c => exact ⟨c,rfl⟩
  | ok =>
   have shut:=gateRun_disabled (t := first++[⟨.setWriteEnabled true, .error e⟩])
    (by simpa using run) (by simp)
   rw [shut] at opened
   cases opened

lemma failClosed_written {first rest:List BackendEvent} {w:BackendEvent} {succeeded:Bool}
 (before:Plain first) (write:w.call.isWrite=true)
 (still:∀event∈rest,event.call.isWrite=false ∧ event.call≠.setWriteEnabled true)
 (last:∃ middle answer after,rest=middle++⟨.setWriteEnabled false,answer⟩::after ∧
  ∀event∈after,event.call.isGate=false)
 (shut:succeeded=true→⟨.setWriteEnabled false, .ok ()⟩∈rest)
 (disabled:∀answer,⟨.setWriteEnabled false,answer⟩∈rest →
  (∃ e,answer=.error e) ∨ ⟨.setWriteEnabled false, .ok ()⟩∈rest) :
 FailClosed (first++⟨.setWriteEnabled true, .ok ()⟩::w::rest) succeeded where
 single := by
  have quiet:(rest.filter fun event=>event.call.isWrite)=[]:=by
   simpa [List.filter_eq_nil_iff] using fun event mem=>(still event mem).1
  simp [List.filter_append,before.filter_isWrite,quiet,write]
 enabled := by
  intro k event hk hwrite
  rcases getElem?_split hk with ⟨-,mem⟩|⟨-,rfl⟩|⟨hlt,-⟩
  · rw [(before event mem).1] at hwrite
    cases hwrite
  · cases hwrite
  · exact ⟨first.length,hlt,by simp⟩
 last := by
  obtain ⟨middle,answer,after,rfl,quiet⟩:=last
  exact last_disable (first++⟨.setWriteEnabled true, .ok ()⟩::w::middle) after answer
   (by simp) quiet
 success := by
  intro succeeds
  obtain ⟨m,hm⟩:=List.mem_iff_getElem?.1 (shut succeeds)
  refine ⟨first.length+1,first.length+(m+2),w,by omega,?_,write,?_⟩
  · rw [List.getElem?_append_right (by omega),Nat.add_sub_cancel_left]
    rfl
  · rw [List.getElem?_append_right (by omega),Nat.add_sub_cancel_left]
    exact hm
 gate := by
  intro _ run opened
  have quiet:∀z∈w::rest,z.call≠.setWriteEnabled true:=by
   intro z mem same
   rcases List.mem_cons.1 mem with rfl|mem
   · rw [same] at write
     cases write
   · exact (still z mem).2 same
  refine ⟨first, .ok (),w::rest,rfl,quiet,fun answer mem => ?_⟩
  rcases List.mem_cons.1 mem with same|mem
  · rw [←same] at write
    cases write
  · rcases disabled answer mem with failed|closed
    · exact failed
    · obtain ⟨middle,later,rfl⟩:=List.append_of_mem closed
      have shut:=gateRun_disabled
       (t := first++⟨.setWriteEnabled true, .ok ()⟩::w::middle)
       (by simpa using run) fun z mem=>quiet z (by simp [mem])
      rw [shut] at opened
      cases opened

lemma Closing.calls {closing:List BackendEvent} {closed:Result Unit}
 (closes:WriteGateGuard.Closing closing closed) :
 ∀event∈closing,event.call=.setWriteEnabled false := by
 cases closes <;> simp

lemma Gated.failClosed {succeeded:Bool} (h:Gated t succeeded) : FailClosed t succeeded := by
 cases h with
 | untouched plain => exact failClosed_untouched plain
 | refused plain opening =>
  cases opening with
  | refused e closed => exact failClosed_refused plain e closed
 | @written _ closing last w closed _ before write closes after shut =>
  have still : ∀event∈closing++last,
   event.call.isWrite=false ∧ event.call≠.setWriteEnabled true := by
   intro event mem
   rcases List.mem_append.1 mem with mem|mem
   · rw [Closing.calls closes event mem]
     simp
   · exact ⟨(after event mem).1,after.ne_enable event mem⟩
  have quiet:∀event∈last,event.call.isGate=false:=fun event mem=>(after event mem).2
  cases closes with
  | closed =>
   exact failClosed_written before write still ⟨[], .ok (),last,rfl,quiet⟩ (by simp)
    fun _ _ => .inr (by simp)
  | failed e again =>
   refine failClosed_written before write still ⟨[⟨.setWriteEnabled false, .error e⟩],again,
    last,rfl,quiet⟩ (fun succeeds=>by cases shut succeeds) fun _ mem => ?_
   simp only [List.cons_append,List.nil_append,List.mem_cons] at mem
   rcases mem with same|same|mem
   · cases same
     exact .inl ⟨e,rfl⟩
   · cases same
     cases again with
     | ok => exact .inr (by simp)
     | error c => exact .inl ⟨c,rfl⟩
   · exact (after.ne_enable _ mem rfl).elim

namespace PageSession

lemma plain_ranges (ranges:Result (List PhysicalRange)) :
 Plain [⟨.getPhysicalRanges,ranges⟩] := by
 simp [Plain,BackendCall.isWrite,BackendCall.isGate]

lemma gated_transaction {target:PhysicalWriteTarget} {expected desired:Page}
 {ranges:Result (List PhysicalRange)} {answer:Result PhysicalPageCompareWriteResult}
 {closing:List BackendEvent} {closed:Result Unit} {succeeded:Bool}
 (closes:WriteGateGuard.Closing closing closed) (shut:succeeded=true → closed=.ok ()) :
 Gated (transactionTrace target expected desired ranges answer closing) succeeded := by
 have gated:=Gated.written (plain_ranges ranges)
  (w := ⟨.compareWritePhysicalPage target.address.physicalAddress expected desired,answer⟩) rfl
  closes plain_nil shut
 rwa [List.append_nil] at gated

lemma gated_of_exit {s s':PageSession} {t:List BackendEvent} {r:Result Unit}
 (h:ApplyExit s t r s' ∨ RollbackExit s t r s') : Gated t r.isOk := by
 rcases h with h|h <;> cases h with
 | refused => exact .untouched plain_nil
 | rejected _ ranges => exact .untouched (plain_ranges ranges)
 | gateRefused _ ranges _ _ e opening =>
  exact .refused (plain_ranges ranges) opening
 | transacted _ _ _ _ _ _ closes settled =>
  refine gated_transaction closes fun succeeds => ?_
  cases settled with
  | lost | unverified => cases succeeds
  | verified => rfl

end PageSession

namespace VerifiedWriter

lemma plain_read (pid:UInt32) (address:UInt64) (length:UInt32)
 (bytes:Result (List UInt8)) : Plain [⟨.readProcessVirtual pid address length,bytes⟩] := by
 simp [Plain,BackendCall.isWrite,BackendCall.isGate]

lemma WriteExit.gated {space:MemorySpace} {address:UInt64} {data:List UInt8}
 {expectedBefore:Option (List UInt8)} {t:List BackendEvent}
 {r:Result VerifiedWriteResult} (h:WriteExit space address data expectedBefore t r) :
 Gated t r.isOk := by
 have written (bytes:Result (List UInt8)) (count:Result UInt32)
  {closing last:List BackendEvent} {closed:Result Unit} {succeeded:Bool}
  (closes:WriteGateGuard.Closing closing closed) (after:Plain last)
  (shut:succeeded=true → closed=.ok ()) :
  Gated (⟨.readProcessVirtual space.pid address (UInt32.ofNat data.length),bytes⟩ ::
   ⟨.setWriteEnabled true, .ok ()⟩ ::
   ⟨.writeProcessVirtual space.pid address data,count⟩::(closing++last)) succeeded :=
  .written (plain_read _ _ _ bytes) rfl closes after shut
 cases h with
 | rejected => exact .untouched plain_nil
 | unread bytes => exact .untouched (plain_read _ _ _ bytes)
 | refused bytes _ e r opening => exact .refused (plain_read _ _ _ bytes) opening
 | failed bytes count _ _ e closes =>
  have gated:=written bytes count closes plain_nil (fun h:false=true=>nomatch h)
  rwa [List.append_nil] at gated
 | unverified bytes count readback =>
  exact written bytes count .closed (plain_read _ _ _ readback) (by simp)
 | verified before count =>
  exact written (.ok before) (.ok count) .closed (plain_read _ _ _ (.ok data)) fun _=>rfl

end VerifiedWriter

/-- Both page transactions and the verified process write leave the gate as they must. -/
theorem write_gate_fail_closed :
 (∀ (s s' : PageSession) (t : List BackendEvent) (r : Result Unit),
  s.applyAndVerify.Exec t (r,s')→FailClosed t r.isOk) ∧
 (∀ (s s' : PageSession) (t : List BackendEvent) (r : Result Unit),
  s.rollbackBaseline.Exec t (r,s')→FailClosed t r.isOk) ∧
 ∀ (token : VerifiedWriteArmToken) (space : MemorySpace) (address : UInt64)
  (data : List UInt8) (expectedBefore : Option (List UInt8)) (t : List BackendEvent)
  (r : Result VerifiedWriteResult),
  (VerifiedWriter.write token space address data expectedBefore).Exec t r →
   FailClosed t r.isOk :=
 ⟨fun _ _ _ _ exec=>(PageSession.gated_of_exit (.inl (PageSession.apply_exit exec))).failClosed,
  fun _ _ _ _ exec=>(PageSession.gated_of_exit (.inr (PageSession.rollback_exit exec))).failClosed,
  fun _ _ _ _ _ _ _ exec=>(VerifiedWriter.write_exit exec).gated.failClosed⟩

theorem sampleTransactions_fail_closed :
 (∀ e,FailClosed (PageSession.transactionTrace PageSession.sampleTarget
  PageSession.sampleUnlocked.baseline PageSession.sampleUnlocked.working
  PageSession.sampleRanges (.error e)
  [⟨.setWriteEnabled false, .error e⟩,⟨.setWriteEnabled false, .ok ()⟩]) false) ∧
 (∀ (before after : Page) (e : Error),FailClosed (PageSession.transactionTrace
  PageSession.sampleTarget after before PageSession.sampleRanges (.error e)
  [⟨.setWriteEnabled false, .ok ()⟩]) false) ∧
 FailClosed [⟨.readProcessVirtual 7 0x1000 1, .ok [0x90]⟩,⟨.setWriteEnabled true, .ok ()⟩,
  ⟨.writeProcessVirtual 7 0x1000 [0xCC], .ok 1⟩,⟨.setWriteEnabled false, .ok ()⟩,
  ⟨.readProcessVirtual 7 0x1000 1, .ok [0xCC]⟩] true := by
 refine ⟨fun e => ?_,fun before after e => ?_,?_⟩
 · exact write_gate_fail_closed.1 _ _ _ _
    (PageSession.apply_exec PageSession.sampleUnlocked_ready PageSession.sampleRanges_verdict
     (.error e) (.failed e (.ok ())))
 · have ready : PageSession.RollbackReady
    { target := some PageSession.sampleTarget,rollbackSnapshot := some before,
      rollbackExpected := some after,writeUnlocked := true }
    PageSession.sampleTarget before after := ⟨rfl,rfl,rfl,rfl⟩
   exact write_gate_fail_closed.2.1 _ _ _ _
    (PageSession.rollback_exec ready PageSession.sampleRanges_verdict (.error e) .closed)
 · have room : (0x1000 : UInt64) ≤ maxUInt64-1 := by decide
   have accepted : VerifiedWriter.argumentError (.ofPid 7) { kind := .processVirtual,pid := 7 }
    0x1000 [0xCC] (some [0x90])=none := by
    simp [VerifiedWriter.argumentError,VerifiedWriteArmToken.consume,
     VerifiedWriteArmToken.ofPid,VerifiedWriter.kMaxWriteLength,room]
   exact write_gate_fail_closed.2.2 _ _ _ _ _ _ _ (VerifiedWriter.write_verified accepted rfl rfl)

end KDbg
