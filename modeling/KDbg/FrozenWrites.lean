import KDbg.AddressListInvariant
import KDbg.WriteArmFailClosed
set_option autoImplicit false
/-! What a freeze tick of either list writes: to each frozen entry at most once, its frozen value,
where the entry is, after reading it in full. The trace of a tick is cut into one part for each
entry of the list, in order. -/
namespace KDbg
open Interaction Prog

lemma Disarms.append {t u:List ProcessEvent} (h:Disarms t) (h':Disarms u) :
 Disarms (t++u) := by
 intro event member
 rcases List.mem_append.1 member with member|member
 · exact h event member
 · exact h' event member

namespace WatchList

def wholeRead (entry : WatchEntry) (answer : Result (List UInt8)) : ProcessEvent :=
 ⟨.read entry.address (UInt32.ofNat (fixedValueWidth entry.type)),answer⟩

def readBack (entry : WatchEntry) (answer : Result (List UInt8)) : ProcessEvent :=
 ⟨.read entry.address (UInt32.ofNat entry.frozenValue.length),answer⟩

/-- The calls of a tick for one entry, and whether the entry is as it should be after them: it is
 not frozen, or the last read of it has given its frozen value. -/
inductive EntryTick (entry:WatchEntry) : List ProcessEvent→Bool→Prop where
 | thawed (thawed:entry.frozen=false) : EntryTick entry [] true
 | unwritten {t:List ProcessEvent} (silent:∀ event∈t,event.call.isWrite=false) :
  EntryTick entry t false
 | written {bytes:List UInt8} {last:List ProcessEvent} (frozen:entry.frozen=true)
  (full:bytes.length=fixedValueWidth entry.type) (written:Result UInt32)
  (silent:∀ event∈last,event.call.isWrite=false) :
  EntryTick entry (wholeRead entry (.ok bytes)::wholeRead entry (.ok bytes) ::
   ⟨.setWritesArmed true, .ok ()⟩::⟨.write entry.address entry.frozenValue,written⟩ ::
   last) false
 | verified {bytes:List UInt8} {closing last:List ProcessEvent} (frozen:entry.frozen=true)
  (full:bytes.length=fixedValueWidth entry.type) (written:Result UInt32)
  (closes:Disarms closing) (ends:Disarms last) :
  EntryTick entry (wholeRead entry (.ok bytes)::wholeRead entry (.ok bytes) ::
   ⟨.setWritesArmed true, .ok ()⟩::⟨.write entry.address entry.frozenValue,written⟩ ::
   (closing++readBack entry (.ok entry.frozenValue)::last)) true

section Entry
variable {entry entry':WatchEntry} {t:List ProcessEvent} {turn:FreezeTurn}

lemma endTurn_passed {closed:Result Unit} {guard:ProcessWriteArmGuard} {failed:Bool}
 (h:(endTurn closed guard entry failed).Exec t (turn,entry')) :
 Disarms t ∧ (turn=.next false → failed=false) := by
 refine ⟨endTurn_disarms h,fun passed => ?_⟩
 cases closed with
 | error e =>
  obtain ⟨-,rfl,-⟩:=h.of_pure_prod
  cases passed
 | ok =>
  obtain ⟨u,⟨⟩,v,rfl,-,hv⟩:=h.of_bind
  obtain ⟨-,rfl,-⟩:=hv.of_pure_prod
  cases passed
  rfl

lemma freezeEntry_tick (h:(freezeEntry entry).Exec t (turn,entry')) :
 ∃ good,EntryTick entry t good ∧ (turn=.next false → good=true) := by
 unfold freezeEntry at h
 dsimp only at h
 split at h
 · rename_i thawed
   obtain ⟨rfl,-⟩:=h.of_pure
   exact ⟨true, .thawed (by simpa using thawed),fun _=>rfl⟩
 rename_i frozen
 have frozen:entry.frozen=true:=by simpa using frozen
 -- a way out that counts as a failure and has only read
 have stopped {u:List ProcessEvent} {entry'':WatchEntry}
  (reads:∀event∈u,event.call.isWrite=false)
  {v:List ProcessEvent} (hv:(pure (.next true,entry'') : ProcessM _).Exec v (turn,entry')) :
  ∃ good,EntryTick entry (u++v) good ∧ (turn=.next false → good=true) := by
  obtain ⟨rfl,rfl,-⟩:=hv.of_pure_prod
  exact ⟨false, .unwritten (by simpa using reads),fun passed=>by cases passed⟩
 split at h
 · exact stopped (u := []) (by simp) h
 obtain ⟨before,u,rfl,hu⟩:=h.of_ask
 have reads:∀event∈[wholeRead entry before],event.call.isWrite=false:=by
  simp [wholeRead,ProcessCall.isWrite]
 cases before with
 | error e => exact stopped reads hu
 | ok before =>
 dsimp only at hu
 split at hu
 · exact stopped reads hu
 rename_i full
 obtain ⟨expected,v,rfl,hv⟩:=hu.of_ask
 have reads : ∀event∈[wholeRead entry (.ok before),wholeRead entry expected],
  event.call.isWrite=false := by
  simp [wholeRead,ProcessCall.isWrite]
 cases expected with
 | error e => exact stopped reads hv
 | ok expected =>
 dsimp only at hv
 split at hv
 · exact stopped reads hv
 split at hv
 · exact stopped reads hv
 rename_i same
 obtain rfl := not_not.1 same
 obtain ⟨armed,w,rfl,hw⟩:=hv.of_ask
 cases armed with
 | error e =>
  have calls : ∀event∈[wholeRead entry (.ok expected),wholeRead entry (.ok expected),
   ⟨.setWritesArmed true, .error e⟩],event.call.isWrite=false := by
   simp [wholeRead,ProcessCall.isWrite]
  exact stopped calls hw
 | ok =>
 obtain ⟨written,x,rfl,hx⟩:=hw.of_ask
 obtain ⟨y,⟨_,_⟩,z,rfl,hy,hz⟩:=hx.of_bind
 have closes:=disarm_disarms hy
 -- a way out after the write that counts as a failure
 have failed {last:List ProcessEvent} (passed:turn=.next false → true=false)
  (silent:∀event∈last,event.call.isWrite=false) :
  ∃ good,EntryTick entry (wholeRead entry (.ok expected)::wholeRead entry (.ok expected) ::
   ⟨.setWritesArmed true, .ok ()⟩::⟨.write entry.address entry.frozenValue,written⟩ ::
   (y++last)) good ∧ (turn=.next false → good=true) := by
  refine ⟨false, .written frozen (not_not.1 full) written fun event member => ?_,
   fun now=>by cases passed now⟩
  rcases List.mem_append.1 member with member|member
  · exact closes.silent event member
  · exact silent event member
 cases written with
 | error e =>
  obtain ⟨ends,passed⟩:=endTurn_passed hz
  exact failed passed ends.silent
 | ok =>
 dsimp only at hz
 split at hz
 · obtain ⟨ends,passed⟩:=endTurn_passed hz
   exact failed passed ends.silent
 obtain ⟨readback,_,rfl,hlast⟩:=hz.of_ask
 have after {w:List ProcessEvent} (ends:Disarms w) :
  ∀event∈readBack entry readback::w,event.call.isWrite=false := by
  intro event member
  rcases List.mem_cons.1 member with rfl|member
  · rfl
  · exact ends.silent event member
 cases readback with
 | error e =>
  obtain ⟨ends,passed⟩:=endTurn_passed hlast
  exact failed passed (after ends)
 | ok =>
 dsimp only at hlast
 split at hlast
 · obtain ⟨ends,passed⟩:=endTurn_passed hlast
   exact failed passed (after ends)
 split at hlast
 · obtain ⟨ends,passed⟩:=endTurn_passed hlast
   exact failed passed (after ends)
 · rename_i equal
   obtain rfl := not_not.1 equal
   exact ⟨true, .verified frozen (not_not.1 full) _ closes (endTurn_passed hlast).1,fun _=>rfl⟩

end Entry

def EntryTicks (entries : List WatchEntry) (segments : List (List ProcessEvent×Bool)) : Prop :=
 List.Forall₂ (fun entry segment=>EntryTick entry segment.1 segment.2) entries segments

lemma untouched (entries:List WatchEntry) :
 ∃ segments,EntryTicks entries segments ∧ (segments.map (·.1)).flatten=[] := by
 induction entries with
 | nil => exact ⟨[], .nil,rfl⟩
 | cons _ _ ih =>
  obtain ⟨segments,ticks,empty⟩:=ih
  exact ⟨([],false)::segments, .cons (.unwritten (by simp)) ticks,empty⟩

lemma freezeEntries_ticks {entries entries':List WatchEntry} {t:List ProcessEvent}
 {r:Except (Error×ProcessWriteArmGuard) ℕ}
 (h:(freezeEntries entries).Exec t (r,entries')) :
 ∃ segments,EntryTicks entries segments ∧ t=(segments.map (·.1)).flatten ∧
  (r=.ok 0 → ∀segment∈segments,segment.2=true) := by
 induction entries generalizing t r entries' with
 | nil =>
  obtain ⟨rfl,-⟩:=h.of_pure
  exact ⟨[], .nil,rfl,by simp⟩
 | cons _ entries ih =>
  obtain ⟨u,⟨turn,_⟩,v,rfl,hu,hv⟩:=h.of_bind
  obtain ⟨good,tick,passed⟩:=freezeEntry_tick hu
  cases turn with
  | stop =>
   -- the entries that the loop does not reach have no calls
   obtain ⟨rfl,rfl,-⟩:=hv.of_pure_prod
   obtain ⟨segments,ticks,empty⟩:=untouched entries
   exact ⟨(u,good)::segments, .cons tick ticks,by simp [empty],
    fun done=>(nomatch done)⟩
  | next failed =>
   obtain ⟨w,⟨failures,_⟩,x,rfl,hw,hx⟩:=hv.of_bind
   obtain ⟨rfl,rfl,-⟩:=hx.of_pure_prod
   obtain ⟨segments,ticks,rfl,all⟩:=ih hw
   refine ⟨(u,good)::segments, .cons tick ticks,by simp,fun done => ?_⟩
   cases failures with
   | error e => cases done
   | ok count =>
    have none:count+(if failed then 1 else 0)=0:=by
     simpa [Except.map] using done
    have zero:count=0:=by omega
    have calm:failed=false:=by
     cases failed with
     | false => rfl
     | true => simp at none
    intro segment member
    rcases List.mem_cons.1 member with rfl|member
    · exact passed (by rw [calm])
    · exact all (by rw [zero]) segment member

def TickFrame (list : WatchList) (t : List ProcessEvent) (r : Result Unit×WatchList) : Prop :=
 ∃ armed segments closing,t=⟨.writesArmed,armed⟩::((segments.map (·.1)).flatten++closing) ∧
  EntryTicks list.entries segments ∧ Disarms closing ∧
  (r.1=.ok ()→(∃ entry∈list.entries,entry.frozen=true) →
   ∀ segment∈segments,segment.2=true)

lemma finish_disarms {guard after:ProcessWriteArmGuard} {list list':WatchList}
 {outcome r:Result Unit} {t:List ProcessEvent}
 (h:(finish guard list outcome).Exec t ((r,list'),after)) :
 Disarms t ∧ (r=.ok () → outcome=.ok ()) := by
 obtain ⟨u,⟨closed,_⟩,v,rfl,hu,hv⟩:=h.of_bind
 obtain ⟨rfl,same,-⟩:=hv.of_pure_prod
 cases same
 refine ⟨by simpa using disarm_disarms hu,fun ok => ?_⟩
 cases closed with
 | error e => cases ok
 | ok => exact ok

lemma freezeTick_frame (list:WatchList) : list.freezeTick.Ensures (TickFrame list) := by
 intro t ⟨r,list'⟩ h
 obtain ⟨armed,u,rfl,hu⟩:=h.of_ask
 obtain ⟨v,_,w,rfl,hv,destroyed⟩:=ProcessWriteArmGuard.withGuard_exec hu
 have ends:=destroy_disarms destroyed
 split at hv
 · obtain ⟨closes,succeeds⟩:=finish_disarms hv
   obtain ⟨segments,ticks,empty⟩:=untouched list.entries
   refine ⟨armed,segments,v++w,by rw [empty];rfl,ticks,closes.append ends,
    fun ok some => ?_⟩
   have refused:=succeeds ok
   rw [if_pos (by simpa using some)] at refused
   cases refused
 · obtain ⟨x,⟨failures,_⟩,y,rfl,hx,hy⟩:=hv.of_bind
   obtain ⟨segments,ticks,rfl,all⟩:=freezeEntries_ticks hx
   cases failures with
   | error e =>
    obtain ⟨z,⟨_,_⟩,x,rfl,hz,hx⟩:=hy.of_bind
    obtain ⟨y,⟨⟩,_,rfl,released,hlast⟩:=hx.of_bind
    obtain ⟨rfl,same⟩:=hlast.of_pure
    cases same
    obtain ⟨closes,succeeds⟩:=finish_disarms hz
    refine ⟨armed,segments,z++(y++w),by simp,ticks,
     closes.append ((destroy_disarms released).append ends),fun ok _ => ?_⟩
    cases succeeds ok
   | ok =>
    obtain ⟨closes,succeeds⟩:=finish_disarms hy
    refine ⟨armed,segments,y++w,by simp,ticks,closes.append ends,fun ok _ => ?_⟩
    have none:=succeeds ok
    split at none
    · cases none
    · rename_i zero
      exact all (by rw [not_not.1 zero])

end WatchList

def WriteFree (t : List BackendEvent) : Prop := ∀ event∈t,event.call.isWrite=false

lemma writeFree_nil : WriteFree [] := by simp [WriteFree]

lemma WriteFree.append {t u:List BackendEvent} (h:WriteFree t) (h':WriteFree u) :
 WriteFree (t++u) := by
 intro event member
 rcases List.mem_append.1 member with member|member
 · exact h event member
 · exact h' event member

lemma writeFree_ask {call:BackendCall} (quiet:call.isWrite=false) :
 (Prog.ask call : BackendM (BackendAnswer call)).Ensures fun t _=>WriteFree t := by
 intro t r h
 obtain ⟨_,u,rfl,hu⟩:=h.of_call
 obtain ⟨rfl,-⟩:=hu.of_ret
 simpa [WriteFree] using quiet

lemma readMemory_silent (space:MemorySpace) (address:UInt64) (length:UInt32) :
 (readMemory space address length).Ensures fun t _=>WriteFree t := by
 unfold readMemory
 split
 · exact writeFree_ask rfl
 · split
   · exact ensures_pure writeFree_nil
   · exact writeFree_ask rfl
 · exact writeFree_ask rfl

lemma readMemory_process {space:MemorySpace} {address:UInt64} {length:UInt32}
 {bytes:List UInt8} {t:List BackendEvent} (process:space.kind=.processVirtual)
 (h:(readMemory space address length).Exec t (.ok bytes)) :
 t=[⟨.readProcessVirtual space.pid address length, .ok bytes⟩] := by
 rw [readMemory,process] at h
 dsimp only at h
 split at h
 · cases h.of_pure.2
 · obtain ⟨_,u,rfl,hu⟩:=h.of_call
   obtain ⟨rfl,rfl⟩:=hu.of_ret
   rfl

lemma PointerResolver.follow_silent (path:AddressPointerPath) (current:UInt64)
 (offsets:List Int64) : (follow path current offsets).Ensures fun t _=>WriteFree t := by
 fun_induction follow path current offsets with
 | case1 => exact ensures_pure writeFree_nil
 | case2 => exact ensures_pure writeFree_nil
 | case3 _ offset _ _ ih =>
  refine ensures_bind (readMemory_silent _ _ _) fun t read silent => ?_
  have done {r:Result UInt64} :
   (pure r:BackendM _).Ensures fun u (_:Result UInt64)=>WriteFree (t++u) :=
   ensures_pure (by simpa using silent)
  cases read with
  | error e => exact done
  | ok bytes =>
   dsimp only
   split
   · exact done
   split
   · exact done
   cases addOffset "Pointer-path offset" path (UInt64.ofNat (ofLittleEndian bytes)) offset with
   | error e => exact done
   | ok next => exact fun u r ran=>silent.append (ih next u r ran)

lemma PointerResolver.resolve_silent (path:AddressPointerPath) :
 (resolve path).Ensures fun t _=>WriteFree t := by
 unfold resolve
 repeat' split
 all_goals first
  | exact ensures_pure writeFree_nil
  | exact follow_silent _ _ _

/-- The write of a verified write, if it gets to one. -/
lemma VerifiedWriter.WriteExit.frame {space:MemorySpace} {address:UInt64} {data:List UInt8}
 {expected:Option (List UInt8)} {t:List BackendEvent} {r:Result VerifiedWriteResult}
 (h:WriteExit space address data expected t r) :
 WriteFree t ∨ ∃ opening written closing,
  t=opening++⟨.writeProcessVirtual space.pid address data,written⟩::closing ∧
  WriteFree opening ∧ WriteFree closing := by
 cases h with
 | rejected e => exact .inl writeFree_nil
 | unread _ e => exact .inl (by simp [WriteFree,BackendCall.isWrite])
 | refused _ _ e r opening =>
  cases opening
  exact .inl (by simp [WriteFree,BackendCall.isWrite])
 | failed _ written closing _ e closes =>
  refine .inr ⟨[_,_],written,closing,rfl,by simp [WriteFree,BackendCall.isWrite],?_⟩
  cases closes <;> simp [WriteFree,BackendCall.isWrite]
 | unverified _ written _ e =>
  exact .inr ⟨[_,_],written,[_,_],rfl,by simp [WriteFree,BackendCall.isWrite],
   by simp [WriteFree,BackendCall.isWrite]⟩
 | verified _ written =>
  exact .inr ⟨[_,_], .ok written,[_,_],rfl,by simp [WriteFree,BackendCall.isWrite],
   by simp [WriteFree,BackendCall.isWrite]⟩

namespace AddressList

lemma resolveAddress_silent (entry:AddressEntry) :
 (resolveAddress entry).Ensures fun t _=>WriteFree t := by
 unfold resolveAddress
 split
 · exact ensures_pure writeFree_nil
 · rename_i path _
   refine ensures_bind (PointerResolver.resolve_silent path) fun t r silent => ?_
   have done {answer:Result UInt64×AddressEntry} :
    (pure answer:BackendM _).Ensures fun u (_:Result UInt64×AddressEntry) =>
     WriteFree (t++u) :=
    ensures_pure (by simpa using silent)
   cases r <;> exact done

/-- The process a tick may write in. -/
structure Confirmed (list : AddressList) (token : VerifiedWriteArmToken) (pid : UInt32) : Prop where
 first : list.confirmedPid=some pid
 armed : (token.consume pid).1=true

/-- The calls of a tick for one entry: at most one of them changes memory. -/
inductive EntryTick (list:AddressList) (token:VerifiedWriteArmToken) (entry:AddressEntry) :
 List BackendEvent→Prop where
 | unwritten {t:List BackendEvent} (silent:WriteFree t) : EntryTick list token entry t
 | written {pid:UInt32} {address:UInt64} {resolved:AddressEntry} {before:List UInt8}
  {resolving opening closing:List BackendEvent} (written:Result UInt32)
  (confirmed:Confirmed list token pid) (frozen:entry.frozen=true)
  (process:entry.space.kind=.processVirtual) (same:entry.space.pid=pid)
  (resolves:(resolveAddress entry).Exec resolving (.ok address,resolved))
  (full:before.length=entry.width.toNat)
  (resolvingSilent:WriteFree resolving) (openingSilent:WriteFree opening)
  (closingSilent:WriteFree closing) :
  EntryTick list token entry (resolving ++
   ⟨.readProcessVirtual pid address entry.width.toUInt32, .ok before⟩ ::
   (opening++⟨.writeProcessVirtual pid address entry.freezeValue,written⟩::closing))

section Entry
variable {list:AddressList} {token:VerifiedWriteArmToken} {pid:UInt32}

lemma requireProcessWrite_process {entry:AddressEntry} {context:String}
 (h:requireProcessWrite entry context=.ok ()) : entry.space.kind=.processVirtual := by
 rw [requireProcessWrite,Result.seq_eq_ok] at h
 exact not_not.1 (Result.check_eq_ok.1 h.2)

lemma freezeEntry_tick (confirmed:Confirmed list token pid) (entry:AddressEntry) :
 (freezeEntry pid entry).Ensures fun t r =>
  EntryTick list token entry t ∧ (r.2=.skipped ↔ entry.frozen=false) := by
 intro t r h
 unfold freezeEntry at h
 dsimp only at h
 split at h
 · rename_i thawed
   obtain ⟨rfl,rfl⟩:=h.of_pure
   exact ⟨.unwritten writeFree_nil,by simpa using thawed⟩
 rename_i frozen
 have frozen:entry.frozen=true:=by simpa using frozen
 -- a way out without a write
 have failed {u v:List BackendEvent} {entry':AddressEntry} (silent:WriteFree u)
  (hv:(pure (entry', .failed) : BackendM _).Exec v r) :
  EntryTick list token entry (u++v) ∧ (r.2=.skipped ↔ entry.frozen=false) := by
  obtain ⟨rfl,rfl⟩:=hv.of_pure
  exact ⟨.unwritten (by simpa using silent),by simp [frozen]⟩
 cases required:requireProcessWrite entry "AddressList::TickFreeze" with
 | error e =>
  rw [required] at h
  exact failed writeFree_nil h
 | ok =>
 have process:=requireProcessWrite_process required
 rw [required] at h
 obtain ⟨u,⟨resolved,entry'⟩,v,rfl,hu,hv⟩:=h.of_bind
 have resolving:=resolveAddress_silent entry u _ hu
 have kept:=(resolveAddress_resolved entry u _ hu).entry
 cases resolved with
 | error e => exact failed resolving hv
 | ok address =>
 dsimp only at hv kept
 have space:entry'.space=entry.space:=by rw [kept]
 have width:entry'.width=entry.width:=by rw [kept]
 have value:entry'.freezeValue=entry.freezeValue:=by rw [kept]
 rw [space,width,value] at hv
 split at hv
 · exact failed resolving hv
 rename_i same
 have same:entry.space.pid=pid:=not_not.1 same
 obtain ⟨w,read,x,rfl,hw,hx⟩:=hv.of_bind
 have reading:=resolving.append (readMemory_silent _ _ _ w _ hw)
 rw [←List.append_assoc]
 cases read with
 | error e => exact failed reading hx
 | ok before =>
 dsimp only at hx
 split at hx
 · exact failed reading hx
 rename_i full
 cases armed:VerifiedWriter.armProcessWrite pid with
 | error e =>
  rw [armed] at hx
  exact failed reading hx
 | ok =>
 rw [armed] at hx
 obtain ⟨y,wrote,z,rfl,hy,hz⟩:=hx.of_bind
 have ended:z=[] ∧ (r.2=.skipped ↔ entry.frozen=false):=by
  cases wrote with
  | error e | ok =>
   obtain ⟨rfl,rfl⟩:=hz.of_pure
   exact ⟨rfl,by simp [frozen]⟩
 obtain ⟨rfl,counted⟩:=ended
 refine ⟨?_,counted⟩
 rw [List.append_nil]
 rcases (VerifiedWriter.write_exit hy).frame with
  silent | ⟨_,written,_,rfl,openingSilent,closingSilent⟩
 · exact .unwritten (reading.append silent)
 · have read:w=[⟨.readProcessVirtual pid address entry.width.toUInt32, .ok before⟩]:=by
    rw [←same]
    exact readMemory_process process hw
   rw [read,List.append_assoc,same]
   exact .written written confirmed frozen process same hu (not_not.1 full) resolving
    openingSilent closingSilent

end Entry

structure TickFrame (list : AddressList) (token : VerifiedWriteArmToken) (t : List BackendEvent)
 (r : Result FreezeSummary×AddressList) : Prop where
 calls : ∃ segments : List (List BackendEvent),t=segments.flatten ∧
  List.Forall₂ (EntryTick list token) list.entries segments
 counted : ∀ summary,r.1=.ok summary →
  summary.verified+summary.failed=list.entries.countP (·.frozen)

lemma untouched (list:AddressList) (token:VerifiedWriteArmToken)
 (entries:List AddressEntry) :
 ∃ segments : List (List BackendEvent),[]=segments.flatten ∧
  List.Forall₂ (EntryTick list token) entries segments := by
 induction entries with
 | nil => exact ⟨[],rfl, .nil⟩
 | cons _ _ ih =>
  obtain ⟨segments,empty,ticks⟩:=ih
  exact ⟨[]::segments,empty, .cons (.unwritten writeFree_nil) ticks⟩

lemma freezeEntries_ticks {list:AddressList} {token:VerifiedWriteArmToken} {pid:UInt32}
 (confirmed:Confirmed list token pid) (entries:List AddressEntry) :
 (freezeEntries pid entries).Ensures fun t r =>
  (∃ segments : List (List BackendEvent),t=segments.flatten ∧
   List.Forall₂ (EntryTick list token) entries segments) ∧
  r.2.verified+r.2.failed=entries.countP (·.frozen) := by
 induction entries with
 | nil => exact ensures_pure ⟨⟨[],rfl, .nil⟩,rfl⟩
 | cons entry entries ih =>
  refine ensures_bind (freezeEntry_tick confirmed entry) fun u r tick => ?_
  obtain ⟨_,turn⟩:=r
  obtain ⟨tick,skipped⟩:=tick
  refine ensures_bind ih fun v r rest => ?_
  obtain ⟨⟨segments,rfl,ticks⟩,counted⟩:=rest
  refine ensures_pure ⟨⟨u::segments,by simp, .cons tick ticks⟩,?_⟩
  rw [List.countP_cons,←counted]
  -- every turn but a skipped one is counted, and only thawed entries are skipped
  cases turn with
  | skipped => simp [FreezeSummary.count,skipped.1 rfl]
  | failed | verified =>
   have frozen:entry.frozen=true:=by simpa using skipped
   simp only [FreezeSummary.count,frozen,if_true]
   omega

lemma tickFreeze_frame (list:AddressList) (token:VerifiedWriteArmToken) :
 (list.tickFreeze token).Ensures (TickFrame list token) := by
 unfold tickFreeze
 cases first:list.confirmedPid with
 | none =>
  refine ensures_pure ⟨untouched list token _,fun _ same => ?_⟩
  cases same
  exact Nat.zero_add _
 | some pid =>
  dsimp only
  split
  · exact ensures_pure ⟨untouched list token _,fun _ same=>(nomatch same)⟩
  · rename_i armed
    have confirmed:Confirmed list token pid:=⟨first,by simpa using armed⟩
    refine ensures_bind (freezeEntries_ticks confirmed list.entries) fun t r ticks => ?_
    obtain ⟨calls,counted⟩:=ticks
    refine ensures_pure ⟨by simpa using calls,fun _ same => ?_⟩
    cases same
    exact counted

end AddressList

/-- A tick of either list writes only the frozen values of frozen entries, each at most once and
 after it has been read in full, and its report agrees with what it has done. -/
theorem freezing_writes_only_frozen :
 (∀ (list : AddressList) (token : VerifiedWriteArmToken),
  (list.tickFreeze token).Ensures (AddressList.TickFrame list token)) ∧
 ∀ list : WatchList,list.freezeTick.Ensures (WatchList.TickFrame list) :=
 ⟨AddressList.tickFreeze_frame,WatchList.freezeTick_frame⟩

end KDbg
