import KDbg.DriverTranslate
set_option autoImplicit false
/-! The response of `TranslateVirtual` as a walk over the page tables. -/
namespace KDbg
open Interaction BitFields

def Visit.wire (visit : Visit) : Device.WireTranslationStep :=
 ⟨UInt32.ofNat visit.level,UInt32.ofNat visit.index,visit.address,visit.entry⟩

namespace Driver
open Device (TranslateRequest TranslateResponse WireTranslationStep kTranslateRequestSize
 kMaxTranslationSteps kTranslateFlagLargePage kTranslateFlagPresent)

def levelIndex (virtualAddress : UInt64) (level : ℕ) : UInt32 :=
 ((virtualAddress >>> UInt64.ofNat (levelShift level)) &&& 0x1FF).toUInt32

/-- The levels from one down to the last, with the index of the address in each. -/
def levelSlots (virtualAddress : UInt64) : ℕ→List (UInt32×UInt32)
 | 0 => []
 | level+1 =>
  (UInt32.ofNat (level+1),levelIndex virtualAddress (level+1)) ::
   levelSlots virtualAddress level

lemma translationSlots_eq (virtualAddress:UInt64) (la57:Bool) :
 translationSlots virtualAddress la57=levelSlots virtualAddress (if la57 then 5 else 4) := by
 cases la57 <;> rfl

variable {level:ℕ} {request:TranslateRequest} {response:TranslateResponse}

lemma toNat_levelIndex (virtualAddress:UInt64) (small:level≤5) :
 (levelIndex virtualAddress level).toNat=tableIndex level virtualAddress.toNat := by
 have shift:(UInt64.ofNat (levelShift level)).toNat=levelShift level:=by
  apply UInt64.toNat_ofNat_of_lt'
  unfold levelShift
  change _<2^64
  omega
 have lt:(UInt64.ofNat (levelShift level)).toNat<64:=by
  rw [shift]
  unfold levelShift
  omega
 have field : ((virtualAddress >>> UInt64.ofNat (levelShift level)) &&& 0x1FF).toNat =
  tableIndex level virtualAddress.toNat := by
  rw [toNat_and_field 0 9 rfl,toNat_shiftRight _ lt,shift,Nat.pow_zero,Nat.div_one,
   Nat.mul_one]
  rfl
 rw [levelIndex,UInt64.toNat_toUInt32,field]
 exact Nat.mod_eq_of_lt (by have := tableIndex_lt level virtualAddress.toNat;omega)

lemma levelIndex_eq (virtualAddress:UInt64) (small:level≤5) :
 levelIndex virtualAddress level=UInt32.ofNat (tableIndex level virtualAddress.toNat) := by
 rw [←toNat_levelIndex virtualAddress small,UInt32.ofNat_toNat]

lemma toUInt64_levelIndex (virtualAddress:UInt64) (small:level≤5) :
 (levelIndex virtualAddress level).toUInt64 =
  UInt64.ofNat (tableIndex level virtualAddress.toNat) := by
 have lt:=tableIndex_lt level virtualAddress.toNat
 apply UInt64.toNat_inj.1
 rw [UInt32.toNat_toUInt64,toNat_levelIndex virtualAddress small]
 exact (UInt64.toNat_ofNat_of_lt' (by change _<2^64;omega)).symm

def leafFlags : ℕ→UInt32
 | 1 => kTranslateFlagPresent
 | _ => kTranslateFlagPresent ||| kTranslateFlagLargePage

def walkResponse (request : TranslateRequest) (response : TranslateResponse)
 (visits : List Visit) (last : Visit) (translated : Bool) : TranslateResponse :=
 let pushed := visits.foldl (fun response visit=>pushStep response visit.wire) response
 if translated then
  mapPage request (leafPageSize last.level) (leafMask last.level) (leafFlags last.level)
   last.entry pushed
 else pushed

inductive EntryTurn (request:TranslateRequest) (response:TranslateResponse) (level:ℕ)
 (entry:UInt64) : TranslationTurn→Prop where
 | absent (gone:(decodePageEntry entry).present=false) :
  EntryTurn request response level entry (.done (.ok response))
 | leaf (kind:LeafEntry level entry) :
  EntryTurn request response level entry (.done (.ok (mapPage request (leafPageSize level)
   (leafMask level) (leafFlags level) entry response)))
 | table (kind:TableEntry level entry) :
  EntryTurn request response level entry (.next (entry &&& kX64PageEntryAddressMask) response)
 | malformed (present:(decodePageEntry entry).present=true)
  (leaf:¬ LeafEntry level entry) (table:¬ TableEntry level entry) :
  EntryTurn request response level entry (.done (.error .invalidAddress))

lemma ofNat_level_eq (small:level≤5) (n:ℕ) (le:n≤5) :
 UInt32.ofNat level=UInt32.ofNat n ↔ level=n := by
 constructor
 · intro same
   have := congrArg UInt32.toNat same
   rwa [UInt32.toNat_ofNat_of_lt' (by change _<2^32;omega),
    UInt32.toNat_ofNat_of_lt' (by change _<2^32;omega)] at this
 · rintro rfl
   rfl

lemma largeTurn {entry:UInt64}
 (mask:UInt64) (large:level=2 ∨ level=3) (shape:mask.toNat=(2^(levelShift level-13)-1)*2^13)
 (present:(decodePageEntry entry).present=true)
 (size:(decodePageEntry entry).pageSize=true) :
 EntryTurn request response level entry
  (if entry &&& mask≠0 then .done (.error .invalidAddress)
  else .done (.ok (mapPage request (leafPageSize level) (leafMask level) (leafFlags level) entry
   response))) := by
 have leaf:=leafEntry_iff_reserved mask large shape present size
 by_cases clear:entry &&& mask=0
 · rw [if_neg (not_not.2 clear)]
   exact .leaf (leaf.2 clear)
 · rw [if_pos clear]
   refine .malformed present (mt leaf.1 clear) ?_
   intro table
   rw [table.2.2 (by omega)] at size
   cases size

lemma translateEntry_turn (request:TranslateRequest)
 (index:UInt32) (address entry:UInt64) (low:1 ≤ level) (high:level≤5)
 (room:response.stepCount < kMaxTranslationSteps) :
 EntryTurn request (pushStep response ⟨UInt32.ofNat level,index,address,entry⟩) level entry
  (translateEntry request (UInt32.ofNat level) index address entry response) := by
 have atPt : UInt32.ofNat level=kPagingLevelPt ↔ level=1 :=
  ofNat_level_eq high 1 (by decide)
 have atPd : UInt32.ofNat level=kPagingLevelPd ↔ level=2 :=
  ofNat_level_eq high 2 (by decide)
 have atPdpt : UInt32.ofNat level=kPagingLevelPdpt ↔ level=3 :=
  ofNat_level_eq high 3 (by decide)
 rw [translateEntry,if_neg (UInt32.not_le.2 room)]
 by_cases gone:entry &&& 1=0
 · rw [if_pos gone]
   exact .absent (by simp [decodePageEntry,gone])
 · have present:(decodePageEntry entry).present=true:=by simpa [decodePageEntry] using gone
   rw [if_neg gone]
   by_cases size:entry &&& 0x80=0
   · have clear:(decodePageEntry entry).pageSize=false:=by simp [decodePageEntry,size]
     rw [if_neg (fun h=>h.2 size),if_neg (fun h=>h.2 size)]
     by_cases bottom:level=1
     · subst bottom
       exact .leaf ⟨present, .inl rfl⟩
     · rw [if_neg (mt atPt.1 bottom)]
       exact .table ⟨present,by omega,fun _=>clear⟩
   · have set:(decodePageEntry entry).pageSize=true:=by simpa [decodePageEntry] using size
     by_cases pdpt:level=3
     · subst pdpt
       rw [if_pos ⟨rfl,size⟩]
       exact largeTurn 0x000000003FFFE000 (.inr rfl) rfl present set
     · rw [if_neg (fun h=>pdpt (atPdpt.1 h.1))]
       by_cases pd:level=2
       · subst pd
         rw [if_pos ⟨rfl,size⟩]
         exact largeTurn 0x00000000001FE000 (.inl rfl) rfl present set
       · rw [if_neg (fun h=>pd (atPd.1 h.1))]
         by_cases bottom:level=1
         · subst bottom
           exact .leaf ⟨present, .inl rfl⟩
         · rw [if_neg (mt atPt.1 bottom)]
           exact .table ⟨present,by omega,fun _=>by omega⟩

variable {ranges:List PhysicalMemoryRange} {t:List KernelEvent}

lemma readPhysicalU64_exec {address entry:UInt64}
 (ran:(readPhysicalU64 ranges address).Exec t (.ok entry)) :
 ∃ answer : NtStatus×List UInt8,t=[⟨.copyPhysical address 8,answer⟩] ∧
  ntSuccess answer.1=true ∧ answer.2.length=8 ∧
  entry=UInt64.ofNat (ofLittleEndian answer.2) := by
 obtain ⟨u,_,v,rfl,read,rest⟩:=ran.of_bind
 dsimp only at rest
 split at rest
 · simp at rest
 · rename_i succeeded
   simp only [Bool.not_eq_true',Bool.not_eq_false] at succeeded
   split at rest
   · rename_i whole
     obtain ⟨rfl,same⟩:=rest.of_pure
     cases same
     unfold readPhysicalWithSnapshot at read
     split at read
     · obtain ⟨-,rfl⟩:=read.of_pure
       cases whole
     · split at read
       · obtain ⟨-,rfl⟩:=read.of_pure
         cases whole
       · obtain ⟨_,w,rfl,done⟩:=read.of_call
         obtain ⟨rfl,rfl⟩:=done.of_ret
         exact ⟨_,rfl,succeeded,whole,rfl⟩
   · simp at rest

/-- The entries that the driver reads along a part of the trace. -/
def Reads (ranges : List PhysicalMemoryRange) (Holds : UInt64→UInt64→Prop)
 (t : List KernelEvent) : Prop :=
 ∀ (u : List KernelEvent) (address entry : UInt64),u⊆t →
  (readPhysicalU64 ranges address).Exec u (.ok entry)→Holds address entry

lemma Reads.mono {Holds:UInt64→UInt64→Prop} {u:List KernelEvent} (reads:Reads ranges Holds t)
 (sub:u⊆t) : Reads ranges Holds u :=
 fun _ _ _ part=>reads _ _ _ (List.Subset.trans part sub)

lemma pushStep_room (step:WireTranslationStep)
 (room:response.stepCount.toNat+(level+1)≤5) :
 (pushStep response step).stepCount.toNat+level≤5 := by
 have one:(response.stepCount+1).toNat=response.stepCount.toNat+1:=by
  exact Nat.mod_eq_of_lt (by change response.stepCount.toNat+1<2^32;omega)
 change (response.stepCount+1).toNat+level≤5
 omega

lemma lt_maxTranslationSteps (room:response.stepCount.toNat+(level+1)≤5) :
 response.stepCount < kMaxTranslationSteps := by
 apply UInt32.lt_iff_toNat_lt.2
 change _<5
 omega

lemma wire_visit (virtualAddress table entry:UInt64) (small:level≤5) :
 (⟨level,table,tableIndex level virtualAddress.toNat,entry⟩ : Visit).wire =
  ⟨UInt32.ofNat level,levelIndex virtualAddress level,
   table+(levelIndex virtualAddress level).toUInt64*8,entry⟩ := by
 rw [toUInt64_levelIndex virtualAddress small,levelIndex_eq virtualAddress small]
 rfl

variable {Holds:UInt64→UInt64→Prop}

/-- One turn of the loop: the entry read, and what the loop does with it. -/
lemma translateSlots_turn (small:level+1≤5) {table:UInt64}
 {response result:TranslateResponse} (room:response.stepCount.toNat+(level+1)≤5)
 (ran:(translateSlots ranges request (levelSlots request.virtualAddress (level+1)) table
  response).Exec t (.ok result)) (reads:Reads ranges Holds t) :
 ∃ visit : Visit,visit.level=level+1 ∧ visit.table=table ∧
  visit.index=tableIndex (level+1) request.virtualAddress.toNat ∧
  Holds (entryAddress table visit.index) visit.entry ∧
  ((visit.flags.present=false ∧ result=pushStep response visit.wire) ∨
   (LeafEntry (level+1) visit.entry ∧
    result=mapPage request (leafPageSize (level+1)) (leafMask (level+1))
     (leafFlags (level+1)) visit.entry (pushStep response visit.wire)) ∨
   (TableEntry (level+1) visit.entry ∧ ∃ u,Reads ranges Holds u ∧
    (translateSlots ranges request (levelSlots request.virtualAddress level)
     (visit.entry &&& kX64PageEntryAddressMask) (pushStep response visit.wire)).Exec u
      (.ok result))) := by
 obtain ⟨u,got,v,rfl,read,rest⟩:=ran.of_bind
 cases got with
 | error => simp at rest
 | ok entry =>
  dsimp only at rest
  have held:=reads _ _ _ (List.subset_append_left _ _) read
  have later:=reads.mono (List.subset_append_right u v)
  have turn:=translateEntry_turn request (levelIndex request.virtualAddress (level+1))
   (table+(levelIndex request.virtualAddress (level+1)).toUInt64*8) entry (by omega) small
   (lt_maxTranslationSteps room)
  rw [←wire_visit request.virtualAddress table _ small] at turn
  refine ⟨⟨level+1,table,tableIndex (level+1) request.virtualAddress.toNat,entry⟩,rfl,rfl,rfl,
   ?_,?_⟩
  · rwa [toUInt64_levelIndex request.virtualAddress small] at held
  · generalize translateEntry request _ _ _ _ response=next at turn rest
    cases turn with
    | absent gone =>
     obtain ⟨-,same⟩:=rest.of_pure
     cases same
     exact .inl ⟨gone,rfl⟩
    | leaf kind =>
     obtain ⟨-,same⟩:=rest.of_pure
     cases same
     exact .inr (.inl ⟨kind,rfl⟩)
    | table kind => exact .inr (.inr ⟨kind,v,later,rest⟩)
    | malformed => simp at rest

lemma translateSlots_walk (low:1 ≤ level) (small:level≤5)
 {table:UInt64} {response result:TranslateResponse} (room:response.stepCount.toNat+level≤5)
 (ran:(translateSlots ranges request (levelSlots request.virtualAddress level) table
  response).Exec t (.ok result)) (reads:Reads ranges Holds t) :
 ∃ visits last translated,
  PageWalk Holds request.virtualAddress.toNat level table visits last translated ∧
   result=walkResponse request response visits last translated := by
 induction level,low using Nat.le_induction generalizing table response t with
 | base =>
  obtain ⟨⟨_,_,_,_⟩,rfl,rfl,rfl,held,turn⟩:=translateSlots_turn small room ran reads
  rcases turn with ⟨gone,rfl⟩|⟨kind,rfl⟩|⟨kind,-⟩
  · exact ⟨_,_,_, .absent held gone,rfl⟩
  · exact ⟨_,_,_, .leaf held kind,rfl⟩
  · exact absurd kind.2.1 (by decide)
 | succ _ _ ih =>
  obtain ⟨⟨_,_,_,_⟩,rfl,rfl,rfl,held,turn⟩:=translateSlots_turn small room ran reads
  rcases turn with ⟨gone,rfl⟩|⟨kind,rfl⟩|⟨kind,u,later,rest⟩
  · exact ⟨_,_,_, .absent held gone,rfl⟩
  · exact ⟨_,_,_, .leaf held kind,rfl⟩
  · obtain ⟨_,_,_,walk,rfl⟩ :=
     ih (by omega) (pushStep_room _ room) rest later
    exact ⟨_,_,_, .next held kind walk,rfl⟩

variable {kernel:(c:KernelCall)→KernelAnswer c}

lemma translateSlots_run_turn (small:level+1≤5) {table entry:UInt64}
 (room:response.stepCount.toNat+(level+1)≤5)
 (read:(readPhysicalU64 ranges (entryAddress table
  (tableIndex (level+1) request.virtualAddress.toNat))).run kernel=.ok entry) :
 ∃ turn,EntryTurn request (pushStep response
   (⟨level+1,table,tableIndex (level+1) request.virtualAddress.toNat,entry⟩ : Visit).wire)
   (level+1) entry turn ∧
  (translateSlots ranges request (levelSlots request.virtualAddress (level+1)) table
   response).run kernel =
   match turn with
   | .done result => result
   | .next table response =>
    (translateSlots ranges request (levelSlots request.virtualAddress level) table
     response).run kernel := by
 have turn:=translateEntry_turn request (levelIndex request.virtualAddress (level+1))
  (table+(levelIndex request.virtualAddress (level+1)).toUInt64*8) entry (by omega) small
  (lt_maxTranslationSteps room)
 rw [←wire_visit request.virtualAddress table entry small] at turn
 rw [entryAddress,←toUInt64_levelIndex request.virtualAddress small] at read
 refine ⟨_,turn,?_⟩
 rw [levelSlots,translateSlots,Prog.run_bind,read]
 dsimp only
 generalize translateEntry request _ _ _ entry response=next
 cases next <;> rfl

/-- The loop follows every walk whose entries the driver can read. -/
lemma translateSlots_run {table:UInt64} {visits:List Visit} {last:Visit} {translated:Bool}
 (walk:PageWalk Holds request.virtualAddress.toNat level table visits last translated)
 (low:1 ≤ level) (small:level≤5) (room:response.stepCount.toNat+level≤5) (readable:∀visit∈visits,
  (readPhysicalU64 ranges visit.address).run kernel=.ok visit.entry) :
 (translateSlots ranges request (levelSlots request.virtualAddress level) table response).run
  kernel=.ok (walkResponse request response visits last translated) := by
 induction walk generalizing response with
 | @absent level _ _ _ gone =>
  obtain ⟨level,rfl⟩:=Nat.exists_eq_add_of_le' low
  have here:=List.forall_mem_singleton.1 readable
  obtain ⟨_,kind',ran⟩:=translateSlots_run_turn small room here
  cases kind' with
  | absent => exact ran
  | leaf kind' | table kind' => exact absurd kind'.1 (by rw [gone];decide)
  | malformed present => exact absurd present (by rw [gone];decide)
 | @leaf level _ _ _ kind =>
  obtain ⟨level,rfl⟩:=Nat.exists_eq_add_of_le' low
  have here:=List.forall_mem_singleton.1 readable
  obtain ⟨_,kind',ran⟩:=translateSlots_run_turn small room here
  cases kind' with
  | absent gone => exact absurd kind.1 (by rw [gone];decide)
  | leaf => exact ran
  | table kind' => exact (kind.not_table kind').elim
  | malformed _ leaf => exact absurd kind leaf
 | next _ kind _ ih =>
  obtain ⟨here,later⟩:=List.forall_mem_cons.1 readable
  obtain ⟨_,kind',ran⟩:=translateSlots_run_turn small room here
  cases kind' with
  | absent gone => exact absurd kind.1 (by rw [gone];decide)
  | leaf kind' => exact (kind'.not_table kind).elim
  | table =>
   exact ran.trans (ih (Nat.le_of_succ_le_succ kind.2.1) (by omega) (pushStep_room _ room) later)
  | malformed _ _ table => exact absurd kind table

def pagingLevels (la57 : Bool) : ℕ := if la57 then 5 else 4

lemma pagingLevels_pos (la57:Bool) : 1 ≤ pagingLevels la57 := by cases la57 <;> decide

lemma pagingLevels_le (la57:Bool) : pagingLevels la57≤5 := by cases la57 <;> decide

lemma and_not_offset {base:UInt64} (aligned:base &&& 0xFFF=0) :
 base &&& ~~~0xFFF=base := by
 have low:base.toNat%4096=0:=by rw [←toNat_and_offset,aligned];rfl
 apply UInt64.toNat_inj.1
 change (base &&& 0xFFFFFFFFFFFFF000).toNat=_
 rw [toNat_and_page]
 omega

lemma not_offset_aligned (base:UInt64) : base &&& ~~~0xFFF &&& 0xFFF=0 := by
 rw [UInt64.and_assoc]
 exact UInt64.and_zero

def requestBase (registers : ControlRegisters) (request : TranslateRequest) : UInt64 :=
 if request.directoryTableBase=0 then registers.cr3 &&& ~~~0xFFF
 else request.directoryTableBase

variable {registers:ControlRegisters}

lemma translationBase_eq (aligned:request.directoryTableBase &&& 0xFFF=0)
 (own:request.processId=0) :
 translationBase registers request=pure (.ok (requestBase registers request,0)) := by
 unfold translationBase
 rw [and_not_offset aligned]
 simp only [own,ne_eq,not_true_eq_false,and_false,if_false]
 rfl

lemma translationBase_run (aligned:request.directoryTableBase &&& 0xFFF=0)
 (own:request.processId=0) :
 (translationBase registers request).run kernel=.ok (requestBase registers request,0) := by
 rw [translationBase_eq aligned own]
 rfl

/-- What `TranslateVirtual` checks of a request before it reads anything. -/
structure Wellformed (request : TranslateRequest) : Prop where
 size : request.size=kTranslateRequestSize
 flags : request.flags=0
 nonzero : request.length≠0
 fits : request.length.toNat ≤ kMaxTransferSize
 single : request.processId≠0 → request.directoryTableBase=0
 aligned : request.directoryTableBase &&& 0xFFF=0

variable {base:UInt64} {flags:UInt32}

lemma translateVirtual_exec (ran:(translateVirtual registers request).Exec t (.ok response)) :
 Wellformed request ∧ isCanonical request.virtualAddress registers.la57=true ∧
  ∃ base flags ranges u v,t=u++⟨.physicalMemoryRanges,some ranges⟩::v ∧
   (translationBase registers request).Exec u (.ok (base,flags)) ∧
   (translateSlots ranges request
    (levelSlots request.virtualAddress (pagingLevels registers.la57)) base
    (startResponse request base flags registers.la57)).Exec v (.ok response) := by
 rw [translateVirtual] at ran
 split at ran
 · simp at ran
 rename_i valid
 simp only [ne_eq,not_or,not_and,not_not,Nat.not_lt] at valid
 obtain ⟨size,flags,nonzero,fits,single,aligned⟩:=valid
 obtain ⟨u,based,v,rfl,first,rest⟩:=ran.of_bind
 cases based with
 | error => simp at rest
 | ok =>
  dsimp only at rest
  split at rest
  · simp at rest
  rename_i canonical
  obtain ⟨ranges,v,rfl,last⟩:=rest.of_ask
  cases ranges with
  | none => simp at last
  | some =>
   dsimp only at last
   rw [translationSlots_eq] at last
   exact ⟨⟨size,flags,nonzero,fits,single,aligned⟩,by simpa using canonical,_,_,_,u,v,rfl,
    first,last⟩

lemma translateVirtual_run_eq (wellformed:Wellformed request)
 (canonical:isCanonical request.virtualAddress registers.la57=true)
 (based:(translationBase registers request).run kernel=.ok (base,flags))
 (snapshot:kernel .physicalMemoryRanges=some ranges) :
 (translateVirtual registers request).run kernel=(translateSlots ranges request
  (levelSlots request.virtualAddress (pagingLevels registers.la57)) base
  (startResponse request base flags registers.la57)).run kernel := by
 obtain ⟨size,noFlags,nonzero,fits,single,aligned⟩:=wellformed
 have valid : ¬(request.size≠kTranslateRequestSize ∨ request.flags≠0 ∨ request.length=0 ∨
  kMaxTransferSize < request.length.toNat ∨
  (request.processId≠0 ∧ request.directoryTableBase≠0) ∨
  request.directoryTableBase &&& 0xFFF≠0) := by
  simp only [ne_eq,not_or,not_and,not_not,Nat.not_lt]
  exact ⟨size,noFlags,nonzero,fits,single,aligned⟩
 have asked:Kernel.physicalMemoryRanges.run kernel=some ranges:=snapshot
 rw [translateVirtual,if_neg valid,Prog.run_bind,based]
 dsimp only
 rw [canonical,translationSlots_eq]
 exact (Prog.run_bind kernel _ _).trans (by rw [asked];rfl)

lemma startResponse_room (request:TranslateRequest) (base:UInt64) (flags:UInt32) (la57:Bool)
 (small:level≤5) : (startResponse request base flags la57).stepCount.toNat+level≤5 := by
 change 0+level≤5
 omega

/-- A successful translation is a walk from the table of the request. -/
lemma translateVirtual_walk (own:request.processId=0)
 (ran:(translateVirtual registers request).Exec t (.ok response))
 (reads:∀ranges,Reads ranges Holds t) :
 ∃ visits last translated,
  PageWalk Holds request.virtualAddress.toNat (pagingLevels registers.la57)
   (requestBase registers request) visits last translated ∧
  response=walkResponse request
   (startResponse request (requestBase registers request) 0 registers.la57) visits last
   translated := by
 obtain ⟨wellformed,-,base,flags,ranges,u,v,rfl,based,rest⟩:=translateVirtual_exec ran
 rw [translationBase_eq wellformed.aligned own] at based
 obtain ⟨-,same⟩:=based.of_pure
 cases same
 have levels:=pagingLevels_le registers.la57
 exact translateSlots_walk (pagingLevels_pos _) levels (startResponse_room _ _ _ _ levels) rest
  ((reads ranges).mono fun _ mem=>List.mem_append_right _ (List.mem_cons_of_mem _ mem))

lemma translateVirtual_run {visits:List Visit} {last:Visit} {translated:Bool}
 (wellformed:Wellformed request) (canonical:isCanonical request.virtualAddress registers.la57=true)
 (based:(translationBase registers request).run kernel=.ok (base,flags))
 (snapshot:kernel .physicalMemoryRanges=some ranges)
 (walk:PageWalk Holds request.virtualAddress.toNat (pagingLevels registers.la57) base visits last
  translated) (readable:∀visit∈visits,
  (readPhysicalU64 ranges visit.address).run kernel=.ok visit.entry) :
 (translateVirtual registers request).run kernel=.ok (walkResponse request
  (startResponse request base flags registers.la57) visits last translated) := by
 have levels:=pagingLevels_le registers.la57
 rw [translateVirtual_run_eq wellformed canonical based snapshot]
 exact translateSlots_run walk (pagingLevels_pos _) levels (startResponse_room _ _ _ _ levels)
  readable

end Driver
end KDbg
