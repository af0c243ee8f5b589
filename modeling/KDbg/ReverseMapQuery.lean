import KDbg.StaticMemory
set_option autoImplicit false
/-! The reverse mapper over memory that does not change: each leaf mapping that
a query reports is one that the driver's own walk makes. -/
namespace KDbg
open Interaction BitFields

namespace PageTableReverseMapper
open Driver (sampleMemory sampleKernel sampleKernel_shows)

/-- The directory table base under which a query walks a target. -/
def Scanned (t : List ReverseMapEvent) (target : ProcessScanTarget) (base : UInt64) : Prop :=
 target.directoryTableBase≠0 ∧ base=target.directoryTableBase ∨
  target.directoryTableBase=0 ∧ ∃ context : KDbgBackend.ProcessContext,
   (⟨.getProcessContext target.pid, .ok context⟩ : ReverseMapEvent)∈t ∧
    base=context.directoryTableBase

/-- What a successful turn of the loop over the targets did. -/
inductive TargetVisit (limits:ReverseMapLimits) (targetPfn:UInt64)
 (target:ProcessScanTarget) (s:Scan) (t:List ReverseMapEvent) : Scan→Prop where
 | idle (none:target.pid=0) : TargetVisit limits targetPfn target s t s
 | unknown (error:Error) (given:target.directoryTableBase=0)
  (refused:(⟨.getProcessContext target.pid, .error error⟩ : ReverseMapEvent)∈t) :
  TargetVisit limits targetPfn target s t s
 | walked {base:UInt64} {mapped after:Scan} {u:List ReverseMapEvent}
  (scanned:Scanned t target base) (inside:u ⊆ t)
  (root:rootMapping limits target targetPfn ((base &&& ~~~0xFFF) >>> 12) s =
   (.ok (),mapped))
  (ran:(walk limits target targetPfn (Driver.pagingLevels target.la57)
   ((base &&& ~~~0xFFF) >>> 12) {} { mapped with activePath := [] }).Exec u
    (.ok (),after)) :
  TargetVisit limits targetPfn target s t after

variable {base table:UInt64} {t u:List ReverseMapEvent}

section
variable {limits:ReverseMapLimits} {target:ProcessScanTarget} {targetPfn:UInt64}

lemma walkRoot_exec {s after:Scan}
 (ran:(walkRoot limits target targetPfn base s).Exec t (.ok after)) :
 ∃ mapped,rootMapping limits target targetPfn ((base &&& ~~~0xFFF) >>> 12) s =
  (.ok (),mapped) ∧
  (walk limits target targetPfn (Driver.pagingLevels target.la57)
   ((base &&& ~~~0xFFF) >>> 12) {} { mapped with activePath := [] }).Exec t
    (.ok (),after) := by
 unfold walkRoot at ran
 dsimp only at ran
 split at ran
 · simp at ran
 · rename_i mapped root
   refine ⟨mapped,root,?_⟩
   obtain ⟨u,⟨result,_⟩,v,rfl,walked,rest⟩:=ran.of_bind
   have kept:=walk_keeps (Driver.pagingLevels_le target.la57) walked
   cases result with
   | error error =>
    dsimp only at rest
    split at rest
    · simp at rest
    · rename_i other
      simp only [not_or,Bool.not_eq_true',Bool.not_eq_false] at other
      rcases kept.ends error rfl other.2.2 with limit|stopped
      · exact absurd limit other.1
      · exact absurd stopped other.2.1
   | ok =>
    obtain ⟨rfl,same⟩:=rest.of_pure
    cases same
    rw [List.append_nil]
    exact walked

lemma scanTarget_exec {s after:Scan}
 (ran:(scanTarget limits targetPfn target s).Exec t (.ok after)) :
 TargetVisit limits targetPfn target s t after := by
 obtain ⟨_,u,rfl,rest⟩:=ran.of_ask
 split at rest
 · simp at rest
 split at rest
 · rename_i none
   obtain ⟨rfl,same⟩:=rest.of_pure
   cases same
   exact .idle none
 split at rest
 · rename_i given
   obtain ⟨context,v,rfl,body⟩:=rest.of_ask
   cases context with
   | error error =>
    dsimp only at body
    split at body
    · obtain ⟨rfl,same⟩:=body.of_pure
      cases same
      exact .unknown error given (List.mem_cons_of_mem _ List.mem_cons_self)
    · simp at body
   | ok context =>
    obtain ⟨_,root,walked⟩:=walkRoot_exec body
    refine .walked (.inr ⟨given,context,?_,rfl⟩) ?_ root walked
    · exact List.mem_cons_of_mem _ List.mem_cons_self
    · exact fun e mem=>List.mem_cons_of_mem _ (List.mem_cons_of_mem _ mem)
 · rename_i given
   obtain ⟨_,root,walked⟩:=walkRoot_exec rest
   exact .walked (.inl ⟨given,rfl⟩) (fun e mem=>List.mem_cons_of_mem _ mem) root walked

lemma Scanned.mono (sub:t ⊆ u) (scanned:Scanned t target base) : Scanned u target base :=
 scanned.imp_right fun ⟨given,context,mem,same⟩=>⟨given,context,sub mem,same⟩

lemma TargetVisit.mono {s after:Scan} (sub:t ⊆ u)
 (visit:TargetVisit limits targetPfn target s t after) :
 TargetVisit limits targetPfn target s u after := by
 cases visit with
 | idle none => exact .idle none
 | unknown error given refused => exact .unknown error given (sub refused)
 | walked scanned inside root ran =>
  exact .walked (scanned.mono sub) (List.Subset.trans inside sub) root ran

end

inductive TargetVisits (limits:ReverseMapLimits) (targetPfn:UInt64)
 (t:List ReverseMapEvent) : List ProcessScanTarget→Scan→Scan→Prop where
 | nil (s:Scan) : TargetVisits limits targetPfn t [] s s
 | cons {target:ProcessScanTarget} {targets:List ProcessScanTarget} {s mid after:Scan}
  (turn:TargetVisit limits targetPfn target s t mid)
  (rest:TargetVisits limits targetPfn t targets mid after) :
  TargetVisits limits targetPfn t (target::targets) s after

variable {targets:List ProcessScanTarget}

section
variable {limits:ReverseMapLimits} {targetPfn:UInt64} {s:Scan}

lemma TargetVisits.mono {after:Scan} (sub:t ⊆ u)
 (visits:TargetVisits limits targetPfn t targets s after) :
 TargetVisits limits targetPfn u targets s after := by
 induction visits with
 | nil s => exact .nil s
 | cons turn _ ih => exact .cons (turn.mono sub) ih

lemma scanTargets_exec {after:Scan}
 (ran:(scanTargets limits targetPfn targets s).Exec t (.ok after)) :
 TargetVisits limits targetPfn t targets s after := by
 induction targets generalizing s t with
 | nil =>
  obtain ⟨rfl,same⟩:=ran.of_pure
  cases same
  exact .nil _
 | cons _ _ ih =>
  obtain ⟨u,result,v,rfl,turn,rest⟩:=ran.of_bind
  cases result with
  | error => simp at rest
  | ok =>
   exact .cons ((scanTarget_exec turn).mono (List.subset_append_left _ _))
    ((ih rest).mono (List.subset_append_right _ _))

lemma query_exec {mapper:PageTableReverseMapper} {output:PfnUsageResult}
 (ran:(mapper.query targetPfn).Exec t (.ok output)) :
 ∃ after,TargetVisits mapper.limits targetPfn t mapper.targets {} after ∧
  ∀usage,usage∈output.mappings ↔ usage∈after.mappings := by
 unfold query at ran
 split at ran
 · simp at ran
 obtain ⟨_,u,rfl,rest⟩:=ran.of_ask
 split at rest
 · simp at rest
 split at rest
 · simp at rest
 split at rest
 · simp at rest
 obtain ⟨v,result,w,rfl,scanned,last⟩:=rest.of_bind
 cases result with
 | error => simp at last
 | ok after =>
  obtain ⟨rfl,same⟩:=last.of_pure
  cases same
  rw [List.append_nil]
  refine ⟨after,(scanTargets_exec scanned).mono (List.subset_cons_self _ _),fun _ => ?_⟩
  exact List.mem_mergeSort

lemma rootMapping_appended {target:ProcessScanTarget} {rootPfn:UInt64}
 {out:Result Unit×Scan} (root:rootMapping limits target targetPfn rootPfn s=out) :
 out=(.ok (),s) ∨ ∃ usage : ProcessUsage,usage.isLeaf=false ∧ Appended usage s out := by
 subst root
 unfold rootMapping
 split
 · refine .inr ⟨_,?_,appendMapping_appended _ _ _⟩
   cases mode:target.la57 <;> simp [ProcessUsage.isLeaf]
 · exact .inl rfl

end

lemma PageReads.mono {Q:UInt64→List UInt8→Prop} (sub:u ⊆ t) (reads:PageReads Q t) :
 PageReads Q u :=
 fun table data mem=>reads table data (sub mem)

lemma root_shiftLeft (aligned:base &&& 0xFFF=0) :
 ((base &&& ~~~0xFFF) >>> 12) <<< 12=base := by
 have low:base.toNat%4096=0:=by rw [←toNat_and_offset,aligned];rfl
 have lt:=base.toNat_lt
 have pfn:(base >>> 12).toNat=base.toNat/4096:=toNat_shiftRight 12 (by decide)
 have back:(base >>> 12).toNat*2^(12 : UInt64).toNat=base.toNat:=by
  rw [pfn]
  change _/4096*4096=_
  omega
 rw [Driver.and_not_offset aligned]
 apply UInt64.toNat_inj.1
 rw [toNat_shiftLeft 12 (by decide) (by omega),back]

lemma above_root (la57:Bool) : ({} : Effective).Above (Driver.pagingLevels la57) := by
 cases la57 <;> rfl

/-- A leaf mapping is a walk from the root table of one of the targets. -/
def FromTargets (Holds : UInt64→UInt64→Prop) (Read : UInt64→Prop) (targetPfn : UInt64)
 (t : List ReverseMapEvent) (targets : List ProcessScanTarget) (usage : ProcessUsage) : Prop :=
 usage.isLeaf=true → ∃ target∈targets,∃ base,Scanned t target base ∧
  Found Holds Read target targetPfn (Driver.pagingLevels target.la57)
   (((base &&& ~~~0xFFF) >>> 12) <<< 12) {} usage

variable {Holds:UInt64→UInt64→Prop}

section
variable {Read:UInt64→Prop} {limits:ReverseMapLimits} {targetPfn:UInt64}
 {target:ProcessScanTarget} {usage:ProcessUsage} {memory:UInt64→UInt8}
 {visits:List Visit}

lemma TargetVisit.adds {s after:Scan}
 (reads:PageReads (Shown Holds Read) t)
 (visit:TargetVisit limits targetPfn target s t after) :
 Adds (FromTargets Holds Read targetPfn t [target]) s after := by
 cases visit with
 | idle | unknown => exact .of_eq rfl
 | @walked base mapped _ u scanned inside root ran =>
  have first:Adds (FromTargets Holds Read targetPfn t [target]) s mapped:=by
   rcases rootMapping_appended root with same|⟨_,other,appended⟩
   · cases same
     exact .of_eq rfl
   · exact appended.adds fun leaf=>absurd leaf (by simp [other])
  have second:=walk_adds (Driver.pagingLevels_le target.la57)
   (Driver.pagingLevels_pos target.la57) (above_root target.la57) ran (reads.mono inside)
  refine first.trans (second.mono ?_)
  intro _ found leaf
  exact ⟨target,List.mem_singleton.2 rfl,base,scanned,found leaf⟩

lemma FromTargets.mono {targets':List ProcessScanTarget} (sub:targets ⊆ targets')
 (found:FromTargets Holds Read targetPfn t targets usage) :
 FromTargets Holds Read targetPfn t targets' usage := by
 intro leaf
 obtain ⟨target,mem,rest⟩:=found leaf
 exact ⟨target,sub mem,rest⟩

lemma TargetVisits.adds {s after:Scan}
 (reads:PageReads (Shown Holds Read) t)
 (visits:TargetVisits limits targetPfn t targets s after) :
 Adds (FromTargets Holds Read targetPfn t targets) s after := by
 induction visits with
 | nil => exact .of_eq rfl
 | @cons target targets s _ _ turn _ ih =>
  have sub:[target] ⊆ target::targets:=by simp
  have first:=(turn.adds reads).mono fun _=>FromTargets.mono sub
  exact first.trans (ih.mono fun _=>FromTargets.mono (List.subset_cons_self _ _))

def Shows (memory : UInt64→UInt8) (t : List ReverseMapEvent) : Prop :=
 ∀ (address : UInt64) (length : UInt32) (data : List UInt8),
  (⟨.readPhysical address length, .ok data⟩ : ReverseMapEvent)∈t →
   data.length=length.toNat → data=bytesAt memory address length.toNat

lemma Shows.entries (shown:Shows memory t) : PageReads (ShowsEntries (InMemory memory)) t := by
 intro table data mem whole _ small
 rw [shown table 0x1000 data mem whole]
 exact entryAt_bytesAt memory table small

/-- The mapping is what the driver's walk of its address finds. -/
structure Real (targetPfn : UInt64) (la57 : Bool)
 (usage : ProcessUsage) (response : Device.TranslateResponse) : Prop where
 present : response.flags &&& Device.kTranslateFlagPresent≠0
 frame : response.physicalAddress >>> 12=targetPfn
 pageSize : response.pageSize=usage.pageSize
 pte : response.stepList.getLast?.map (·.entryPhysicalAddress)=some usage.pteAddress
 writable : usage.writable=response.stepList.all fun step =>
  (decodePageEntry step.entryValue).writable
 user : usage.userAccessible=response.stepList.all fun step =>
  (decodePageEntry step.entryValue).user
 noExecute : usage.noExecute=response.stepList.any fun step =>
  (decodePageEntry step.entryValue).noExecute
 canonical : Driver.isCanonical usage.virtualAddress la57=true

lemma levelShift_pagingLevels (la57:Bool) :
 levelShift (Driver.pagingLevels la57)+9=addressBits la57 := by
 cases la57 <;> rfl

/-- The driver's reads of the entries on a walk whose tables it can read. -/
lemma driver_reads_walk {kernel:(c:KernelCall)→KernelAnswer c}
 (shown:KernelShows memory kernel) {address level:ℕ} {last:Visit} {translated:Bool}
 (walk:PageWalk (InMemory memory) address level table visits last translated)
 (tables:∀visit∈visits,DriverReads kernel visit.table) :
 ∃ ranges : List PhysicalMemoryRange,kernel .physicalMemoryRanges=some ranges ∧
  ∀visit∈visits,
   (Driver.readPhysicalU64 ranges visit.address).run kernel=.ok visit.entry := by
 obtain ⟨ranges,snapshot,-⟩:=tables last walk.last_mem
 refine ⟨ranges,snapshot,?_⟩
 intro visit mem
 obtain ⟨ranges',snapshot',entries⟩:=tables visit mem
 obtain rfl : ranges=ranges' := Option.some.inj (snapshot.symm.trans snapshot')
 obtain ⟨entry,read⟩:=entries visit.index (walk.index_lt mem)
 have same : entry=visit.entry :=
  inMemory_functional memory _ _ _ (shown.entry read) (walk.held visit mem)
 exact same ▸ read

lemma mod_pow_congr {m n small large:ℕ} (le:small ≤ large)
 (same:m%2^large=n%2^large) : m%2^small=n%2^small :=
 Nat.ModEq.of_dvd (Nat.pow_dvd_pow 2 le) same

/-- The offset in a page is made of the lower bits of an address. -/
lemma levelShift_leaf_le {level:ℕ} {entry:UInt64} (leaf:LeafEntry level entry)
 (la57:Bool) : levelShift level ≤ addressBits la57 := by
 have page:=levelShift_le (level_of_leafEntry leaf)
 have wide:30 ≤ addressBits la57:=by cases la57 <;> decide
 omega

/-- A response to the walk that a mapping reports shows the mapping. -/
lemma real_of_response {la57:Bool} {last:Visit} {request:Device.TranslateRequest} {raw:ℕ}
 (walk:PageWalk Holds request.virtualAddress.toNat (Driver.pagingLevels la57) base visits last
  true) (reports:Reports target {} raw visits last usage)
 (frame:leafBase last.level last.entry +
  request.virtualAddress.toNat%2^levelShift last.level=4096*targetPfn.toNat)
 (canonical:Driver.isCanonical usage.virtualAddress target.la57=true) :
 Real targetPfn target.la57 usage (Driver.walkResponse request
  (Driver.startResponse request base 0 la57) visits last true) := by
 obtain ⟨steps,physical,size,present⟩:=Driver.walkResponse_page walk
 refine ⟨present,?_,size.trans reports.size.symm,?_,?_,?_,?_,canonical⟩
 · apply UInt64.toNat_inj.1
   rw [toNat_shiftRight 12 (by decide),physical,frame]
   exact Nat.mul_div_cancel_left _ (by decide)
 · rw [steps,List.getLast?_map,walk.getLast?,reports.pte]
   rfl
 · rw [steps,List.all_map,reports.writable]
   rfl
 · rw [steps,List.all_map,reports.user]
   rfl
 · rw [steps,List.any_map,reports.noExecute]
   rfl

lemma real_of_walk {kernel:(c:KernelCall)→KernelAnswer c}
 (shown:KernelShows memory kernel) {registers:Driver.ControlRegisters} (nonzero:base≠0)
 (aligned:base &&& 0xFFF=0) (mode:registers.la57=target.la57) {length:UInt32}
 (positive:length≠0) (fits:length.toNat ≤ kMaxTransferSize)
 (found:Found (InMemory memory) (DriverReads kernel) target targetPfn
  (Driver.pagingLevels target.la57) base {} usage) :
 ∃ response,(Driver.translateVirtual registers
  (Driver.walkRequest length base usage.virtualAddress)).run kernel=.ok response ∧
  Real targetPfn target.la57 usage response := by
 obtain ⟨raw,_,last,walk,upper,tables,frame,reports⟩:=found
 have bits:=levelShift_pagingLevels target.la57
 have zero:raw/2^addressBits target.la57=0:=by
  rw [←bits,upper]
  exact Nat.zero_div _
 have small : raw<2^addressBits target.la57 :=
  (Nat.div_eq_zero_iff_lt (Nat.two_pow_pos _)).1 zero
 have most:2^addressBits target.la57≤2^57:=by cases target.la57 <;> decide
 have number : (UInt64.ofNat raw).toNat=raw :=
  UInt64.toNat_ofNat_of_lt' (by change _<2^64;omega)
 have low : usage.virtualAddress.toNat%2^addressBits target.la57 =
  raw%2^addressBits target.la57 := by
  rw [reports.address,canonicalize_mod,number]
 have canonical:Driver.isCanonical usage.virtualAddress target.la57=true:=by
  rw [reports.address]
  exact canonicalize_canonical _ _
 have forward:=walk.congr bits.le low.symm
 rw [←mode] at forward
 rw [←Driver.requestBase_walkRequest registers length usage.virtualAddress nonzero] at forward
 obtain ⟨_,snapshot,readable⟩:=driver_reads_walk shown walk tables
 have wellformed : Driver.Wellformed (Driver.walkRequest length base usage.virtualAddress) :=
  ⟨rfl,rfl,positive,fits,fun set=>absurd rfl set,aligned⟩
 refine ⟨_,Driver.translateVirtual_run wellformed (mode ▸ canonical)
  (Driver.translationBase_run wellformed.aligned rfl) snapshot forward readable,?_⟩
 have within:=levelShift_leaf_le walk.leafEntry target.la57
 refine real_of_response forward reports ?_ canonical
 rw [←frame]
 exact congrArg (leafBase last.level last.entry + ·) (mod_pow_congr within low)

end

/-- The mapping is real under the directory table base at which its process was walked. -/
theorem query_sound {mapper : PageTableReverseMapper} {targetPfn : UInt64}
 {output : PfnUsageResult} {t : List ReverseMapEvent}
 (ran : (mapper.query targetPfn).Exec t (.ok output)) {memory : UInt64→UInt8}
 (shown : Shows memory t) {kernel : (c : KernelCall)→KernelAnswer c}
 (kernelShown : KernelShows memory kernel)
 (readable : PageReads (fun table _=>DriverReads kernel table) t) :
 ∀ usage∈output.mappings,usage.isLeaf=true →
  ∃ target∈mapper.targets,usage.pid=target.pid ∧
   usage.processName=target.processName ∧
   ∃ base,Scanned t target base ∧
    ∀ (registers : Driver.ControlRegisters) (length : UInt32),base≠0 →
     base &&& 0xFFF=0 → registers.la57=target.la57 → length≠0 →
     length.toNat ≤ kMaxTransferSize →
     ∃ response,(Driver.translateVirtual registers
      (Driver.walkRequest length base usage.virtualAddress)).run kernel=.ok response ∧
      Real targetPfn target.la57 usage response := by
 intro usage mem leaf
 obtain ⟨_,visits,sorted⟩ := query_exec ran
 have reads : PageReads (fun table data=>DriverReads kernel table ∧
  ShowsEntries (InMemory memory) table data) t := fun table data read whole =>
  ⟨readable table data read whole,shown.entries table data read whole⟩
 rcases visits.adds reads usage ((sorted usage).1 mem) with earlier | new
 · exact absurd earlier List.not_mem_nil
 · obtain ⟨target,listed,base,scanned,found⟩ := new leaf
   have named : usage.pid=target.pid ∧ usage.processName=target.processName := by
    obtain ⟨_,_,_,-,-,-,-,reports⟩ := found
    exact ⟨reports.pid,reports.processName⟩
   refine ⟨target,listed,named.1,named.2,base,scanned,?_⟩
   intro _ _ nonzero aligned mode positive fits
   rw [root_shiftLeft aligned] at found
   exact real_of_walk kernelShown nonzero aligned mode positive fits found

section First
variable {limits:ReverseMapLimits} {target:ProcessScanTarget} {targetPfn tablePfn:UInt64}
 {level:ℕ} {nested:TableWalk}
 {above:Effective} {page:List UInt8} {s:Scan}
 {env:(c:ReverseMapCall)→ReverseMapAnswer c}

lemma visitEntries_absent {indices:List ℕ}
 (absent:∀index∈indices,(decodePageEntry (entryAt page index)).present=false) :
 (visitEntries limits target targetPfn level nested tablePfn above page indices s).run env =
  (.ok (),s) := by
 induction indices with
 | nil => rfl
 | cons _ _ ih =>
  obtain ⟨gone,others⟩:=List.forall_mem_cons.1 absent
  rw [visitEntries,visitEntry]
  simp only [gone,Bool.not_false,if_true]
  exact ih others

/-- The walk of a table in which no entry but the first is present. -/
lemma walkTable_run_first (page:List UInt8) (going:env .stopRequested=false)
 (fresh:tablePfn ∉ s.activePath)
 (room:s.tablePagesRead < limits.maxTablePages) (inside:¬maxUInt64 >>> 12 < tablePfn)
 (read:env (.readPhysical (tablePfn <<< 12) 0x1000)=.ok page)
 (whole:page.length=0x1000)
 (absent:∀index,0 < index → index<512 →
  (decodePageEntry (entryAt page index)).present=false)
 {after:Scan}
 (turn:(visitEntry limits target targetPfn level nested tablePfn above 0 (entryAt page 0)
  { s.enter tablePfn with tablePagesRead := s.tablePagesRead+1 }).run env=(.ok (),after)) :
 (walkTable limits target targetPfn level nested tablePfn above s).run env =
  (.ok (),after.leave tablePfn) := by
 have entries : (visitEntries limits target targetPfn level nested tablePfn above page
  (List.range 512) { s.enter tablePfn with tablePagesRead := s.tablePagesRead+1 }).run env =
   (.ok (),after) := by
  rw [List.range_succ_eq_map,visitEntries,Prog.run_bind,turn]
  refine visitEntries_absent ?_
  intro _ mem
  obtain ⟨_,below,rfl⟩:=List.mem_map.1 mem
  exact absent _ (Nat.succ_pos _) (Nat.succ_lt_succ (List.mem_range.1 below))
 have answered:tablePage limits (.ok page)=.ok page:=if_neg (not_not.2 whole)
 refine (Prog.run_bind env (Prog.ask ReverseMapCall.stopRequested) _).trans ?_
 rw [show Prog.run env (Prog.ask ReverseMapCall.stopRequested)=false from going,
  if_neg fresh,if_neg (Nat.not_le.2 room),if_neg inside]
 refine (Prog.run_bind env (Prog.ask (ReverseMapCall.readPhysical (tablePfn <<< 12) 0x1000)) _).trans ?_
 rw [show Prog.run env (Prog.ask (ReverseMapCall.readPhysical (tablePfn <<< 12) 0x1000)) =
  .ok page from read,answered]
 rw [Prog.run_bind,entries]
 rfl

end First

/-- A backend over the sample memory that reads the pages for which `readable` holds. -/
def sampleBackend (readable : UInt64→Bool) : (c : ReverseMapCall)→ReverseMapAnswer c
 | .stopRequested => false
 | .connected => true
 | .getProcessContext _ => (.error (queryError .notFound "no process") : Result _)
 | .readPhysical address length =>
  (if readable address then .ok (bytesAt sampleMemory address length.toNat)
   else .error (queryError .backendDisconnected "unreadable") : Result (List UInt8))

lemma sampleMemory_zero {address:UInt64} (far:8 ≤ address.toNat%4096) :
 sampleMemory address=0 := by
 have other (place:UInt64) (near:place.toNat%4096<8) : address≠place := by
  rintro rfl
  omega
 rw [sampleMemory,if_neg (other _ (by decide)),if_neg (other _ (by decide)),
  if_neg (other _ (by decide)),if_neg (other _ (by decide))]

lemma sampleMemory_absent (aligned:table &&& 0xFFF=0) {index:ℕ} (positive:0 < index)
 (small:index<512) : quadAt sampleMemory (entryAddress table index)=0 := by
 have low:table.toNat%4096=0:=by rw [←toNat_and_offset,aligned];rfl
 have bytes:bytesAt sampleMemory (entryAddress table index) 8=List.replicate 8 0:=by
  refine (List.map_congr_left fun i mem=>sampleMemory_zero ?_).trans rfl
  have inEntry:=List.mem_range.1 mem
  rw [UInt64.toNat_add,toNat_entryAddress aligned small,
   UInt64.toNat_ofNat_of_lt' (by change _<2^64;omega)]
  omega
 rw [quadAt,bytes]
 rfl

def sampleTarget : ProcessScanTarget where
 pid := 1
 directoryTableBase := 0x1000

def sampleMapper : PageTableReverseMapper where
 targets := [sampleTarget]

def sampleUsage : ProcessUsage where
 pid := 1
 virtualAddress := 0x123000
 pteAddress := 0x2000
 pageSize := 0x40000000
 mappingType := "1 GiB large page"
 source := name
 confidence := .high
 writable := true
 userAccessible := false
 noExecute := false

def sampleScan (activePath : List UInt64) : Scan where
 mappings := [sampleUsage]
 seenMappings := [keyOf sampleUsage]
 tablePagesRead := 2
 activePath := activePath

section Sample
variable {readable:UInt64→Bool}

lemma sampleTable_run (tablePfn:UInt64) {level:ℕ}
 {nested:TableWalk}
 {above:Effective} (s after:Scan) (read:readable (tablePfn <<< 12)=true)
 (aligned:tablePfn <<< 12 &&& 0xFFF=0)
 (fresh:tablePfn ∉ s.activePath) (room:s.tablePagesRead<10)
 (inside:¬maxUInt64 >>> 12 < tablePfn)
 (turn:(visitEntry {} sampleTarget 0x40123 level nested tablePfn above 0
  (quadAt sampleMemory (entryAddress (tablePfn <<< 12) 0))
  { s.enter tablePfn with tablePagesRead := s.tablePagesRead+1 }).run
    (sampleBackend readable)=(.ok (),after)) :
 (walkTable {} sampleTarget 0x40123 level nested tablePfn above s).run (sampleBackend readable) =
  (.ok (),after.leave tablePfn) := by
 have entry {index:ℕ} (small:index<512) :=
  entryAt_bytesAt sampleMemory (tablePfn <<< 12) small
 refine walkTable_run_first (bytesAt sampleMemory (tablePfn <<< 12) 0x1000) rfl fresh ?_ inside
  (if_pos read) ?_ ?_ ?_
 · exact room.trans (by decide)
 · simp [bytesAt]
 · intro _ positive small
   rw [entry small,sampleMemory_absent aligned positive small]
   rfl
 · rw [entry (by decide)]
   exact turn

lemma sampleLeaf_run (nested:UInt64→Effective→Scan→ReverseMapM (Result Unit×Scan)) :
 (visitEntry {} sampleTarget 0x40123 3 nested 2 (({} : Effective).under 4 0 0x2007) 0
  (quadAt sampleMemory (entryAddress ((2 : UInt64) <<< 12) 0))
  { tablePagesRead := 2,activePath := [2,1] }).run (sampleBackend readable) =
    (.ok (),sampleScan [2,1]) := rfl

lemma sampleQuery_run (readable:UInt64→Bool) (first:readable 0x1000=true)
 (second:readable 0x2000=true) :
 (sampleMapper.query 0x40123).run (sampleBackend readable) =
  .ok ⟨0x40123,[sampleUsage],name⟩ := by
 have lower : (walk {} sampleTarget 0x40123 3 2 (({} : Effective).under 4 0 0x2007)
  { tablePagesRead := 1,activePath := [1] }).run (sampleBackend readable) =
    (.ok (),sampleScan [1]) :=
  sampleTable_run 2 _ (sampleScan [2,1]) second (by decide) (by decide) (by decide) (by decide)
   (sampleLeaf_run _)
 have turn : (visitEntry {} sampleTarget 0x40123 4 (walk {} sampleTarget 0x40123 3) 1 {} 0
  (quadAt sampleMemory (entryAddress ((1 : UInt64) <<< 12) 0))
  { tablePagesRead := 1,activePath := [1] }).run (sampleBackend readable) =
    (.ok (),sampleScan [1]) := by
  refine (Prog.run_bind (sampleBackend readable) (walk {} sampleTarget 0x40123 3 2
   (({} : Effective).under 4 0 0x2007) { tablePagesRead := 1,activePath := [1] }) _).trans ?_
  rw [lower]
  rfl
 have upper : (walk {} sampleTarget 0x40123 4 1 {} {}).run (sampleBackend readable) =
  (.ok (),sampleScan []) :=
  sampleTable_run 1 _ (sampleScan [1]) first (by decide) (by decide) (by decide) (by decide) turn
 have target : (scanTarget {} 0x40123 sampleTarget {}).run (sampleBackend readable) =
  .ok (sampleScan []) := by
  refine (Prog.run_bind (sampleBackend readable) (walk {} sampleTarget 0x40123 4 1 {} {})
   _).trans ?_
  rw [upper]
  rfl
 refine (Prog.run_bind (sampleBackend readable) (scanTargets {} 0x40123 [sampleTarget] {})
  _).trans ?_
 rw [scanTargets,Prog.run_bind,target]
 change Except.ok (PfnUsageResult.mk 0x40123 ([sampleUsage].mergeSort _) name)=_
 rw [List.mergeSort_singleton]

/-- The reads of a trace that the sample backend answered. -/
lemma sampleBackend_read (answered:∀e∈t,e.answer=sampleBackend readable e.call)
 {address:UInt64} {length:UInt32} {read:Result (List UInt8)}
 (mem:(⟨.readPhysical address length,read⟩ : ReverseMapEvent)∈t) :
 read=if readable address then .ok (bytesAt sampleMemory address length.toNat)
  else .error (queryError .backendDisconnected "unreadable") :=
 answered _ mem

lemma sampleBackend_shows (answered:∀e∈t,e.answer=sampleBackend readable e.call) :
 Shows sampleMemory t := by
 intro _ _ _ mem _
 have read:=sampleBackend_read answered mem
 split at read
 · exact Except.ok.inj read
 · cases read

end Sample

lemma sampleKernel_ram (address:UInt64) (low:0x1000 ≤ address.toNat)
 (high:address.toNat<0x3000) :
 isPhysicalRamRange [⟨0x1000,0x10000000⟩] address 8=true := by
 have sum:(address+8).toNat=address.toNat+8:=by
  rw [UInt64.toNat_add]
  change (_+8)%2^64=_
  omega
 have fits:checkedEnd address 8=some (address+8):=by
  rw [checkedEnd,if_neg (by decide),if_neg]
  rw [UInt64.lt_iff_toNat_lt]
  change ¬ 2^64-1-8 < _
  omega
 have inside:0x1000 ≤ address ∧ address+8≤0x1000+0x10000000:=by
  rw [UInt64.le_iff_toNat_le,UInt64.le_iff_toNat_le]
  exact ⟨low,by change _≤0x10001000;omega⟩
 rw [isPhysicalRamRange,fits]
 change (decide _ && decide _ || false)=true
 rw [decide_eq_true inside.1,decide_eq_true inside.2]
 rfl

lemma sampleKernel_reads (listed:table∈[0x1000,0x2000]) :
 DriverReads sampleKernel table := by
 refine ⟨[⟨0x1000,0x10000000⟩],rfl,fun index small => ?_⟩
 obtain ⟨aligned,_,_⟩ :
  table &&& 0xFFF=0 ∧ 0x1000 ≤ table.toNat ∧ table.toNat≤0x2000 := by
  rcases List.mem_pair.1 listed with rfl|rfl <;> decide
 have place:=toNat_entryAddress aligned small
 have inRam:=sampleKernel_ram (entryAddress table index) (by omega) (by omega)
 refine ⟨quadAt sampleMemory (entryAddress table index),?_⟩
 unfold Driver.readPhysicalU64 readPhysicalWithSnapshot
 rw [inRam]
 rfl

theorem sampleQuery_sound :
 ∃ response,(Driver.translateVirtual ⟨0x1000,0,fun _=>0⟩
  (Driver.walkRequest 1 0x1000 0x123000)).run sampleKernel=.ok response ∧
   Real 0x40123 false sampleUsage response := by
 obtain ⟨t,ran,answered⟩ := Prog.exec_run (sampleBackend (· ∈ [0x1000,0x2000]))
  (sampleMapper.query 0x40123)
 rw [sampleQuery_run _ (by decide) (by decide)] at ran
 have readable : PageReads (fun table _=>DriverReads sampleKernel table) t := by
  intro _ _ mem _
  have read := sampleBackend_read answered mem
  split at read
  · rename_i listed
    exact sampleKernel_reads (of_decide_eq_true listed)
  · cases read
 obtain ⟨_,listed,-,-,_,scanned,real⟩ := query_sound ran
  (sampleBackend_shows answered) sampleKernel_shows readable sampleUsage List.mem_cons_self rfl
 obtain rfl := List.mem_singleton.1 listed
 rcases scanned with ⟨-,rfl⟩ | ⟨none,-⟩
 · exact real ⟨0x1000,0,fun _=>0⟩ 1 (by decide) (by decide) rfl (by decide) (by decide)
 · exact absurd none (by decide)

end PageTableReverseMapper
end KDbg
