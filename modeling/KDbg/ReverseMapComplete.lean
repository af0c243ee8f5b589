import KDbg.ReverseMapQuery
set_option autoImplicit false
/-! A query that read every table it came to reports every page that maps the
target frame, when no table lies twice on the path to the page. -/
namespace KDbg
open Interaction BitFields

namespace PageTableReverseMapper
open Driver (sampleKernel sampleKernel_shows)

def AllRead (t : List ReverseMapEvent) : Prop :=
 ∀ (table : UInt64) (read : Result (List UInt8)),
  (⟨.readPhysical table 0x1000,read⟩ : ReverseMapEvent)∈t →
   ∃ data,read=.ok data ∧ data.length=0x1000

lemma AllRead.mono {t u:List ReverseMapEvent} (sub:u ⊆ t) (all:AllRead t) : AllRead u :=
 fun table read mem=>all table read (sub mem)

/-- The key of the mapping that a walk to the target makes. -/
def walkKey (target : ProcessScanTarget) (raw : ℕ) (last : Visit) : MappingKey :=
 ⟨target.pid,canonicalizeVirtualAddress (UInt64.ofNat raw) target.la57,last.address,
  leafPageSize last.level,leafName last.level⟩

/-- A walk that the mapper follows to the target: no table is active already, none comes twice, and
 the entries of the upper levels name tables. -/
structure Followable (Holds : UInt64→UInt64→Prop) (targetPfn : UInt64) (level : ℕ)
 (table : UInt64) (above : Effective) (active : List UInt64) (raw : ℕ) (visits : List Visit)
 (last : Visit) : Prop where
 walk : PageWalk Holds raw level table visits last true
 upper : raw/2^(levelShift level+9) =
  above.virtualPrefix.toNat/2^(levelShift level+9)
 small : raw<2^64
 distinct : (visits.map Visit.table).Nodup
 fresh : ∀ visit∈visits,∀ pfn∈active,pfn <<< 12≠visit.table
 plain : ∀ visit∈visits,4 ≤ visit.level → visit.flags.pageSize=false
 frame : leafBase last.level last.entry+raw%2^levelShift last.level=4096*targetPfn.toNat

section Leaf
variable {targetPfn:UInt64} {level:ℕ} {above:Effective} {entry:UInt64} {raw:ℕ}

lemma raw_eq {base shift:ℕ} (aligned:base%2^(shift+9)=0)
 (upper:raw/2^(shift+9)=base/2^(shift+9)) :
 raw=base+raw/2^shift%512*2^shift+raw%2^shift := by
 have split:2^(shift+9)=2^shift*512:=Nat.pow_add 2 shift 9
 have base_eq:=Nat.div_add_mod base (2^(shift+9))
 have low:=Nat.div_add_mod raw (2^shift)
 have middle:=Nat.div_add_mod (raw/2^shift) 512
 rw [aligned,←upper,split,←Nat.div_div_eq_div_mul] at base_eq
 rw [←base_eq]
 calc raw=2^shift*(512*(raw/2^shift/512)+raw/2^shift%512) +
  raw%2^shift := by rw [middle,low]
  _=_ := by ring

/-- The mapping of a leaf entry has the key of the walk that ends there. -/
lemma key_leafUsage (target:ProcessScanTarget) (tablePfn:UInt64) (low:1 ≤ level)
 (high:level≤5) (aligned:above.Above level)
 (upper:raw/2^(levelShift level+9) =
  above.virtualPrefix.toNat/2^(levelShift level+9))
 (frame:leafBase level entry+raw%2^levelShift level=4096*targetPfn.toNat) :
 keyOf (leafUsage target targetPfn level tablePfn above (tableIndex level raw) entry) =
  walkKey target raw ⟨level,tablePfn <<< 12,tableIndex level raw,entry⟩ := by
 have position:=toNat_under entry low high (tableIndex_lt level raw) aligned
 have offset:4096*targetPfn.toNat-leafBase level entry=raw%2^levelShift level:=by
  omega
 have whole : (above.under level (tableIndex level raw) entry).virtualPrefix.toNat +
  (4096*targetPfn.toNat-leafBase level entry)=raw := by
  rw [position,offset]
  exact (raw_eq aligned upper).symm
 unfold leafUsage walkKey
 dsimp only
 rw [whole]
 rfl

lemma maps_of_frame
 (frame:leafBase level entry+raw%2^levelShift level=4096*targetPfn.toNat) :
 Maps level entry targetPfn := by
 exact ⟨by omega,by omega⟩

end Leaf

/-- What is left of a followable walk one level down, with the table of its first entry active. -/
lemma Followable.under {Holds:UInt64→UInt64→Prop} {targetPfn tablePfn:UInt64} {level:ℕ}
 {above:Effective} {active:List UInt64} {raw:ℕ} {entry:UInt64} {visits:List Visit}
 {last:Visit} (low:1 ≤ level) (high:level+1≤5) (aligned:above.Above (level+1))
 (followable:Followable Holds targetPfn (level+1) (tablePfn <<< 12) above active raw
  (⟨level+1,tablePfn <<< 12,tableIndex (level+1) raw,entry⟩::visits) last)
 (rest:PageWalk Holds raw level (entry &&& kX64PageEntryAddressMask) visits last true) :
 Followable Holds targetPfn level (((entry &&& kX64PageEntryAddressMask) >>> 12) <<< 12)
  (above.under (level+1) (tableIndex (level+1) raw) entry) (tablePfn::active) raw visits
  last := by
 obtain ⟨_,upper,small,distinct,fresh,plain,frame⟩:=followable
 have step:levelShift level+9=levelShift (level+1):=by unfold levelShift;omega
 have lt:=Nat.mod_lt raw (Nat.two_pow_pos (levelShift (level+1)))
 rw [List.map_cons,List.nodup_cons] at distinct
 rw [nextPfn_shiftLeft]
 refine ⟨rest,?_,small,distinct.2,?_,?_,frame⟩
 · rw [step,toNat_under entry (by omega) high (tableIndex_lt _ _) aligned]
   have quotient:=(offset_of_prefixed (tableIndex (level+1) raw) aligned lt).1
   unfold tableIndex at quotient ⊢
   rw [←raw_eq aligned upper] at quotient
   exact quotient
 · intro later mem pfn listed
   rcases List.mem_cons.1 listed with rfl|earlier
   · intro same
     exact distinct.1 (List.mem_map.2 ⟨later,mem,same.symm⟩)
   · exact fresh later (List.mem_cons_of_mem _ mem) pfn earlier
 · exact fun later mem=>plain later (List.mem_cons_of_mem _ mem)

section Complete
variable {Holds:UInt64→UInt64→Prop} {limits:ReverseMapLimits}
 {target:ProcessScanTarget} {targetPfn tablePfn:UInt64} {level:ℕ}
 {nested:TableWalk} {above:Effective}
 {s after:Scan} {t:List ReverseMapEvent}
 (functional:∀place entry entry',Holds place entry→Holds place entry' → entry=entry')

include functional

section
variable {visits:List Visit} {active:List UInt64}

def Covers (Holds : UInt64→UInt64→Prop) (target : ProcessScanTarget) (targetPfn : UInt64)
 (level : ℕ) (tablePfn : UInt64) (above : Effective) (active : List UInt64) (after : Scan) :
 Prop :=
 ∀ raw visits last,
  Followable Holds targetPfn level (tablePfn <<< 12) above active raw visits last →
   ∃ usage∈after.mappings,keyOf usage=walkKey target raw last

lemma EntryVisit.covers {raw:ℕ} {last:Visit} {entry:UInt64}
 (high:level+1≤5) (aligned:above.Above (level+1)) (consistent:s.Consistent)
 (path:s.activePath=tablePfn::active)
 (held:Holds (entryAddress (tablePfn <<< 12) (tableIndex (level+1) raw)) entry)
 (inner:∀{pfn here s t after},1 ≤ level → pfn.toNat<2^52 → here.Above level →
  s.Consistent→(nested pfn here s).Exec t (.ok (),after)→AllRead t →
  PageReads (ShowsEntries Holds) t →
  Covers Holds target targetPfn level pfn here s.activePath after) (all:AllRead t)
 (reads:PageReads (ShowsEntries Holds) t)
 (visit:EntryVisit limits target targetPfn (level+1) nested tablePfn above
  (tableIndex (level+1) raw) entry s t (.ok (),after))
 (followable:Followable Holds targetPfn (level+1) (tablePfn <<< 12) above active raw visits
  last) : ∃ usage∈after.mappings,keyOf usage=walkKey target raw last := by
 have walk:=followable.walk
 generalize ends : true=translated at walk
 cases walk with
 | absent => cases ends
 | @leaf _ _ _ held' kind =>
  obtain rfl := functional _ _ _ held held'
  have maps:=maps_of_frame followable.frame
  have key:=key_leafUsage target tablePfn (by omega) high aligned followable.upper
   followable.frame
  generalize done : ((.ok (),after) : Result Unit×Scan)=out at visit
  cases visit with
  | skip noLeaf => exact absurd ⟨kind,maps⟩ noLeaf
  | leaf =>
   have appended:=appendMapping_appended limits
    (leafUsage target targetPfn (level+1) tablePfn above (tableIndex (level+1) raw) entry) s
   rw [←done] at appended
   obtain ⟨usage,mem,same⟩:=appended.reported consistent
   exact ⟨usage,mem,same.trans key⟩
  | refused => cases done
  | followed table => exact (kind.not_table table.1).elim
 | @next _ _ _ visits _ _ held' kind rest =>
  cases ends
  obtain rfl := functional _ _ _ held held'
  have low:1 ≤ level:=Nat.le_of_succ_le_succ kind.2.1
  have followed : Followed (level+1) entry :=
   ⟨kind,followable.plain _ List.mem_cons_self⟩
  generalize done : ((.ok (),after) : Result Unit×Scan)=out at visit
  cases visit with
  | skip _ noTable => exact absurd followed noTable
  | leaf leaf => exact (leaf.not_table kind).elim
  | refused => cases done
  | @followed _ mapped _ t result reported ran =>
   have kept:=tableMapping_keeps reported
   have small:((entry &&& kX64PageEntryAddressMask) >>> 12).toNat<2^52:=by
    have lt:=(entry &&& kX64PageEntryAddressMask).toNat_lt
    rw [toNat_shiftRight 12 (by decide)]
    change _/4096 < _
    omega
   cases result with
   | error => cases done
   | ok =>
    cases done
    have covers:=inner low small (under_above entry low high (tableIndex_lt _ _) aligned)
     (kept.grows.consistent consistent) ran all reads
    have active:mapped.activePath=tablePfn::_:=(kept.path rfl).trans path
    rw [active] at covers
    exact covers raw visits last (followable.under low high aligned rest)

lemma EntryVisits.covers {raw:ℕ} {last:Visit} {page:List UInt8} {indices:List ℕ}
 {out:Result Unit×Scan}
 (high:level+1≤5) (aligned:above.Above (level+1)) (consistent:s.Consistent)
 (path:s.activePath=tablePfn::active) (shown:ShowsEntries Holds (tablePfn <<< 12) page)
 (keeps:∀{pfn here s t out},(nested pfn here s).Exec t out→Keeps limits s out)
 (inner:∀{pfn here s t after},1 ≤ level → pfn.toNat<2^52 → here.Above level →
  s.Consistent→(nested pfn here s).Exec t (.ok (),after)→AllRead t →
  PageReads (ShowsEntries Holds) t →
  Covers Holds target targetPfn level pfn here s.activePath after) (all:AllRead t)
 (reads:PageReads (ShowsEntries Holds) t)
 (turns:EntryVisits limits target targetPfn (level+1) nested tablePfn above page indices s t
  out) (done:out.1=.ok ()) (mem:tableIndex (level+1) raw∈indices)
 (followable:Followable Holds targetPfn (level+1) (tablePfn <<< 12) above active raw visits
  last) : ∃ usage∈out.2.mappings,keyOf usage=walkKey target raw last := by
 induction turns with
 | nil => exact absurd mem List.not_mem_nil
 | stop => cases done
 | @next _ _ s _ t u _ turn later ih =>
  have kept:=turn.keeps keeps
  rcases List.mem_cons.1 mem with rfl|further
  · obtain ⟨usage,found,same⟩:=turn.covers functional high aligned consistent path
     (shown _ (tableIndex_lt _ _)) inner (all.mono (List.subset_append_left _ _)) reads.left
     followable
    exact ⟨usage,(later.keeps keeps).grows.mappings found,same⟩
  · exact ih (kept.grows.consistent consistent) ((kept.path rfl).trans path)
     (all.mono (List.subset_append_right _ _)) reads.right done further

end

lemma walk_covers
 (low:1 ≤ level) (high:level≤5) (pfn:tablePfn.toNat<2^52)
 (aligned:above.Above level) (consistent:s.Consistent)
 (ran:(walk limits target targetPfn level tablePfn above s).Exec t (.ok (),after))
 (all:AllRead t) (reads:PageReads (ShowsEntries Holds) t) :
 Covers Holds target targetPfn level tablePfn above s.activePath after := by
 induction level generalizing tablePfn above s t after with
 | zero => exact absurd low (by decide)
 | succ _ ih =>
  intro _ _ _ followable
  generalize done : ((.ok (),after) : Result Unit×Scan)=out at ran
  cases walkTable_exec ran with
  | failed => cases done
  | active _ mem =>
   obtain ⟨visit,first,table⟩:=followable.walk.first
   exact absurd table.symm (followable.fresh visit (List.mem_of_getElem? first) tablePfn mem)
  | beyond _ big =>
   have large:=UInt64.lt_iff_toNat_lt.1 big
   change 2^52-1 < _ at large
   omega
  | unread _ none =>
   obtain ⟨_,rfl,whole⟩:=all _ _ (List.mem_cons_of_mem _ List.mem_cons_self)
   simp [tablePage,whole] at none
  | @read stopped page t result _ count whole _ visited =>
   have sub : t ⊆ (⟨.stopRequested,stopped⟩::⟨.readPhysical (tablePfn <<< 12) 0x1000,
    .ok page⟩::t : List ReverseMapEvent) := fun e mem =>
     List.mem_cons_of_mem _ (List.mem_cons_of_mem _ mem)
   have shown:=reads _ page (List.mem_cons_of_mem _ List.mem_cons_self) whole
   cases result with
   | error => cases done
   | ok =>
    cases done
    have entered : Scan.Consistent { s.enter tablePfn with tablePagesRead := count } :=
     consistent
    exact (visitEntries_exec (by omega) high visited).covers functional high aligned entered rfl
     shown (fun ran=>walk_keeps (by omega) ran)
     (fun low pfn aligned consistent ran all reads =>
      ih low (by omega) pfn aligned consistent ran all reads)
     (all.mono sub) (reads.mono sub) rfl (List.mem_range.2 (tableIndex_lt _ _)) followable

end Complete

section
variable {limits:ReverseMapLimits} {targetPfn:UInt64} {target:ProcessScanTarget}
 {t:List ReverseMapEvent}

lemma TargetVisit.grows {s after:Scan} (visit:TargetVisit limits targetPfn target s t after) :
 Grows s after := by
 cases visit with
 | idle | unknown => exact .refl s
 | @walked _ mapped _ u _ _ root ran =>
  have first:Grows s mapped:=by
   rcases rootMapping_appended root with same|⟨_,-,appended⟩
   · cases same
     exact .refl s
   · exact appended.grows
  have emptied:Grows mapped { mapped with activePath := [] }:=.of_eq rfl rfl
  exact (first.trans emptied).trans (walk_keeps (Driver.pagingLevels_le target.la57) ran).grows

lemma TargetVisits.grows {targets:List ProcessScanTarget} {s after:Scan}
 (visits:TargetVisits limits targetPfn t targets s after) : Grows s after := by
 induction visits with
 | nil s => exact .refl s
 | cons turn _ ih => exact turn.grows.trans ih

/-- The table base of a target could not be found out, or what can be followed from it is
 reported. -/
def CoversTarget (Holds : UInt64→UInt64→Prop) (targetPfn : UInt64) (t : List ReverseMapEvent)
 (target : ProcessScanTarget) (after : Scan) : Prop :=
 target.directoryTableBase=0 ∧ (∃ error : Error,
  (⟨.getProcessContext target.pid, .error error⟩ : ReverseMapEvent)∈t) ∨
  ∃ base,Scanned t target base ∧
   Covers Holds target targetPfn (Driver.pagingLevels target.la57)
    ((base &&& ~~~0xFFF) >>> 12) {} [] after

lemma CoversTarget.grows {Holds:UInt64→UInt64→Prop} {s after:Scan}
 (covers:CoversTarget Holds targetPfn t target s) (grows:Grows s after) :
 CoversTarget Holds targetPfn t target after := by
 refine covers.imp_right ?_
 rintro ⟨base,scanned,covered⟩
 refine ⟨base,scanned,fun raw visits last followable => ?_⟩
 obtain ⟨usage,mem,key⟩:=covered raw visits last followable
 exact ⟨usage,grows.mappings mem,key⟩

end

section Targets
variable {Holds:UInt64→UInt64→Prop} {limits:ReverseMapLimits}
 {target:ProcessScanTarget} {targetPfn:UInt64} {s after:Scan} {t:List ReverseMapEvent}
 (functional:∀place entry entry',Holds place entry→Holds place entry' → entry=entry')

include functional

lemma TargetVisit.covers
 (nonzero:target.pid≠0) (consistent:s.Consistent) (all:AllRead t)
 (reads:PageReads (ShowsEntries Holds) t)
 (visit:TargetVisit limits targetPfn target s t after) :
 CoversTarget Holds targetPfn t target after := by
 cases visit with
 | idle none => exact absurd none nonzero
 | unknown error given refused => exact .inl ⟨given,error,refused⟩
 | @walked base mapped _ u scanned inside root ran =>
  refine .inr ⟨base,scanned,?_⟩
  have kept:Scan.Consistent { mapped with activePath := [] }:=by
   rcases rootMapping_appended root with same|⟨_,-,appended⟩
   · cases same
     exact consistent
   · exact appended.grows.consistent consistent
  have small:((base &&& ~~~0xFFF) >>> 12).toNat<2^52:=by
   have lt:=(base &&& ~~~0xFFF).toNat_lt
   rw [toNat_shiftRight 12 (by decide)]
   change _/4096 < _
   omega
  exact walk_covers functional (Driver.pagingLevels_pos target.la57)
   (Driver.pagingLevels_le target.la57) small (above_root target.la57) kept ran
   (all.mono inside) (reads.mono inside)

lemma TargetVisits.covers {targets:List ProcessScanTarget}
 (nonzero:target.pid≠0) (listed:target∈targets) (consistent:s.Consistent)
 (all:AllRead t) (reads:PageReads (ShowsEntries Holds) t)
 (visits:TargetVisits limits targetPfn t targets s after) :
 CoversTarget Holds targetPfn t target after := by
 induction visits with
 | nil => exact absurd listed List.not_mem_nil
 | cons turn rest ih =>
  rcases List.mem_cons.1 listed with rfl|later
  · exact (turn.covers functional nonzero consistent all reads).grows rest.grows
  · exact ih later (turn.grows.consistent consistent)

end Targets

/-- A translation that ends in the frame, comes to no table twice and finds bit 7 clear in the
 entries of the two upper levels. -/
structure EndsIn (targetPfn : UInt64) (response : Device.TranslateResponse) : Prop where
 present : response.flags &&& Device.kTranslateFlagPresent≠0
 frame : response.physicalAddress >>> 12=targetPfn
 distinct : (response.stepList.map fun step=>step.entryPhysicalAddress &&& ~~~0xFFF).Nodup
 plain : ∀ step∈response.stepList,4 ≤ step.level →
  (decodePageEntry step.entryValue).pageSize=false

/-- The address of an entry determines the table it is in. -/
lemma entryAddress_table {table:UInt64} {index:ℕ} (aligned:table &&& 0xFFF=0)
 (small:index<512) : entryAddress table index &&& ~~~0xFFF=table := by
 have low:table.toNat%4096=0:=by rw [←toNat_and_offset,aligned];rfl
 apply UInt64.toNat_inj.1
 change (entryAddress table index &&& 0xFFFFFFFFFFFFF000).toNat=_
 rw [toNat_and_page,toNat_entryAddress aligned small]
 omega

/-- The physical address of a page-aligned virtual address starts a frame. -/
lemma frame_of_page {level:ℕ} {entry targetPfn physicalAddress:UInt64} {raw:ℕ}
 (page:raw%4096=0)
 (physical:physicalAddress.toNat=leafBase level entry+raw%2^levelShift level)
 (frame:physicalAddress >>> 12=targetPfn) :
 leafBase level entry+raw%2^levelShift level=4096*targetPfn.toNat := by
 have quotient:physicalAddress.toNat/4096=targetPfn.toNat:=by
  rw [←frame,toNat_shiftRight 12 (by decide)]
  rfl
 have whole:=leafBase_dvd level entry
 have offset:raw%2^levelShift level%4096=0:=by
  have divides:4096 ∣ 2^levelShift level:=by
   exact Nat.pow_dvd_pow 2 (Nat.le_add_right 12 _)
  rw [Nat.mod_mod_of_dvd _ divides,page]
 omega

section Response
variable {Holds:UInt64→UInt64→Prop} {la57:Bool} {visits:List Visit} {last:Visit}
 {request:Device.TranslateRequest} {base targetPfn:UInt64}

lemma EndsIn.translated {translated:Bool}
 (ends:EndsIn targetPfn (Driver.walkResponse request
  (Driver.startResponse request base 0 la57) visits last translated))
 (walk:PageWalk Holds request.virtualAddress.toNat (Driver.pagingLevels la57) base visits last
  translated) : translated=true :=
 (Driver.walkResponse_tell request base walk).present.symm.trans (bne_iff_ne.2 ends.present)

/-- A translation that ends in the frame is a walk that the mapper follows from the root. -/
lemma followable_of_response (aligned:base &&& 0xFFF=0)
 (page:request.virtualAddress &&& 0xFFF=0)
 (walk:PageWalk Holds request.virtualAddress.toNat (Driver.pagingLevels la57) base visits last
  true)
 (ends:EndsIn targetPfn (Driver.walkResponse request
  (Driver.startResponse request base 0 la57) visits last true)) :
 Followable Holds targetPfn (Driver.pagingLevels la57) base {} []
  (request.virtualAddress.toNat%2^addressBits la57) visits last := by
 obtain ⟨-,frame,distinct,plain⟩:=ends
 obtain ⟨steps,physical,-,-⟩:=Driver.walkResponse_page walk
 have bits:=levelShift_pagingLevels la57
 have lt:=Nat.mod_lt request.virtualAddress.toNat (Nat.two_pow_pos (addressBits la57))
 have most:2^addressBits la57≤2^57:=by cases la57 <;> decide
 refine ⟨walk.congr bits.le (Nat.mod_mod _ _).symm,?_,by omega,?_,by simp,?_,?_⟩
 · rw [bits,Nat.div_eq_of_lt lt]
   exact (Nat.zero_div _).symm
 · rw [steps,List.map_map] at distinct
   refine (List.map_congr_left fun visit mem => ?_) ▸ distinct
   exact entryAddress_table (walk.table_aligned aligned visit mem) (walk.index_lt mem)
 · intro visit mem high
   rw [steps] at plain
   refine plain visit.wire (List.mem_map_of_mem mem) ?_
   obtain ⟨i,found⟩:=List.getElem?_of_mem mem
   have place:=(walk.visit_at (Driver.pagingLevels_pos la57) found).1
   have levels:=Driver.pagingLevels_le la57
   have number : (UInt32.ofNat visit.level).toNat=visit.level :=
    UInt32.toNat_ofNat_of_lt' (by change _<2^32;omega)
   change 4 ≤ UInt32.ofNat visit.level
   rw [UInt32.le_iff_toNat_le,number]
   exact high
 · rw [mod_pow_congr (levelShift_leaf_le walk.leafEntry la57) (Nat.mod_mod _ _)]
   refine frame_of_page ?_ physical frame
   rw [←toNat_and_offset,page]
   rfl

end Response

lemma leafName_isLeaf {usage:ProcessUsage} {level:ℕ}
 (name:usage.mappingType=leafName level) : usage.isLeaf=true := by
 unfold ProcessUsage.isLeaf
 rw [name]
 unfold leafName
 split <;> decide

/-- A leaf mapping of the process that covers the address with a page of the size that the
 translation found. -/
structure CoveredBy (target : ProcessScanTarget) (virtualAddress : UInt64)
 (response : Device.TranslateResponse) (usage : ProcessUsage) : Prop where
 leaf : usage.isLeaf=true
 pid : usage.pid=target.pid
 address : usage.virtualAddress=virtualAddress
 pageSize : usage.pageSize=response.pageSize
 pte : response.stepList.getLast?.map (·.entryPhysicalAddress)=some usage.pteAddress

/-- A mapping with the key of a translation covers its address. -/
lemma coveredBy_of_key {Holds:UInt64→UInt64→Prop} {target:ProcessScanTarget}
 {visits:List Visit} {last:Visit} {request:Device.TranslateRequest} {base:UInt64}
 {usage:ProcessUsage}
 (walk:PageWalk Holds request.virtualAddress.toNat (Driver.pagingLevels target.la57) base
  visits last true)
 (canonical:Driver.isCanonical request.virtualAddress target.la57=true)
 (key:keyOf usage =
  walkKey target (request.virtualAddress.toNat%2^addressBits target.la57) last) :
 CoveredBy target request.virtualAddress (Driver.walkResponse request
  (Driver.startResponse request base 0 target.la57) visits last true) usage := by
 obtain ⟨steps,-,size,-⟩:=Driver.walkResponse_page walk
 injection key with pid address pte pageSize name
 refine ⟨leafName_isLeaf name,pid,?_,pageSize.trans size.symm,?_⟩
 · rw [address,canonicalize_of_canonical canonical]
 · rw [steps,List.getLast?_map,walk.getLast?,pte]
   rfl

/-- Every translation that ends in the frame is covered by a leaf mapping of the same size. -/
theorem query_complete {mapper : PageTableReverseMapper} {targetPfn : UInt64}
 {output : PfnUsageResult} {t : List ReverseMapEvent}
 (ran : (mapper.query targetPfn).Exec t (.ok output)) {memory : UInt64→UInt8}
 (shown : Shows memory t) (all : AllRead t) {kernel : (c : KernelCall)→KernelAnswer c}
 (kernelShown : KernelShows memory kernel) :
 ∀ target∈mapper.targets,target.pid≠0 →
  (target.directoryTableBase=0 ∧ ∃ error : Error,
   (⟨.getProcessContext target.pid, .error error⟩ : ReverseMapEvent)∈t) ∨
  ∃ base,Scanned t target base ∧
   (base≠0 → base &&& 0xFFF=0 →
    ∀ (registers : Driver.ControlRegisters) (length : UInt32) (virtualAddress : UInt64)
     (response : Device.TranslateResponse),registers.la57=target.la57 →
     virtualAddress &&& 0xFFF=0 →
     (Driver.translateVirtual registers
      (Driver.walkRequest length base virtualAddress)).run kernel=.ok response →
     EndsIn targetPfn response →
     ∃ usage∈output.mappings,CoveredBy target virtualAddress response usage) := by
 intro _ listed nonzero
 obtain ⟨_,visits,sorted⟩ := query_exec ran
 have initial : Scan.Consistent {} := fun _ mem=>absurd mem List.not_mem_nil
 refine (visits.covers (inMemory_functional memory) nonzero listed initial all
  shown.entries).imp_right ?_
 rintro ⟨base,scanned,covers⟩
 refine ⟨base,scanned,?_⟩
 intro set aligned registers length virtualAddress _ mode page translated ends
 unfold Covers at covers
 rw [root_shiftLeft aligned] at covers
 obtain ⟨u,exec,-⟩ := Prog.exec_run kernel (Driver.translateVirtual registers
  (Driver.walkRequest length base virtualAddress))
 rw [translated] at exec
 have canonical := (Driver.translateVirtual_exec exec).2.1
 obtain ⟨path,last,_,walk,rfl⟩ :=
  Driver.translateVirtual_inMemory kernelShown rfl translated
 rw [mode] at canonical
 rw [mode,Driver.requestBase_walkRequest _ _ _ set] at walk ends ⊢
 obtain rfl := ends.translated walk
 obtain ⟨usage,mem,key⟩ := covers _ path last (followable_of_response aligned page walk ends)
 exact ⟨usage,(sorted usage).2 mem,coveredBy_of_key walk canonical key⟩

theorem sampleQuery_complete :
 ∃ output usage response,
  (sampleMapper.query 0x40123).run (sampleBackend fun _=>true)=.ok output ∧
  usage∈output.mappings ∧
  (Driver.translateVirtual ⟨0x1000,0,fun _=>0⟩
   (Driver.walkRequest 1 0x1000 0x123000)).run sampleKernel=.ok response ∧
  EndsIn 0x40123 response ∧ CoveredBy sampleTarget 0x123000 response usage := by
 obtain ⟨t,ran,answered⟩ := Prog.exec_run (sampleBackend fun _=>true)
  (sampleMapper.query 0x40123)
 have result := sampleQuery_run (fun _=>true) rfl rfl
 rw [result] at ran
 have all : AllRead t := fun _ _ mem =>
  ⟨_,sampleBackend_read answered mem,by simp [bytesAt]⟩
 rcases query_complete ran (sampleBackend_shows answered) all sampleKernel_shows sampleTarget
  List.mem_cons_self (by decide) with ⟨none,-⟩ | ⟨_,scanned,covers⟩
 · exact absurd none (by decide)
 · rcases scanned with ⟨-,rfl⟩ | ⟨none,-⟩
   · obtain ⟨usage,mem,covered⟩ := covers (by decide) (by decide) ⟨0x1000,0,fun _=>0⟩ 1
      0x123000 _ rfl (by decide) rfl ⟨by decide,by decide,by decide,by decide⟩
     exact ⟨_,usage,_,result,mem,rfl,⟨by decide,by decide,by decide,by decide⟩,covered⟩
   · exact absurd none (by decide)

end PageTableReverseMapper
end KDbg
