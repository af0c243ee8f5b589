import KDbg.ReverseMapTables
set_option autoImplicit false
/-! The mappings that a walk of the reverse mapper adds are walks of the page
tables that end in the target frame. -/
namespace KDbg
open Interaction BitFields

def ProcessUsage.isLeaf (usage : ProcessUsage) : Bool :=
 usage.mappingType∈["4 KiB page","2 MiB large page","1 GiB large page"]

namespace PageTableReverseMapper

section
variable {Q:UInt64→List UInt8→Prop} {t u:List ReverseMapEvent} {base shift:ℕ}

def PageReads (Q : UInt64→List UInt8→Prop) (t : List ReverseMapEvent) : Prop :=
 ∀ table data,(⟨.readPhysical table 0x1000, .ok data⟩ : ReverseMapEvent)∈t →
  data.length=0x1000→Q table data

lemma PageReads.left (reads:PageReads Q (t++u)) : PageReads Q t :=
 fun table data mem=>reads table data (List.mem_append_left _ mem)

lemma PageReads.right (reads:PageReads Q (t++u)) : PageReads Q u :=
 fun table data mem=>reads table data (List.mem_append_right _ mem)

lemma PageReads.tail {e:ReverseMapEvent} (reads:PageReads Q (e::t)) : PageReads Q t :=
 fun table data mem=>reads table data (List.mem_cons_of_mem _ mem)

def ShowsEntries (Holds : UInt64→UInt64→Prop) (table : UInt64) (data : List UInt8) : Prop :=
 ∀ index,index<512→Holds (entryAddress table index) (entryAt data index)

abbrev Shown (Holds : UInt64→UInt64→Prop) (Read : UInt64→Prop) (table : UInt64)
 (data : List UInt8) : Prop :=
 Read table ∧ ShowsEntries Holds table data

/-- How a reported mapping reads off the entries on its path. -/
structure Reports (target : ProcessScanTarget) (above : Effective) (raw : ℕ)
 (visits : List Visit) (last : Visit) (usage : ProcessUsage) : Prop where
 pid : usage.pid=target.pid
 processName : usage.processName=target.processName
 address : usage.virtualAddress=canonicalizeVirtualAddress (UInt64.ofNat raw) target.la57
 pte : usage.pteAddress=last.address
 size : usage.pageSize=leafPageSize last.level
 writable : usage.writable=(above.writable && visits.all (·.flags.writable))
 user : usage.userAccessible=(above.user && visits.all (·.flags.user))
 noExecute : usage.noExecute=(above.noExecute || visits.any (·.flags.noExecute))

/-- The mapping is a walk from the table to the target frame, over tables that were read. -/
def Found (Holds : UInt64→UInt64→Prop) (Read : UInt64→Prop) (target : ProcessScanTarget)
 (targetPfn : UInt64) (level : ℕ) (table : UInt64) (above : Effective)
 (usage : ProcessUsage) : Prop :=
 ∃ raw visits last,PageWalk Holds raw level table visits last true ∧
  raw/2^(levelShift level+9) =
   above.virtualPrefix.toNat/2^(levelShift level+9) ∧
  (∀ visit∈visits,Read visit.table) ∧
  leafBase last.level last.entry+raw%2^levelShift last.level=4096*targetPfn.toNat ∧
  Reports target above raw visits last usage

lemma index_of_prefixed {index raw:ℕ} (small:index<512)
 (aligned:base%2^(shift+9)=0)
 (same:raw/2^shift=(base+index*2^shift)/2^shift) :
 raw/2^shift%512=index ∧ raw/2^(shift+9)=base/2^(shift+9) := by
 have pos:=Nat.two_pow_pos shift
 have split:2^(shift+9)=2^shift*512:=Nat.pow_add 2 shift 9
 obtain ⟨high,rfl⟩:=Nat.dvd_of_mod_eq_zero aligned
 have value:raw/2^shift=512*high+index:=by
  rw [same,Nat.add_mul_div_right _ _ pos,split,Nat.mul_assoc,Nat.mul_div_cancel_left _ pos]
 rw [Nat.mul_div_cancel_left _ (Nat.two_pow_pos _),split,←Nat.div_div_eq_div_mul]
 omega

lemma offset_of_prefixed {offset:ℕ} (index:ℕ) (aligned:base%2^(shift+9)=0)
 (lt:offset<2^shift) :
 (base+index*2^shift+offset)/2^shift=(base+index*2^shift)/2^shift ∧
  (base+index*2^shift+offset)%2^shift=offset := by
 have pos:=Nat.two_pow_pos shift
 have split:2^(shift+9)=2^shift*512:=Nat.pow_add 2 shift 9
 obtain ⟨high,rfl⟩:=Nat.dvd_of_mod_eq_zero aligned
 have whole:2^(shift+9)*high+index*2^shift=2^shift*(512*high+index):=by
  ring
 rw [whole,Nat.mul_add_mod,Nat.mod_eq_of_lt lt,Nat.mul_add_div pos,Nat.div_eq_of_lt lt,
  Nat.mul_div_cancel_left _ pos]
 exact ⟨rfl,rfl⟩

end

section Step
variable {Holds:UInt64→UInt64→Prop} {Read:UInt64→Prop} {target:ProcessScanTarget}
 {targetPfn:UInt64} {level index:ℕ} {above:Effective} {entry:UInt64}

lemma found_leaf {tablePfn:UInt64} (low:1 ≤ level) (high:level≤5) (small:index<512)
 (aligned:above.Above level)
 (held:Holds (entryAddress (tablePfn <<< 12) index) entry) (read:Read (tablePfn <<< 12))
 (kind:LeafEntry level entry) (maps:Maps level entry targetPfn) :
 Found Holds Read target targetPfn level (tablePfn <<< 12) above
  (leafUsage target targetPfn level tablePfn above index entry) := by
 have position:=toNat_under entry low high small aligned
 obtain ⟨_,_⟩:=maps
 have within:4096*targetPfn.toNat-leafBase level entry<2^levelShift level:=by omega
 obtain ⟨quotient,remainder⟩:=offset_of_prefixed index aligned within
 obtain ⟨atIndex,upper⟩:=index_of_prefixed small aligned quotient
 rw [←position] at atIndex upper remainder
 have here : tableIndex level ((above.under level index entry).virtualPrefix.toNat +
  (4096*targetPfn.toNat-leafBase level entry))=index := atIndex
 refine ⟨_,_,_, .leaf (here.symm ▸ held) kind,upper,?_,?_,?_⟩
 · exact List.forall_mem_singleton.2 read
 · dsimp only
   omega
 · rw [here]
   refine ⟨rfl,rfl,rfl,rfl,rfl,?_,?_,?_⟩
   · rw [List.all_cons,List.all_nil,Bool.and_true]
     rfl
   · rw [List.all_cons,List.all_nil,Bool.and_true]
     rfl
   · rw [List.any_cons,List.any_nil,Bool.or_false]
     rfl

/-- A walk from the table that an entry names is a walk from the table of the entry. -/
lemma Found.up {table:UInt64} {usage:ProcessUsage} (low:1 ≤ level) (high:level+1≤5)
 (small:index<512) (aligned:above.Above (level+1))
 (held:Holds (entryAddress table index) entry) (read:Read table)
 (kind:TableEntry (level+1) entry)
 (found:Found Holds Read target targetPfn level (entry &&& kX64PageEntryAddressMask)
  (above.under (level+1) index entry) usage) :
 Found Holds Read target targetPfn (level+1) table above usage := by
 have step:levelShift level+9=levelShift (level+1):=by unfold levelShift;omega
 obtain ⟨raw,_,last,walk,upper,tables,frame,reports⟩:=found
 rw [step,toNat_under entry (by omega) high small aligned] at upper
 obtain ⟨atIndex,beyond⟩:=index_of_prefixed small aligned upper
 have here:tableIndex (level+1) raw=index:=atIndex
 refine ⟨raw,_,last, .next (here.symm ▸ held) kind walk,beyond,?_,frame,?_⟩
 · exact List.forall_mem_cons.2 ⟨read,tables⟩
 · obtain ⟨pid,processName,address,pte,size,writable,user,noExecute⟩:=reports
   refine ⟨pid,processName,address,pte,size,?_,?_,?_⟩
   · rw [writable,List.all_cons,←Bool.and_assoc]
     rfl
   · rw [user,List.all_cons,←Bool.and_assoc]
     rfl
   · rw [noExecute,List.any_cons,←Bool.or_assoc]
     rfl

end Step

/-- Every mapping of the later state is one of the earlier, or as `P` says. -/
def Adds (P : ProcessUsage→Prop) (s after : Scan) : Prop :=
 ∀ usage∈after.mappings,usage∈s.mappings ∨ P usage

namespace Adds
variable {P Q:ProcessUsage→Prop} {s after last:Scan}

lemma of_eq (same:after.mappings=s.mappings) : Adds P s after :=
 fun _ mem => .inl (same ▸ mem)

lemma trans (first:Adds P s after) (second:Adds P after last) : Adds P s last := by
 intro usage mem
 rcases second usage mem with earlier|new
 · exact first usage earlier
 · exact .inr new

lemma mono (imp:∀usage,P usage→Q usage) (adds:Adds P s after) : Adds Q s after :=
 fun usage mem=>(adds usage mem).imp_right (imp usage)

end Adds

section
variable {P:ProcessUsage→Prop} {s:Scan} {out:Result Unit×Scan}

lemma Appended.adds {usage:ProcessUsage} (appended:Appended usage s out) (new:P usage) :
 Adds P s out.2 := by
 cases appended with
 | seen | full => exact .of_eq rfl
 | added _ mappings =>
  intro _ mem
  rw [mappings] at mem
  rcases List.mem_append.1 mem with earlier|last
  · exact .inl earlier
  · obtain rfl := List.mem_singleton.1 last
    exact .inr new

lemma nextTableName_not_leaf (level:ℕ) :
 nextTableName level ∉ ["4 KiB page","2 MiB large page","1 GiB large page"] := by
 unfold nextTableName
 split <;> decide

lemma tableMapping_adds {limits:ReverseMapLimits} {target:ProcessScanTarget}
 {targetPfn nextPfn:UInt64} {level:ℕ} {entryPa:UInt64} {here:Effective}
 (mapped:tableMapping limits target targetPfn nextPfn level entryPa here s=out) :
 Adds (fun usage=>usage.isLeaf=true→P usage) s out.2 := by
 subst mapped
 rcases tableMapping_appended with same|appended
 · rw [same]
   exact .of_eq rfl
 · refine appended.adds fun leaf => ?_
   exact absurd (of_decide_eq_true leaf) (nextTableName_not_leaf level)

end

lemma nextPfn_shiftLeft (entry:UInt64) :
 ((entry &&& kX64PageEntryAddressMask) >>> 12) <<< 12=entry &&& kX64PageEntryAddressMask := by
 have whole:=leafBase_dvd 1 entry
 have number : (entry &&& kX64PageEntryAddressMask).toNat=leafBase 1 entry :=
  toNat_and_leafMask (.inl rfl) entry
 have lt:=(entry &&& kX64PageEntryAddressMask).toNat_lt
 have low:=toNat_nextPfn entry
 have back : ((entry &&& kX64PageEntryAddressMask) >>> 12).toNat*2^(12 : UInt64).toNat =
  leafBase 1 entry := by
  rw [low]
  change _/4096*4096=_
  omega
 apply UInt64.toNat_inj.1
 rw [toNat_shiftLeft 12 (by decide) (by omega),back,number]

section Sound
variable {Holds:UInt64→UInt64→Prop} {Read:UInt64→Prop} {limits:ReverseMapLimits}
 {target:ProcessScanTarget} {targetPfn tablePfn:UInt64} {level:ℕ}
 {nested:TableWalk} {above:Effective}
 {s:Scan} {t:List ReverseMapEvent} {out:Result Unit×Scan}

def AddsFound (Holds : UInt64→UInt64→Prop) (Read : UInt64→Prop)
 (target : ProcessScanTarget) (targetPfn : UInt64) (level : ℕ) (tablePfn : UInt64)
 (above : Effective) : Scan→Scan→Prop :=
 Adds fun usage=>usage.isLeaf=true →
  Found Holds Read target targetPfn level (tablePfn <<< 12) above usage

lemma EntryVisit.adds {index:ℕ} {entry:UInt64} (high:level+1≤5) (small:index<512)
 (aligned:above.Above (level+1))
 (held:Holds (entryAddress (tablePfn <<< 12) index) entry) (read:Read (tablePfn <<< 12))
 (inner:∀{pfn here s t out},1 ≤ level → here.Above level →
  (nested pfn here s).Exec t out →
  PageReads (Shown Holds Read) t →
  AddsFound Holds Read target targetPfn level pfn here s out.2)
 (reads:PageReads (Shown Holds Read) t)
 (visit:EntryVisit limits target targetPfn (level+1) nested tablePfn above index entry s t
  out) : AddsFound Holds Read target targetPfn (level+1) tablePfn above s out.2 := by
 cases visit with
 | skip => exact .of_eq rfl
 | leaf kind maps =>
  exact (appendMapping_appended _ _ _).adds fun _ =>
   found_leaf (by omega) high small aligned held read kind maps
 | refused _ refused =>
  exact tableMapping_adds refused
 | @followed kind mapped after t result reported ran =>
  have low:1 ≤ level:=Nat.le_of_succ_le_succ kind.1.2.1
  have new:=inner low (under_above entry low high small aligned) ran reads
  have later:AddsFound Holds Read target targetPfn (level+1) tablePfn above mapped after:=by
   refine Adds.mono ?_ new
   intro _ found leaf
   have under:=found leaf
   rw [nextPfn_shiftLeft] at under
   exact under.up low high small aligned held read kind.1
  have both:=(tableMapping_adds reported).trans later
  cases result with
  | error => exact both.trans (.of_eq rfl)
  | ok => exact both

lemma EntryVisits.adds {page:List UInt8} {indices:List ℕ} (high:level+1≤5)
 (aligned:above.Above (level+1)) (small:∀index∈indices,index<512)
 (shown:ShowsEntries Holds (tablePfn <<< 12) page) (read:Read (tablePfn <<< 12))
 (inner:∀{pfn here s t out},1 ≤ level → here.Above level →
  (nested pfn here s).Exec t out →
  PageReads (Shown Holds Read) t →
  AddsFound Holds Read target targetPfn level pfn here s out.2)
 (reads:PageReads (Shown Holds Read) t)
 (visits:EntryVisits limits target targetPfn (level+1) nested tablePfn above page indices s t
  out) : AddsFound Holds Read target targetPfn (level+1) tablePfn above s out.2 := by
 induction visits with
 | nil => exact .of_eq rfl
 | stop turn =>
  have here:=small _ List.mem_cons_self
  exact turn.adds high here aligned (shown _ here) read inner reads
 | next turn _ ih =>
  obtain ⟨here,rest⟩:=List.forall_mem_cons.1 small
  exact (turn.adds high here aligned (shown _ here) read inner reads.left).trans
   (ih rest reads.right)

/-- Every leaf mapping that the walk of a table adds is a walk of the page tables from it. -/
lemma walk_adds (high:level≤5) (low:1 ≤ level) (aligned:above.Above level)
 (ran:(walk limits target targetPfn level tablePfn above s).Exec t out)
 (reads:PageReads (Shown Holds Read) t) :
 AddsFound Holds Read target targetPfn level tablePfn above s out.2 := by
 induction level generalizing tablePfn above s t out with
 | zero => exact absurd low (by decide)
 | succ _ ih =>
  cases walkTable_exec ran with
  | failed | active | beyond | unread => exact .of_eq rfl
  | @read _ page t result _ _ whole _ visited =>
   obtain ⟨read,shown⟩:=reads _ page (List.mem_cons_of_mem _ List.mem_cons_self) whole
   have adds:=(visitEntries_exec low high visited).adds high aligned
    (fun _ mem=>List.mem_range.1 mem) shown read
    (fun low aligned ran reads=>ih (by omega) low aligned ran reads) reads.tail.tail
   cases result with
   | error => exact adds
   | ok => exact adds.trans (.of_eq rfl)

end Sound

end PageTableReverseMapper
end KDbg
