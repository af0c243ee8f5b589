import KDbg.PageTableReverseMapper
import KDbg.PageWalk
set_option autoImplicit false
/-! What the reverse mapper does with one entry of a page table. -/
namespace KDbg
open Interaction BitFields

namespace PageTableReverseMapper

/-- The bits that the entries above a table fix are those above the index into the table. -/
def Effective.Above (above : Effective) (level : ℕ) : Prop :=
 above.virtualPrefix.toNat%2^(levelShift level+9)=0

lemma toNat_shiftForLevel {level:ℕ} (low:1 ≤ level) (high:level≤5) :
 (shiftForLevel level).toNat=levelShift level := by
 interval_cases level <;> rfl

lemma toNat_under {above:Effective} {level index:ℕ} (entry:UInt64) (low:1 ≤ level)
 (high:level≤5) (small:index<512) (aligned:above.Above level) :
 (above.under level index entry).virtualPrefix.toNat =
  above.virtualPrefix.toNat+index*2^levelShift level := by
 have shift:=toNat_shiftForLevel low high
 have le:levelShift level≤48:=by unfold levelShift;omega
 have inTable:index*2^levelShift level<2^(levelShift level+9):=by
  rw [Nat.pow_add,Nat.mul_comm]
  exact Nat.mul_lt_mul_of_pos_left small (Nat.two_pow_pos _)
 have fits : 2^(levelShift level+9)≤2^57 :=
  Nat.pow_le_pow_right (by decide) (by omega)
 have number : (UInt64.ofNat index).toNat=index :=
  UInt64.toNat_ofNat_of_lt' (by change _<2^64;omega)
 have field :
  (UInt64.ofNat index <<< shiftForLevel level).toNat=index*2^levelShift level := by
  rw [toNat_shiftLeft _ (by omega),number,shift]
  rw [number,shift]
  omega
 have whole:=Nat.div_add_mod' above.virtualPrefix.toNat (2^(levelShift level+9))
 change (above.virtualPrefix ||| (UInt64.ofNat index <<< shiftForLevel level)).toNat=_
 rw [aligned,Nat.add_zero] at whole
 rw [UInt64.toNat_or,field,←whole,or_field _ inTable]

lemma under_above {above:Effective} {level index:ℕ} (entry:UInt64) (low:1 ≤ level)
 (high:level+1≤5) (small:index<512) (aligned:above.Above (level+1)) :
 (above.under (level+1) index entry).Above level := by
 have step:levelShift level+9=levelShift (level+1):=by unfold levelShift;omega
 have outer:above.virtualPrefix.toNat%2^levelShift (level+1)=0:=by
  have dvd:=Nat.dvd_of_mod_eq_zero aligned
  exact Nat.mod_eq_zero_of_dvd ((Nat.pow_dvd_pow 2 (Nat.le_add_right _ 9)).trans dvd)
 unfold Effective.Above
 rw [toNat_under entry (by omega) high small aligned,step,Nat.add_mul_mod_self_right,outer]

def Maps (level : ℕ) (entry targetPfn : UInt64) : Prop :=
 leafBase level entry≤4096*targetPfn.toNat ∧
  4096*targetPfn.toNat < leafBase level entry+2^levelShift level

def Followed (level : ℕ) (entry : UInt64) : Prop :=
 TableEntry level entry ∧ (4 ≤ level→(decodePageEntry entry).pageSize=false)

def leafName : ℕ→String
 | 1 => "4 KiB page"
 | 2 => "2 MiB large page"
 | _ => "1 GiB large page"

def leafUsage (target : ProcessScanTarget) (targetPfn : UInt64) (level : ℕ) (tablePfn : UInt64)
 (above : Effective) (index : ℕ) (entry : UInt64) : ProcessUsage :=
 let here := above.under level index entry
 entryUsage target
  (UInt64.ofNat (here.virtualPrefix.toNat+(4096*targetPfn.toNat-leafBase level entry)))
  (entryAddress (tablePfn <<< 12) index) (leafPageSize level) (leafName level) .high here

lemma toNat_nextPfn (entry:UInt64) :
 ((entry &&& kX64PageEntryAddressMask) >>> 12).toNat=leafBase 1 entry/4096 := by
 rw [toNat_shiftRight 12 (by decide)]
 change (entry &&& leafMask 1).toNat/4096=_
 rw [toNat_and_leafMask (.inl rfl)]

lemma leafBase_dvd (level:ℕ) (entry:UInt64) : leafBase level entry%4096=0 := by
 have split:2^levelShift level=2^(9*(level-1))*4096:=by
  rw [levelShift,Nat.add_comm,Nat.pow_add]
 rw [leafBase,split,←Nat.mul_assoc]
 exact Nat.mul_mod_left _ _

lemma nextPfn_eq_iff (entry targetPfn:UInt64) :
 (entry &&& kX64PageEntryAddressMask) >>> 12=targetPfn ↔ Maps 1 entry targetPfn := by
 have whole:=leafBase_dvd 1 entry
 rw [←UInt64.toNat_inj,toNat_nextPfn]
 change _ ↔ leafBase 1 entry≤4096*targetPfn.toNat ∧
  4096*targetPfn.toNat < leafBase 1 entry+4096
 omega

/-- The level of large pages as the two parts of the program name it. -/
def LargeLevel (level : ℕ) (kind : PagingLevel) : Prop :=
 level=2 ∧ kind=.pd ∨ level=3 ∧ kind=.pdpt

variable {kind:PagingLevel}

section
variable {level:ℕ} {base targetPfn:UInt64}

lemma LargeLevel.large (h:LargeLevel level kind) : level=2 ∨ level=3 :=
 h.imp And.left And.left

lemma leafPhysicalAddress_large {entry:UInt64} (named:LargeLevel level kind)
 (present:(decodePageEntry entry).present=true)
 (size:(decodePageEntry entry).pageSize=true) :
 (¬LeafEntry level entry ∧ ∃ error,leafPhysicalAddress kind entry 0=.error error) ∨
  (LeafEntry level entry ∧ ∃ base,leafPhysicalAddress kind entry 0=.ok base ∧
   base.toNat=leafBase level entry) := by
 have start (level:ℕ) (page:level=1 ∨ level=2 ∨ level=3) :
  ((entry &&& leafMask level) ||| (0 &&& (leafPageSize level-1))).toNat =
   leafBase level entry := by
  rw [toNat_physicalAddress page]
  change _+0%_=_
  rw [Nat.zero_mod,Nat.add_zero]
 rcases named with ⟨rfl,rfl⟩|⟨rfl,rfl⟩
 · have leaf:=leafEntry_iff_reserved 0x00000000001FE000 (.inl rfl) rfl present size
   by_cases clear:entry &&& 0x00000000001FE000=0
   · refine .inr ⟨leaf.2 clear,_,?_,start 2 (.inr (.inl rfl))⟩
     simp [leafPhysicalAddress,present,size,clear,leafMask,leafPageSize]
   · refine .inl ⟨mt leaf.1 clear,?_⟩
     simp [leafPhysicalAddress,present,size,clear]
 · have leaf:=leafEntry_iff_reserved 0x000000003FFFE000 (.inr rfl) rfl present size
   by_cases clear:entry &&& 0x000000003FFFE000=0
   · refine .inr ⟨leaf.2 clear,_,?_,start 3 (.inr (.inr rfl))⟩
     simp [leafPhysicalAddress,present,size,clear,leafMask,leafPageSize]
   · refine .inl ⟨mt leaf.1 clear,?_⟩
     simp [leafPhysicalAddress,present,size,clear]

lemma maps_iff {entry:UInt64} (large:level=2 ∨ level=3)
 (start:base.toNat=leafBase level entry) :
 base >>> 12 ≤ targetPfn ∧ targetPfn-(base >>> 12) < leafPageSize level/kPageSize ↔
  Maps level entry targetPfn := by
 have whole:=leafBase_dvd level entry
 have low:(base >>> 12).toNat=leafBase level entry/4096:=by
  rw [toNat_shiftRight 12 (by decide),start]
  rfl
 have pages:(leafPageSize level/kPageSize).toNat*4096=2^levelShift level:=by
  rcases large with rfl|rfl <;> rfl
 constructor
 · rintro ⟨le,lt⟩
   have below:=UInt64.le_iff_toNat_le.1 le
   rw [UInt64.lt_iff_toNat_lt,UInt64.toNat_sub_of_le _ _ le] at lt
   unfold Maps
   omega
 · rintro ⟨_,_⟩
   have below:base >>> 12 ≤ targetPfn:=UInt64.le_iff_toNat_le.2 (by omega)
   refine ⟨below,?_⟩
   rw [UInt64.lt_iff_toNat_lt,UInt64.toNat_sub_of_le _ _ below]
   omega

lemma largeLeaf_raw {entry:UInt64} (large:level=2 ∨ level=3)
 (start:base.toNat=leafBase level entry) (maps:Maps level entry targetPfn)
 (virtualPrefix:UInt64) :
 virtualPrefix+((targetPfn-(base >>> 12)) <<< 12) =
  UInt64.ofNat (virtualPrefix.toNat+(4096*targetPfn.toNat-leafBase level entry)) := by
 have below:=((maps_iff large start).2 maps).1
 have whole:=leafBase_dvd level entry
 have low:(base >>> 12).toNat=leafBase level entry/4096:=by
  rw [toNat_shiftRight 12 (by decide),start]
  rfl
 have size:2^levelShift level≤2^30:=by rcases large with rfl|rfl <;> decide
 have offset : ((targetPfn-(base >>> 12)) <<< 12).toNat =
  4096*targetPfn.toNat-leafBase level entry := by
  have difference:=UInt64.toNat_sub_of_le _ _ below
  obtain ⟨_,_⟩:=maps
  rw [toNat_shiftLeft 12 (by decide),difference]
  · change (_-_)*4096=_
    omega
  · change (targetPfn-base >>> 12).toNat*4096 < _
    omega
 apply UInt64.toNat_inj.1
 rw [UInt64.toNat_add,offset,UInt64.toNat_ofNat']

end

section
variable (limits : ReverseMapLimits) (target : ProcessScanTarget) (targetPfn : UInt64) (level : ℕ)
 (nested : TableWalk) (tablePfn : UInt64) (above : Effective)

/-- What a turn of the loop over the entries can do: pass the entry over, report a mapping, or walk
 the table that the entry names. -/
inductive EntryVisit (index:ℕ) (entry:UInt64) (s:Scan) :
 List ReverseMapEvent→Result Unit×Scan→Prop where
 | skip (noLeaf:¬ (LeafEntry level entry ∧ Maps level entry targetPfn))
  (noTable:¬ Followed level entry) :
  EntryVisit index entry s [] (.ok (),s)
 | leaf (kind:LeafEntry level entry) (maps:Maps level entry targetPfn) :
  EntryVisit index entry s []
   (appendMapping limits (leafUsage target targetPfn level tablePfn above index entry) s)
 | refused (kind:Followed level entry) {error:Error} {after:Scan}
  (refused:tableMapping limits target targetPfn ((entry &&& kX64PageEntryAddressMask) >>> 12)
   level (entryAddress (tablePfn <<< 12) index) (above.under level index entry) s =
    (.error error,after)) :
  EntryVisit index entry s []
   (.error error,after)
 | followed (kind:Followed level entry) {mapped after:Scan} {t:List ReverseMapEvent}
  {result:Result Unit}
  (reported:tableMapping limits target targetPfn
   ((entry &&& kX64PageEntryAddressMask) >>> 12) level (entryAddress (tablePfn <<< 12) index)
   (above.under level index entry) s=(.ok (),mapped))
  (ran:(nested ((entry &&& kX64PageEntryAddressMask) >>> 12)
   (above.under level index entry) mapped).Exec t (result,after)) :
  EntryVisit index entry s t
   (result,if result.isOk then after else after.leave tablePfn)

end

section Entry
variable {limits:ReverseMapLimits} {target:ProcessScanTarget} {targetPfn tablePfn:UInt64}
 {above:Effective} {level index:ℕ} {entry:UInt64} {s:Scan}

section
variable {nested:TableWalk}

lemma largeLeaf_maps (named:LargeLevel level kind) (leaf:LeafEntry level entry)
 (maps:Maps level entry targetPfn) :
 largeLeaf limits target targetPfn kind (leafPageSize level) (leafName level) entry
  ((tablePfn <<< 12)+UInt64.ofNat index*8) (above.under level index entry) s =
  appendMapping limits (leafUsage target targetPfn level tablePfn above index entry) s := by
 have size:(decodePageEntry entry).pageSize=true:=by
  obtain ⟨-,_ | ⟨-,size,-⟩⟩:=leaf
  · have := named.large
    omega
  · exact size
 rcases leafPhysicalAddress_large named leaf.1 size with ⟨no,-⟩|⟨-,_,found,start⟩
 · exact absurd leaf no
 · rw [largeLeaf,found]
   dsimp only
   rw [if_pos ((maps_iff named.large start).2 maps),largeLeaf_raw named.large start maps]
   rfl

lemma largeLeaf_skips (named:LargeLevel level kind)
 (present:(decodePageEntry entry).present=true)
 (size:(decodePageEntry entry).pageSize=true)
 (other:¬(LeafEntry level entry ∧ Maps level entry targetPfn)) (mappingType:String)
 (entryPa:UInt64) (here:Effective) :
 largeLeaf limits target targetPfn kind (leafPageSize level) mappingType entry entryPa here s =
  (.ok (),s) := by
 rcases leafPhysicalAddress_large named present size with
  ⟨-,_,found⟩ | ⟨leaf,_,found,start⟩
 · rw [largeLeaf,found]
 · rw [largeLeaf,found]
   exact if_neg fun inside=>other ⟨leaf,(maps_iff named.large start).1 inside⟩

lemma entryVisit_large (named:LargeLevel level kind)
 (present:(decodePageEntry entry).present=true)
 (size:(decodePageEntry entry).pageSize=true) :
 EntryVisit limits target targetPfn level nested tablePfn above index entry s []
  (largeLeaf limits target targetPfn kind (leafPageSize level) (leafName level) entry
   ((tablePfn <<< 12)+UInt64.ofNat index*8) (above.under level index entry) s) := by
 by_cases other:LeafEntry level entry ∧ Maps level entry targetPfn
 · rw [largeLeaf_maps named other.1 other.2]
   exact .leaf other.1 other.2
 · rw [largeLeaf_skips named present size other]
   refine .skip other ?_
   rintro ⟨⟨-,-,clear⟩,-⟩
   have := named.large
   exact absurd size (by simp [clear (by omega)])

lemma leafUsage_small (maps:Maps 1 entry targetPfn) :
 leafUsage target targetPfn 1 tablePfn above index entry =
  entryUsage target (above.under 1 index entry).virtualPrefix
   ((tablePfn <<< 12)+UInt64.ofNat index*8) kPageSize "4 KiB page" .high
   (above.under 1 index entry) := by
 have whole:=leafBase_dvd 1 entry
 have none:4096*targetPfn.toNat-leafBase 1 entry=0:=by
  have upper:=maps.2
  change _ < _+4096 at upper
  omega
 unfold leafUsage
 dsimp only
 rw [none,Nat.add_zero,UInt64.ofNat_toNat]
 rfl

lemma visitEntry_exec {t:List ReverseMapEvent} {out:Result Unit×Scan} (low:1 ≤ level)
 (high:level≤5)
 (ran:(visitEntry limits target targetPfn level nested tablePfn above index entry s).Exec t
  out) :
 EntryVisit limits target targetPfn level nested tablePfn above index entry s t out := by
 unfold visitEntry at ran
 dsimp only at ran
 split at ran
 · rename_i gone
   obtain ⟨rfl,rfl⟩:=ran.of_pure
   simp only [Bool.not_eq_true'] at gone
   refine .skip ?_ ?_
   · rintro ⟨leaf,-⟩
     exact absurd leaf.1 (by simp [gone])
   · rintro ⟨table,-⟩
     exact absurd table.1 (by simp [gone])
 · rename_i present
   simp only [Bool.not_eq_true',Bool.not_eq_false] at present
   split at ran
   · rename_i top
     obtain ⟨rfl,rfl⟩:=ran.of_pure
     refine .skip ?_ ?_
     · rintro ⟨leaf,-⟩
       have := level_of_leafEntry leaf
       omega
     · rintro ⟨-,clear⟩
       exact absurd top.2 (by simp [clear (by omega)])
   · rename_i notTop
     split at ran
     · rename_i pdpt
       obtain ⟨rfl,rfl⟩:=ran.of_pure
       obtain ⟨rfl,size⟩:=pdpt
       exact entryVisit_large (.inr ⟨rfl,rfl⟩) present size
     · rename_i notPdpt
       split at ran
       · rename_i pd
         obtain ⟨rfl,rfl⟩:=ran.of_pure
         obtain ⟨rfl,size⟩:=pd
         exact entryVisit_large (.inl ⟨rfl,rfl⟩) present size
       · rename_i notPd
         split at ran
         · rename_i pt
           subst pt
           have noTable:¬Followed 1 entry:=fun followed =>
            absurd followed.1.2.1 (by decide)
           split at ran
           · rename_i hit
             obtain ⟨rfl,rfl⟩:=ran.of_pure
             have maps:=(nextPfn_eq_iff entry targetPfn).1 hit
             rw [←leafUsage_small maps]
             exact .leaf ⟨present, .inl rfl⟩ maps
           · rename_i miss
             obtain ⟨rfl,rfl⟩:=ran.of_pure
             exact .skip (fun hit=>miss ((nextPfn_eq_iff entry targetPfn).2 hit.2)) noTable
         · have kind:Followed level entry:=by
            refine ⟨⟨present,by omega,fun _ => ?_⟩,fun _ => ?_⟩
            · by_contra set
              rw [Bool.not_eq_false] at set
              have two:level=2 ∨ level=3:=by omega
              rcases two with rfl|rfl
              · exact notPd ⟨rfl,set⟩
              · exact notPdpt ⟨rfl,set⟩
            · by_contra set
              rw [Bool.not_eq_false] at set
              exact notTop ⟨by omega,set⟩
           split at ran
           · rename_i refused
             obtain ⟨rfl,rfl⟩:=ran.of_pure
             exact .refused kind refused
           · rename_i reported
             obtain ⟨u,⟨result,_⟩,v,rfl,walked,rest⟩:=ran.of_bind
             cases result with
             | error | ok =>
              obtain ⟨rfl,rfl⟩:=rest.of_pure
              rw [List.append_nil]
              exact .followed kind reported walked

end

end Entry

end PageTableReverseMapper
end KDbg
