import KDbg.BitFields
import KDbg.X64PageTable
set_option autoImplicit false
/-!
# Walks over page tables

What a virtual address means: from the root table down, one entry for each
level, until an entry maps a page or is not present. Tables of level `1` map
4 KiB pages; an entry of level `2` or `3` can map a large page instead of
naming a table. `Holds address entry` says that memory holds an entry at a
physical address.
-/
namespace KDbg
open BitFields

/-- The lowest bit of the index that an address has in the tables of a level. -/
def levelShift (level : ℕ) : ℕ := 12+9*(level-1)

def tableIndex (level address : ℕ) : ℕ := address/2^levelShift level%512

lemma tableIndex_lt (level address:ℕ) : tableIndex level address<512 :=
 Nat.mod_lt _ (by decide)

def entryAddress (table : UInt64) (index : ℕ) : UInt64 := table+UInt64.ofNat index*8

lemma toNat_entryAddress {table:UInt64} {index:ℕ} (aligned:table &&& 0xFFF=0)
 (small:index<512) : (entryAddress table index).toNat=table.toNat+8*index := by
 have low:table.toNat/2^0%2^12=0:=(and_field_eq_zero 0 12 rfl).1 aligned
 have lt:=table.toNat_lt
 have product:(UInt64.ofNat index*8).toNat=8*index:=by
  rw [UInt64.toNat_mul,UInt64.toNat_ofNat_of_lt' (by change _<2^64;omega)]
  change index*8%2^64=8*index
  omega
 rw [entryAddress,UInt64.toNat_add,product]
 exact Nat.mod_eq_of_lt (by omega)

lemma pageMask_aligned (entry:UInt64) : entry &&& kX64PageEntryAddressMask &&& 0xFFF=0 := by
 rw [UInt64.and_assoc]
 exact UInt64.and_zero

structure Visit where
 level : ℕ
 table : UInt64
 index : ℕ
 entry : UInt64
deriving DecidableEq,Repr

namespace Visit

def address (visit : Visit) : UInt64 := entryAddress visit.table visit.index

def flags (visit : Visit) : PageEntryFlags := decodePageEntry visit.entry

end Visit

/-- The entry maps a page; the bits between bit 12 and the address of the page are clear. -/
def LeafEntry (level : ℕ) (entry : UInt64) : Prop :=
 (decodePageEntry entry).present=true ∧
  (level=1 ∨ (level=2 ∨ level=3) ∧ (decodePageEntry entry).pageSize=true ∧
   entry.toNat%2^levelShift level<2^13)

def TableEntry (level : ℕ) (entry : UInt64) : Prop :=
 (decodePageEntry entry).present=true ∧ 2 ≤ level ∧
  (level≤3→(decodePageEntry entry).pageSize=false)

def leafBase (level : ℕ) (entry : UInt64) : ℕ :=
 entry.toNat%2^52/2^levelShift level*2^levelShift level

/-- The walk of an address from a table of a level: the entries visited, the last of them, and
 whether that one maps a page. -/
inductive PageWalk (Holds:UInt64→UInt64→Prop) (address:ℕ) :
 ℕ→UInt64→List Visit→Visit→Bool→Prop where
 | absent {level:ℕ} {table entry:UInt64}
  (held:Holds (entryAddress table (tableIndex level address)) entry)
  (gone:(decodePageEntry entry).present=false) :
  PageWalk Holds address level table [⟨level,table,tableIndex level address,entry⟩]
   ⟨level,table,tableIndex level address,entry⟩ false
 | leaf {level:ℕ} {table entry:UInt64}
  (held:Holds (entryAddress table (tableIndex level address)) entry)
  (kind:LeafEntry level entry) :
  PageWalk Holds address level table [⟨level,table,tableIndex level address,entry⟩]
   ⟨level,table,tableIndex level address,entry⟩ true
 | next {level:ℕ} {table entry:UInt64} {visits:List Visit} {last:Visit}
  {translated:Bool}
  (held:Holds (entryAddress table (tableIndex (level+1) address)) entry)
  (kind:TableEntry (level+1) entry)
  (rest:PageWalk Holds address level (entry &&& kX64PageEntryAddressMask) visits last
   translated) :
  PageWalk Holds address (level+1) table
   (⟨level+1,table,tableIndex (level+1) address,entry⟩::visits) last translated

lemma LeafEntry.not_table {level:ℕ} {entry:UInt64} (leaf:LeafEntry level entry)
 (table:TableEntry level entry) : False := by
 obtain ⟨-,_ | ⟨_,size,-⟩⟩:=leaf
 · have := table.2.1
   omega
 · have clear:=table.2.2 (by omega)
   rw [size] at clear
   cases clear

namespace PageWalk
variable {Holds:UInt64→UInt64→Prop} {address level:ℕ} {table:UInt64}
 {visits:List Visit} {last:Visit} {translated:Bool}

lemma getLast? (walk:PageWalk Holds address level table visits last translated) :
 visits.getLast?=some last := by
 induction walk with
 | absent | leaf => rfl
 | next _ _ _ ih =>
  rw [List.getLast?_cons,ih]
  rfl

lemma last_mem (walk:PageWalk Holds address level table visits last translated) :
 last∈visits :=
 List.mem_of_getLast? walk.getLast?

lemma held (walk:PageWalk Holds address level table visits last translated) :
 ∀visit∈visits,Holds visit.address visit.entry := by
 induction walk with
 | absent held | leaf held => exact List.forall_mem_singleton.2 held
 | next held _ _ ih => exact List.forall_mem_cons.2 ⟨held,ih⟩

lemma index_lt (walk:PageWalk Holds address level table visits last translated)
 {visit:Visit} (mem:visit∈visits) : visit.index<512 := by
 induction walk with
 | absent | leaf =>
  obtain rfl := List.mem_singleton.1 mem
  exact tableIndex_lt _ _
 | next _ _ _ ih =>
  rcases List.mem_cons.1 mem with rfl|later
  · exact tableIndex_lt _ _
  · exact ih later

lemma length_le (walk:PageWalk Holds address level table visits last translated)
 (low:1 ≤ level) : visits.length ≤ level := by
 induction walk with
 | absent | leaf => exact low
 | next _ kind _ ih =>
  exact Nat.succ_le_succ (ih (Nat.le_of_succ_le_succ kind.2.1))

lemma visit_at (walk:PageWalk Holds address level table visits last translated)
 (low:1 ≤ level) {i:ℕ} {visit:Visit} (found:visits[i]?=some visit) :
 visit.level+i=level ∧ 1 ≤ visit.level ∧ visit.index=tableIndex visit.level address := by
 induction walk generalizing i with
 | absent | leaf =>
  cases i with
  | zero =>
   cases found
   exact ⟨rfl,low,rfl⟩
  | succ => simp at found
 | next _ kind rest ih =>
  cases i with
  | zero =>
   cases found
   exact ⟨rfl,low,rfl⟩
  | succ =>
   obtain ⟨_,rest⟩:=ih (Nat.le_of_succ_le_succ kind.2.1) found
   exact ⟨by omega,rest⟩

lemma table_aligned (walk:PageWalk Holds address level table visits last translated)
 (aligned:table &&& 0xFFF=0) : ∀visit∈visits,visit.table &&& 0xFFF=0 := by
 induction walk with
 | absent | leaf => exact List.forall_mem_singleton.2 aligned
 | next _ _ _ ih =>
  exact List.forall_mem_cons.2 ⟨aligned,ih (pageMask_aligned _)⟩

lemma first (walk:PageWalk Holds address level table visits last translated) :
 ∃ visit,visits[0]?=some visit ∧ visit.table=table := by
 cases walk <;> exact ⟨_,rfl,rfl⟩

lemma linked (walk:PageWalk Holds address level table visits last translated) {i:ℕ}
 {visit visit':Visit} (found:visits[i]?=some visit)
 (found':visits[i+1]?=some visit') :
 visit'.table=visit.entry &&& kX64PageEntryAddressMask := by
 induction walk generalizing i with
 | absent | leaf => simp at found'
 | next _ _ rest ih =>
  rw [List.getElem?_cons_succ] at found'
  cases i with
  | zero =>
   cases found
   obtain ⟨_,head,same⟩:=rest.first
   rw [head] at found'
   cases found'
   exact same
  | succ => exact ih found found'

lemma leafEntry (walk:PageWalk Holds address level table visits last true) :
 LeafEntry last.level last.entry := by
 generalize ends : true=translated at walk
 induction walk with
 | absent => cases ends
 | leaf _ kind => exact kind
 | next _ _ _ ih => exact ih ends

lemma last_level_le (walk:PageWalk Holds address level table visits last translated) :
 last.level ≤ level := by
 induction walk with
 | absent | leaf => exact le_rfl
 | next _ _ _ ih => exact ih.trans (Nat.le_succ _)

/-- A walk reads no bit of the address below the page it ends at. -/
lemma of_same_page (walk:PageWalk Holds address level table visits last translated)
 {address':ℕ} (same:address/2^levelShift last.level=address' / 2^levelShift last.level) :
 PageWalk Holds address' level table visits last translated := by
 have index {level:ℕ} (above:last.level ≤ level) :
  tableIndex level address=tableIndex level address' := by
  obtain ⟨k,split⟩ : ∃ k,levelShift level=levelShift last.level+k :=
   Nat.exists_eq_add_of_le (by unfold levelShift;omega)
  rw [tableIndex,tableIndex,split,Nat.pow_add,←Nat.div_div_eq_div_mul,same,
   Nat.div_div_eq_div_mul]
 induction walk with
 | absent held gone =>
  rw [index le_rfl] at held ⊢
  exact .absent held gone
 | leaf held kind =>
  rw [index le_rfl] at held ⊢
  exact .leaf held kind
 | next held kind rest ih =>
  rw [index (rest.last_level_le.trans (Nat.le_succ _))] at held ⊢
  exact .next held kind (ih same index)

end PageWalk

lemma tableIndex_congr {level bits address address':ℕ} (below:levelShift level+9 ≤ bits)
 (same:address%2^bits=address' % 2^bits) :
 tableIndex level address=tableIndex level address' := by
 have field (n:ℕ) : tableIndex level n=n%2^bits/2^levelShift level%512 := by
  obtain ⟨_,rfl⟩:=Nat.exists_eq_add_of_le below
  rw [Nat.add_assoc,Nat.pow_add,Nat.mod_mul_right_div_self,Nat.pow_add]
  exact (Nat.mod_mul_right_mod _ _ _).symm
 rw [field,field,same]

/-- A walk from a level reads the bits of the address up to those of that level. -/
lemma PageWalk.congr {Holds:UInt64→UInt64→Prop} {address address' level bits:ℕ}
 {table:UInt64} {visits:List Visit} {last:Visit} {translated:Bool}
 (walk:PageWalk Holds address level table visits last translated)
 (below:levelShift level+9 ≤ bits) (same:address%2^bits=address' % 2^bits) :
 PageWalk Holds address' level table visits last translated := by
 induction walk with
 | absent held gone =>
  rw [tableIndex_congr below same] at held ⊢
  exact .absent held gone
 | leaf held kind =>
  rw [tableIndex_congr below same] at held ⊢
  exact .leaf held kind
 | next held kind _ ih =>
  rw [tableIndex_congr below same] at held ⊢
  refine .next held kind (ih ?_)
  unfold levelShift at below ⊢
  omega

def leafPageSize : ℕ→UInt64
 | 1 => 0x1000
 | 2 => 0x200000
 | _ => 0x40000000

def leafMask : ℕ→UInt64
 | 1 => kX64PageEntryAddressMask
 | 2 => 0x000FFFFFFFE00000
 | _ => 0x000FFFFFC0000000

lemma reserved_iff (entry:UInt64) {mask:UInt64} {level:ℕ} (above:13 ≤ levelShift level)
 (shape:mask.toNat=(2^(levelShift level-13)-1)*2^13) :
 entry &&& mask=0 ↔ entry.toNat%2^levelShift level<2^13 := by
 have split:2^levelShift level=2^13*2^(levelShift level-13):=by
  rw [←Nat.pow_add,Nat.add_sub_cancel' above]
 rw [and_field_eq_zero 13 _ shape,split,←Nat.mod_mul_right_div_self]
 simp

/-- An entry for a large page is a leaf when its reserved bits are clear. -/
lemma leafEntry_iff_reserved {level:ℕ} {entry:UInt64} (mask:UInt64)
 (large:level=2 ∨ level=3)
 (shape:mask.toNat=(2^(levelShift level-13)-1)*2^13)
 (present:(decodePageEntry entry).present=true)
 (size:(decodePageEntry entry).pageSize=true) :
 LeafEntry level entry ↔ entry &&& mask=0 := by
 have reserved:=reserved_iff entry (by unfold levelShift;omega) shape
 constructor
 · rintro ⟨-,_ | ⟨-,-,low⟩⟩
   · omega
   · exact reserved.2 low
 · intro clear
   exact ⟨present, .inr ⟨large,size,reserved.1 clear⟩⟩

section Page
variable {level:ℕ}

lemma level_of_leafEntry {entry:UInt64} (leaf:LeafEntry level entry) :
 level=1 ∨ level=2 ∨ level=3 := by
 obtain ⟨-,bottom | ⟨large,-⟩⟩:=leaf
 · exact .inl bottom
 · exact .inr large

lemma toNat_leafPageSize (page:level=1 ∨ level=2 ∨ level=3) :
 (leafPageSize level).toNat=2^levelShift level := by
 rcases page with rfl|rfl|rfl <;> rfl

lemma leafMask_shape (page:level=1 ∨ level=2 ∨ level=3) :
 (leafMask level).toNat=(2^(52-levelShift level)-1)*2^levelShift level := by
 rcases page with rfl|rfl|rfl <;> rfl

lemma levelShift_le (page:level=1 ∨ level=2 ∨ level=3) : levelShift level≤30 := by
 rcases page with rfl|rfl|rfl <;> decide

lemma toNat_and_leafMask (page:level=1 ∨ level=2 ∨ level=3) (entry:UInt64) :
 (entry &&& leafMask level).toNat=leafBase level entry := by
 have shift:=levelShift_le page
 have split:2^52=2^levelShift level*2^(52-levelShift level):=by
  rw [←Nat.pow_add,Nat.add_sub_cancel' (by omega)]
 rw [toNat_and_field _ _ (leafMask_shape page),leafBase,split,Nat.mod_mul_right_div_self]

lemma toNat_leafOffset (page:level=1 ∨ level=2 ∨ level=3) (virtualAddress:UInt64) :
 (virtualAddress &&& (leafPageSize level-1)).toNat =
  virtualAddress.toNat%2^levelShift level := by
 have shape:(leafPageSize level-1).toNat=(2^levelShift level-1)*2^0:=by
  rcases page with rfl|rfl|rfl <;> rfl
 rw [toNat_and_field 0 _ shape,Nat.pow_zero,Nat.div_one,Nat.mul_one]

lemma toNat_physicalAddress (page:level=1 ∨ level=2 ∨ level=3)
 (entry virtualAddress:UInt64) :
 ((entry &&& leafMask level) ||| (virtualAddress &&& (leafPageSize level-1))).toNat =
  leafBase level entry+virtualAddress.toNat%2^levelShift level := by
 rw [UInt64.toNat_or,toNat_and_leafMask page,toNat_leafOffset page]
 exact or_field _ (Nat.mod_lt _ (Nat.two_pow_pos _))

end Page

end KDbg
