import KDbg.Error
set_option autoImplicit false
namespace KDbg

def kPhysicalPageSize : ℕ := 0x1000

/-- A complete 4 KiB page image. -/
abbrev Page := Fin kPhysicalPageSize→UInt8

def zeroPage : Page := fun _=>0

def differingOffsets (left right : Page) : List ℕ :=
 ((List.finRange kPhysicalPageSize).filter (fun i=>left i != right i)).map Fin.val

@[simp] lemma differingOffsets_eq_nil (left right:Page) :
 differingOffsets left right=[] ↔ left=right := by
 simp only [differingOffsets,List.map_eq_nil_iff,List.filter_eq_nil_iff,List.mem_finRange,
  true_implies,bne_iff_ne,ne_eq,not_not]
 exact funext_iff.symm

def maxUInt64 : UInt64 := 0xFFFFFFFFFFFFFFFF

@[simp] lemma maxUInt64_toNat : maxUInt64.toNat=2^64-1 := rfl

lemma toNat_maxUInt64_sub (x:UInt64) :
 (maxUInt64-x).toNat=2^64-1-x.toNat := by
 have hx:=x.toNat_lt
 rw [UInt64.toNat_sub_of_le _ _ (UInt64.le_iff_toNat_le.2 (by simp;omega)),maxUInt64_toNat]

def littleEndian : ℕ→ℕ→List UInt8
 | 0,_ => []
 | size+1,value => UInt8.ofNat (value%256)::littleEndian size (value/256)

lemma length_littleEndian (size value:ℕ) : (littleEndian size value).length=size := by
 induction size generalizing value with
 | zero => rfl
 | succ _ ih => rw [littleEndian,List.length_cons,ih]

def ofLittleEndian (bytes : List UInt8) : ℕ :=
 bytes.foldr (fun byte value=>byte.toNat+256*value) 0

lemma ofLittleEndian_littleEndian (size value:ℕ) :
 ofLittleEndian (littleEndian size value)=value%256^size := by
 induction size generalizing value with
 | zero => rw [pow_zero,Nat.mod_one];rfl
 | succ size ih =>
  change (UInt8.ofNat (value%256)).toNat +
   256*ofLittleEndian (littleEndian size (value/256))=_
  rw [ih,UInt8.toNat_ofNat',Nat.mod_mod,pow_succ',Nat.mod_mul]

lemma littleEndian_ofLittleEndian (bytes:List UInt8) :
 littleEndian bytes.length (ofLittleEndian bytes)=bytes := by
 induction bytes with
 | nil => rfl
 | cons byte bytes ih =>
  have low:(byte.toNat+256*ofLittleEndian bytes)%256=byte.toNat:=by
   have := byte.toNat_lt
   omega
  have high:(byte.toNat+256*ofLittleEndian bytes)/256=ofLittleEndian bytes:=by
   omega
  change UInt8.ofNat ((byte.toNat+256*ofLittleEndian bytes)%256) ::
   littleEndian bytes.length ((byte.toNat+256*ofLittleEndian bytes)/256)=_
  rw [low,high,ih,UInt8.ofNat_toNat]

lemma ofLittleEndian_lt (bytes:List UInt8) : ofLittleEndian bytes<256^bytes.length := by
 induction bytes with
 | nil => exact Nat.one_pos
 | cons byte bytes =>
  have small:=byte.toNat_lt
  change byte.toNat+256*ofLittleEndian bytes<256^(bytes.length+1)
  omega

lemma ofLittleEndian_lt_two_pow (bytes:List UInt8) :
 ofLittleEndian bytes<2^(8*bytes.length) := by
 rw [pow_mul]
 exact ofLittleEndian_lt bytes

def bytesAt (memory : UInt64→UInt8) (address : UInt64) (length : ℕ) : List UInt8 :=
 (List.range length).map fun i=>memory (address+UInt64.ofNat i)

lemma length_bytesAt (memory:UInt64→UInt8) (address:UInt64) (length:ℕ) :
 (bytesAt memory address length).length=length := by
 rw [bytesAt,List.length_map,List.length_range]

lemma bytesAt_add (memory:UInt64→UInt8) (address:UInt64) (first second:ℕ) :
 bytesAt memory address (first+second) =
  bytesAt memory address first++bytesAt memory (address+UInt64.ofNat first) second := by
 rw [bytesAt,List.range_add,List.map_append,List.map_map]
 refine congrArg _ (List.map_congr_left fun i _=>congrArg memory ?_)
 rw [UInt64.ofNat_add,UInt64.add_assoc]

lemma take_drop_bytesAt (memory:UInt64→UInt8) (address:UInt64) {offset width length:ℕ}
 (within:offset+width ≤ length) :
 ((bytesAt memory address length).drop offset).take width =
  bytesAt memory (address+UInt64.ofNat offset) width := by
 obtain ⟨_,rfl⟩:=Nat.exists_eq_add_of_le within
 rw [Nat.add_assoc,bytesAt_add,List.drop_left' (length_bytesAt _ _ _),bytesAt_add,
  List.take_left' (length_bytesAt _ _ _)]

structure PhysicalRange where
 base : UInt64 := 0
 length : UInt64 := 0
deriving DecidableEq,Repr

namespace PhysicalRange

def isValid (r : PhysicalRange) : Bool :=
 r.length != 0 && decide (r.base ≤ maxUInt64-r.length)

def contains (r : PhysicalRange) (address size : UInt64) : Bool :=
 if !r.isValid || size == 0 then false
 else if maxUInt64-size < address then false
 else decide (r.base ≤ address) && decide (address+size ≤ r.base+r.length)

/-- The interval `[address, address + size)` lies inside the range, without wrapping. -/
def Covers (r : PhysicalRange) (address size : ℕ) : Prop :=
 r.base.toNat ≤ address ∧ address+size ≤ r.base.toNat+r.length.toNat

lemma covers_of_contains {r:PhysicalRange} {address size:UInt64}
 (h:r.contains address size=true) : r.Covers address.toNat size.toNat := by
 unfold contains at h
 split at h
 · cases h
 · rename_i hvalid
   split at h
   · cases h
   · rename_i hend
     simp only [isValid,Bool.not_and,Bool.or_eq_true,Bool.not_eq_true',bne_eq_false_iff_eq,
      decide_eq_false_iff_not,beq_iff_eq,not_or,Decidable.not_not] at hvalid
     simp only [Bool.and_eq_true,decide_eq_true_eq] at h
     have hbase:=UInt64.le_iff_toNat_le.1 hvalid.1.2
     have hsize:=UInt64.le_iff_toNat_le.1 (UInt64.not_lt.1 hend)
     rw [toNat_maxUInt64_sub] at hbase hsize
     have hl:=UInt64.le_iff_toNat_le.1 h.1
     have hr:=UInt64.le_iff_toNat_le.1 h.2
     have hlen:=r.length.toNat_lt
     have hsz:=size.toNat_lt
     rw [UInt64.toNat_add,UInt64.toNat_add,Nat.mod_eq_of_lt (by omega),
      Nat.mod_eq_of_lt (by omega)] at hr
     exact ⟨hl,hr⟩

end PhysicalRange

structure PfnAddress where
 pfn : UInt64 := 0
 physicalAddress : UInt64 := 0
deriving DecidableEq,Repr

def PfnAddress.isConsistent (a : PfnAddress) : Bool :=
 if maxUInt64 >>> 12 < a.pfn then false
 else
  let expected := a.pfn <<< 12
  expected == a.physicalAddress && decide (expected ≤ maxUInt64-UInt64.ofNat kPhysicalPageSize)

inductive PhysicalTargetKind where
 | rawPfn
 | probeFixture
 | processMapping
deriving DecidableEq,Repr

structure PhysicalWriteTarget where
 kind : PhysicalTargetKind := .rawPfn
 address : PfnAddress := {}
 processId : Option UInt32 := none
 virtualPageAddress : Option UInt64 := none
deriving DecidableEq,Repr

namespace PhysicalWriteTarget

def ofRawPfn (address : PfnAddress) : PhysicalWriteTarget :=
 { kind := .rawPfn,address }

def isConsistent (t : PhysicalWriteTarget) : Bool :=
 if !t.address.isConsistent then false
 else match t.kind with
  | .rawPfn | .probeFixture => t.processId.isNone && t.virtualPageAddress.isNone
  | .processMapping =>
   match t.processId,t.virtualPageAddress with
   | some pid,some virtualPage =>
    pid != 0 && virtualPage%UInt64.ofNat kPhysicalPageSize == 0
   | _,_ => false

end PhysicalWriteTarget
end KDbg
