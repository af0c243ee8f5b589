import KDbg.StaticMemory
set_option autoImplicit false
/-! The tests of the driver, its client, the page-table decoder and the module catalog for
canonical addresses and for ranges, which are written separately, give the same answers. -/
namespace KDbg
open BitFields

namespace Driver

def isKernelRange (la57 : Bool) (address length : UInt64) : Bool :=
 match checkedEnd address length with
 | none => false
 | some endExclusive =>
  let last := endExclusive-1
  let signBit : UInt64 := if la57 then 56 else 47
  isCanonical address la57 && isCanonical last la57 &&
   (address >>> signBit) &&& 1 != 0 && (last >>> signBit) &&& 1 != 0

end Driver

def isCanonicalX64Address (address : UInt64) (la57 : Bool) : Bool :=
 let signBit : UInt64 := if la57 then 56 else 47
 let addressBits : UInt64 := if la57 then 57 else 48
 let upper := address >>> addressBits
 let sign := (address >>> signBit) &&& 1 != 0
 upper == if sign then ((1 : UInt64) <<< (64-addressBits))-1 else 0

section
variable (address:UInt64) (la57:Bool)

lemma isCanonicalAddress_eq :
 KDbgBackend.isCanonicalAddress address la57=Driver.isCanonical address la57 := by
 cases la57 with
 | true => exact apply_ite (address >>> 57 == ·) _ _ _
 | false => exact apply_ite (address >>> 48 == ·) _ _ _

lemma isCanonicalX64Address_eq :
 isCanonicalX64Address address la57=Driver.isCanonical address la57 := by
 cases la57 with
 | true =>
  change (address >>> 57 == if (address >>> 56 &&& 1 != 0)=true then 0x7F else 0) =
   if address >>> 56 &&& 1=0 then address >>> 57 == 0 else address >>> 57 == 0x7F
  by_cases sign:address >>> 56 &&& 1=0 <;> simp [sign]
 | false =>
  change (address >>> 48 == if (address >>> 47 &&& 1 != 0)=true then 0xFFFF else 0) =
   if address >>> 47 &&& 1=0 then address >>> 48 == 0 else address >>> 48 == 0xFFFF
  by_cases sign:address >>> 47 &&& 1=0 <;> simp [sign]

/-- Only the bits below the copies of the sign matter. -/
lemma canonicalize_congr {raw:UInt64}
 (same:raw.toNat%2^addressBits la57=address.toNat%2^addressBits la57) :
 canonicalizeVirtualAddress raw la57=canonicalizeVirtualAddress address la57 := by
 apply UInt64.toNat_inj.1
 rw [toNat_canonicalize,toNat_canonicalize,same]

lemma canonicalize_eq_self_iff :
 canonicalizeVirtualAddress address la57=address ↔ Driver.isCanonical address la57=true := by
 constructor
 · intro kept
   have canonical:=canonicalize_canonical address la57
   rwa [kept] at canonical
 · intro canonical
   refine (canonicalize_congr _ _ ?_).trans (canonicalize_of_canonical canonical)
   have most:2^addressBits la57≤2^57:=by cases la57 <;> decide
   have small:=Nat.mod_lt address.toNat (Nat.two_pow_pos (addressBits la57))
   rw [UInt64.toNat_ofNat_of_lt' (by change _<2^64;omega),Nat.mod_mod]

end

/-- The address whose page-table indices and offset these are, before the sign is extended. -/
def VirtualAddressIndices.recombined (indices : VirtualAddressIndices) : UInt64 :=
 UInt64.ofNat (indices.pml5.toNat*2^48+indices.pml4.toNat*2^39 +
  indices.pdpt.toNat*2^30+indices.pd.toNat*2^21+indices.pt.toNat*2^12 +
  indices.offset.toNat)

lemma toNat_index (address shift:UInt64) (small:shift.toNat<64) :
 ((address >>> shift) &&& 0x1FF).toUInt16.toNat=address.toNat/2^shift.toNat%2^9 := by
 have index:((address >>> shift) &&& 0x1FF).toNat=address.toNat/2^shift.toNat%2^9:=by
  rw [toNat_and_field 0 9 rfl,toNat_shiftRight shift small,Nat.pow_zero,Nat.div_one,Nat.mul_one]
 rw [UInt64.toNat_toUInt16,index]
 omega

lemma decoder_canonical (address:UInt64) (la57:Bool) :
 (if la57 then isCanonical57 address else isCanonical48 address) =
  Driver.isCanonical address la57 := by
 cases la57 <;> rfl

lemma decode_accepts_iff (address:UInt64) (la57:Bool) :
 (∃ indices,VirtualAddressIndices.decode address la57=.ok indices) ↔
  Driver.isCanonical address la57=true := by
 unfold VirtualAddressIndices.decode
 dsimp only
 rw [decoder_canonical]
 cases Driver.isCanonical address la57 <;> simp

lemma decode_recombined {address:UInt64} {la57:Bool} {indices:VirtualAddressIndices}
 (decoded:VirtualAddressIndices.decode address la57=.ok indices) :
 canonicalizeVirtualAddress indices.recombined la57=address := by
 unfold VirtualAddressIndices.decode at decoded
 dsimp only at decoded
 rw [decoder_canonical] at decoded
 cases canonical:Driver.isCanonical address la57 with
 | false =>
  rw [canonical] at decoded
  cases decoded
 | true =>
  rw [canonical] at decoded
  obtain rfl := Except.ok.inj decoded
  have offset:(address &&& 0xFFF).toUInt16.toNat=address.toNat%2^12:=by
   have low:(address &&& 0xFFF).toNat=address.toNat%2^12:=by
    rw [toNat_and_field 0 12 rfl,Nat.pow_zero,Nat.div_one,Nat.mul_one]
   rw [UInt64.toNat_toUInt16,low]
   omega
  refine (canonicalize_congr address la57 ?_).trans ((canonicalize_eq_self_iff _ _).2 canonical)
  rw [VirtualAddressIndices.recombined,UInt64.toNat_ofNat']
  dsimp only
  rw [offset,toNat_index _ 12 (by decide),toNat_index _ 21 (by decide),
   toNat_index _ 30 (by decide),toNat_index _ 39 (by decide),toNat_index _ 48 (by decide)]
  have shifts : (12 : UInt64).toNat=12 ∧ (21 : UInt64).toNat=21 ∧ (30 : UInt64).toNat=30 ∧
   (39 : UInt64).toNat=39 ∧ (48 : UInt64).toNat=48 := ⟨rfl,rfl,rfl,rfl,rfl⟩
  rw [shifts.1,shifts.2.1,shifts.2.2.1,shifts.2.2.2.1,shifts.2.2.2.2]
  cases la57 <;> simp only [addressBits,if_true,if_false,Bool.false_eq_true] <;> omega

lemma checkedEnd_eq (address length:UInt64) : checkedEnd address length =
 if KDbgBackend.isNonOverflowingRange address length.toNat then some (address+length)
 else none := by
 have top:maxUInt64.toNat=18446744073709551615:=rfl
 have low:=address.toNat_lt
 have wide:=length.toNat_lt
 have zero:length=0 ↔ length.toNat=0:=by rw [←UInt64.toNat_inj];rfl
 have past:maxUInt64-length < address ↔ 18446744073709551615-length.toNat < address.toNat:=by
  rw [UInt64.lt_iff_toNat_lt,UInt64.toNat_sub_of_le _ _ (UInt64.le_iff_toNat_le.2 (by omega)),top]
 simp only [checkedEnd,KDbgBackend.isNonOverflowingRange,Bool.and_eq_true,bne_iff_ne,
  decide_eq_true_eq,zero,past,top]
 split_ifs <;> first | rfl | omega

/-- The page bound and the kernel range that the client checks are those that the driver checks. -/
lemma isPageBounded_eq (address length:UInt64) :
 KDbgBackend.isPageBounded address length.toNat=isPageBounded address length := by
 rw [KDbgBackend.isPageBounded,isPageBounded,checkedEnd_eq,UInt64.ofNat_toNat]
 cases KDbgBackend.isNonOverflowingRange address length.toNat <;> rfl

lemma isKernelVirtualRange_eq (address length:UInt64) (la57:Bool) :
 KDbgBackend.isKernelVirtualRange address length.toNat la57 =
  Driver.isKernelRange la57 address length := by
 rw [KDbgBackend.isKernelVirtualRange,Driver.isKernelRange,checkedEnd_eq,UInt64.ofNat_toNat,
  KDbgBackend.isValidAddressRange]
 simp only [isCanonicalAddress_eq]
 by_cases zero:address=0
 · subst zero
   cases KDbgBackend.isNonOverflowingRange 0 length.toNat <;> cases la57 <;> simp
 · cases KDbgBackend.isNonOverflowingRange address length.toNat <;> simp [zero]

/-- Every classifier of addresses and of ranges gives the answer of the driver's. -/
theorem address_classifiers_agree :
 (∀ address la57,KDbgBackend.isCanonicalAddress address la57=Driver.isCanonical address la57 ∧
  isCanonicalX64Address address la57=Driver.isCanonical address la57 ∧
  ((if la57 then isCanonical57 address else isCanonical48 address) =
   Driver.isCanonical address la57) ∧
  ((∃ indices,VirtualAddressIndices.decode address la57=.ok indices) ↔
   Driver.isCanonical address la57=true)) ∧
 (∀ raw la57,Driver.isCanonical (canonicalizeVirtualAddress raw la57) la57=true ∧
  (canonicalizeVirtualAddress raw la57=raw ↔ Driver.isCanonical raw la57=true)) ∧
 (∀ address la57 indices,VirtualAddressIndices.decode address la57=.ok indices →
  address=canonicalizeVirtualAddress indices.recombined la57) ∧
 ∀ address length : UInt64,
  KDbgBackend.isPageBounded address length.toNat=isPageBounded address length ∧
  ∀ la57,KDbgBackend.isKernelVirtualRange address length.toNat la57 =
   Driver.isKernelRange la57 address length :=
 ⟨fun address la57=>⟨isCanonicalAddress_eq address la57,isCanonicalX64Address_eq address la57,
  decoder_canonical address la57,decode_accepts_iff address la57⟩,
  fun raw la57=>⟨canonicalize_canonical raw la57,canonicalize_eq_self_iff raw la57⟩,
  fun _ _ _ decoded=>(decode_recombined decoded).symm,
  fun address length=>⟨isPageBounded_eq address length,isKernelVirtualRange_eq address length⟩⟩

/-- The middle of the address space is canonical only with five levels; what the decoder accepts of
 the upper half comes back from its indices. -/
theorem sampleAddresses_classified :
 (¬∃ indices,VirtualAddressIndices.decode 0x800000000000 false=.ok indices) ∧
 (∃ indices,VirtualAddressIndices.decode 0x800000000000 true=.ok indices) ∧
 ∃ indices,VirtualAddressIndices.decode 0xFFFF800000001234 false=.ok indices ∧
  indices.offset=0x234 ∧ indices.pml4=0x100 ∧
  canonicalizeVirtualAddress indices.recombined false=0xFFFF800000001234 := by
 obtain ⟨tests,-,recombines,-⟩ := address_classifiers_agree
 have decodes (address la57) := (tests address la57).2.2.2
 obtain ⟨indices,decoded⟩ := (decodes 0xFFFF800000001234 false).2 (by decide)
 refine ⟨fun accepted => ?_,(decodes 0x800000000000 true).2 (by decide),indices,decoded,?_,?_,
  (recombines _ _ _ decoded).symm⟩
 · exact absurd ((decodes 0x800000000000 false).1 accepted) (by decide)
 · cases decoded
   rfl
 · cases decoded
   rfl

end KDbg
