import Mathlib.Tactic
import Mathlib.Data.Nat.Bitwise
set_option autoImplicit false
/-!
# Bit fields as arithmetic

A field of a number is its bits `low` to `low + width - 1`. Masking a field in
place, and joining fields that do not overlap, are stated with quotients and
remainders, in which `omega` can decide what a layout of fields implies.
-/
namespace BitFields

lemma and_field (n low width:ℕ) :
 n &&& ((2^width-1)*2^low)=n/2^low%2^width*2^low := by
 apply Nat.eq_of_testBit_eq
 intro i
 rw [Nat.testBit_and,←Nat.shiftLeft_eq,←Nat.shiftLeft_eq,←Nat.shiftRight_eq_div_pow,
  Nat.testBit_shiftLeft,Nat.testBit_shiftLeft,Nat.testBit_mod_two_pow,
  Nat.testBit_shiftRight]
 by_cases below:i < low
 · simp [Nat.not_le.2 below]
 · have above:low+(i-low)=i:=by omega
   rw [above]
   cases n.testBit i <;> simp

lemma or_field {n low:ℕ} (high:ℕ) (small:n<2^low) :
 high*2^low ||| n=high*2^low+n := by
 rw [←Nat.shiftLeft_eq,Nat.shiftLeft_add_eq_or_of_lt small]

lemma toNat_and_field {x mask:UInt64} (low width:ℕ)
 (shape:mask.toNat=(2^width-1)*2^low) :
 (x &&& mask).toNat=x.toNat/2^low%2^width*2^low := by
 rw [UInt64.toNat_and,shape,and_field]

lemma and_field_eq_zero {x mask:UInt64} (low width:ℕ)
 (shape:mask.toNat=(2^width-1)*2^low) :
 x &&& mask=0 ↔ x.toNat/2^low%2^width=0 := by
 rw [←UInt64.toNat_inj,toNat_and_field low width shape]
 constructor
 · intro zero
   exact (Nat.mul_eq_zero.1 zero).resolve_right (Nat.two_pow_pos low).ne'
 · intro zero
   rw [zero,Nat.zero_mul]
   rfl

lemma toNat_shiftRight {x:UInt64} (amount:UInt64) (small:amount.toNat<64) :
 (x >>> amount).toNat=x.toNat/2^amount.toNat := by
 rw [UInt64.toNat_shiftRight,Nat.mod_eq_of_lt small,Nat.shiftRight_eq_div_pow]

lemma toNat_shiftLeft {x:UInt64} (amount:UInt64) (small:amount.toNat<64)
 (fits:x.toNat*2^amount.toNat<2^64) :
 (x <<< amount).toNat=x.toNat*2^amount.toNat := by
 rw [UInt64.toNat_shiftLeft,Nat.mod_eq_of_lt small,Nat.shiftLeft_eq,Nat.mod_eq_of_lt fits]

/-- A number cut to `bits + 1` bits and extended again with copies of the highest of them. -/
lemma toNat_signExtend (x mask sign:UInt64) (bits:ℕ) (small:bits<64)
 (cut:mask.toNat=(2^(bits+1)-1)*2^0) (top:sign.toNat=(2^1-1)*2^bits)
 (rest:(~~~mask).toNat=(2^(63-bits)-1)*2^(bits+1)) :
 (if x &&& mask &&& sign≠0 then x &&& mask ||| ~~~mask else x &&& mask).toNat =
  if x.toNat%2^(bits+1)<2^bits then x.toNat%2^(bits+1)
  else x.toNat%2^(bits+1)+(2^64-2^(bits+1)) := by
 have double:2^(bits+1)=2^bits*2:=Nat.pow_succ 2 bits
 have low:(x &&& mask).toNat=x.toNat%2^(bits+1):=by
  rw [toNat_and_field 0 (bits+1) cut,Nat.pow_zero,Nat.div_one,Nat.mul_one]
 have lt:=Nat.mod_lt x.toNat (Nat.two_pow_pos (bits+1))
 have clear:x &&& mask &&& sign=0 ↔ x.toNat%2^(bits+1)<2^bits:=by
  have one : x.toNat%2^(bits+1)/2^bits<2^1 :=
   Nat.div_lt_of_lt_mul (double ▸ lt)
  rw [and_field_eq_zero bits 1 top,low,Nat.mod_eq_of_lt one,Nat.div_eq_zero_iff]
  omega
 have copies:(2^(63-bits)-1)*2^(bits+1)=2^64-2^(bits+1):=by
  rw [Nat.sub_mul,Nat.one_mul,←Nat.pow_add]
  congr 2
  omega
 by_cases positive:x.toNat%2^(bits+1)<2^bits
 · rw [if_neg (not_not.2 (clear.2 positive)),if_pos positive,low]
 · rw [if_pos (mt clear.1 positive),if_neg positive,UInt64.toNat_or,low,rest,Nat.or_comm,
    or_field _ lt,copies,Nat.add_comm]

lemma signExtended_iff (x low high ones:UInt64) (bits:ℕ) (small:bits<63)
 (atSign:low.toNat=bits) (atRest:high.toNat=bits+1)
 (full:ones.toNat=2^(63-bits)-1) :
 (if x >>> low &&& 1=0 then x >>> high == 0 else x >>> high == ones)=true ↔
  x.toNat<2^bits ∨ 2^64-2^bits ≤ x.toNat := by
 have lt:=x.toNat_lt
 have double:x.toNat/2^(bits+1)=x.toNat/2^bits/2:=by
  rw [Nat.pow_succ,Nat.div_div_eq_div_mul]
 have sign:x >>> low &&& 1=0 ↔ x.toNat/2^bits%2=0:=by
  rw [and_field_eq_zero 0 1 rfl,toNat_shiftRight low (by omega),atSign,Nat.pow_zero,
   Nat.div_one,Nat.pow_one]
 have upper:(x >>> high).toNat=x.toNat/2^bits/2:=by
  rw [toNat_shiftRight high (by omega),atRest,double]
 have below : x.toNat<2^bits ↔ x.toNat/2^bits=0 :=
  (Nat.div_eq_zero_iff_lt (Nat.two_pow_pos bits)).symm
 have whole:2^64=2^bits*2^(64-bits):=by
  rw [←Nat.pow_add,Nat.add_sub_cancel' (by omega)]
 have above:2^64-2^bits ≤ x.toNat ↔ 2^(64-bits)-1 ≤ x.toNat/2^bits:=by
  rw [Nat.le_div_iff_mul_le (Nat.two_pow_pos bits),Nat.sub_mul,Nat.one_mul,Nat.mul_comm,whole]
 have most : x.toNat/2^bits<2^(64-bits) :=
  Nat.div_lt_of_lt_mul (whole ▸ lt)
 have half:2^(64-bits)=2^(63-bits)*2:=by
  rw [←Nat.pow_succ]
  congr 1
  omega
 rw [below]
 split
 · rename_i zero
   have even:=sign.1 zero
   rw [beq_iff_eq,←UInt64.toNat_inj]
   change _=0 ↔ _
   omega
 · rename_i one
   have odd:=mt sign.2 one
   rw [beq_iff_eq,←UInt64.toNat_inj]
   omega

end BitFields
