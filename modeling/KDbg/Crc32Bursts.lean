import Mathlib.Data.Nat.Bitwise
import KDbg.Crc32Agreement
set_option autoImplicit false
/-!
# Bursts of changed bits

A checksum is the remainder of a whole number: its bytes, with the first state at the lowest
bits, are divided bit by bit from below. A difference within 32 bits leaves a remainder.
-/
namespace KDbg

/-- A bit step on whole numbers, with the bytes to come above the state. -/
def divide (n : ℕ) : ℕ := (n/2) ^^^ (if n%2=1 then 0xEDB88320 else 0)

lemma divide_xor (m n:ℕ) : divide (m ^^^ n)=divide m ^^^ divide n := by
 unfold divide
 rw [Nat.xor_div_two,Nat.xor_mod_two_eq,Nat.add_mod]
 generalize m/2=a
 generalize n/2=b
 rcases Nat.mod_two_eq_zero_or_one m with even|odd <;>
  rcases Nat.mod_two_eq_zero_or_one n with even'|odd'
 · simp [even,even']
 · simp [even,odd',Nat.xor_assoc]
 · simp [odd,even',Nat.xor_assoc,Nat.xor_comm b]
 · have same : (a ^^^ 0xEDB88320) ^^^ (b ^^^ 0xEDB88320) =
    (a ^^^ b) ^^^ (0xEDB88320 ^^^ 0xEDB88320) := by ac_rfl
   simp [odd,odd',same]

lemma divide_double (n:ℕ) : divide (2*n)=n := by
 simp [divide]

lemma divide_lt {n:ℕ} (small:n<2^32) : divide n<2^32 := by
 refine Nat.xor_lt_two_pow (by omega) ?_
 split <;> omega

/-- The divisor has the highest bit, so that nothing but zero is divided to zero. -/
lemma divide_ne_zero {n:ℕ} (small:n<2^32) (filled:n≠0) : divide n≠0 := by
 intro zero
 have same:n/2=if n%2=1 then 0xEDB88320 else 0:=Nat.xor_eq_zero_iff.1 zero
 split at same <;> omega

lemma iterate_divide_xor (count m n:ℕ) :
 divide^[count] (m ^^^ n)=divide^[count] m ^^^ divide^[count] n := by
 induction count generalizing m n with
 | zero => rfl
 | succ count ih => rw [Function.iterate_succ_apply,divide_xor,ih];rfl

lemma iterate_divide_mul (count n:ℕ) : divide^[count] (2^count*n)=n := by
 induction count with
 | zero => simp
 | succ count ih =>
  rw [Function.iterate_succ_apply,pow_succ',mul_assoc,divide_double,ih]

lemma iterate_divide_ne_zero {n:ℕ} (count:ℕ) (small:n<2^32) (filled:n≠0) :
 divide^[count] n≠0 := by
 induction count generalizing n with
 | zero => exact filled
 | succ count ih => exact ih (divide_lt small) (divide_ne_zero small filled)

lemma toNat_crc32Bit (crc:UInt32) : (crc32Bit crc).toNat=divide crc.toNat := by
 rw [←UInt32.toNat_toBitVec,crc32Bit_eq,BitVec.toNat_xor,divide,BitVec.toNat_ushiftRight,
  Nat.shiftRight_eq_div_pow,BitVec.getLsbD,Nat.testBit_zero,UInt32.toNat_toBitVec]
 by_cases odd:crc.toNat%2=1 <;> simp [odd]

lemma toNat_crc32Update (crc:UInt32) (byte:UInt8) :
 (crc32Update crc byte).toNat=divide^[8] (crc.toNat ^^^ byte.toNat) := by
 change (crc32Bit (crc32Bit (crc32Bit (crc32Bit (crc32Bit (crc32Bit (crc32Bit (crc32Bit
  (crc ^^^ byte.toUInt32))))))))).toNat=_
 rw [toNat_crc32Bit,toNat_crc32Bit,toNat_crc32Bit,toNat_crc32Bit,toNat_crc32Bit,toNat_crc32Bit,
  toNat_crc32Bit,toNat_crc32Bit,UInt32.toNat_xor,UInt8.toNat_toUInt32]
 rfl

lemma testBit_cons (byte:UInt8) (bytes:List UInt8) (i:ℕ) :
 (ofLittleEndian (byte::bytes)).testBit i =
  if i<8 then byte.toNat.testBit i else (ofLittleEndian bytes).testBit (i-8) := by
 have split:=Nat.testBit_two_pow_mul_add (ofLittleEndian bytes) byte.toNat_lt i
 rwa [Nat.add_comm] at split

lemma toNat_foldl_crc32Update (crc:UInt32) (bytes:List UInt8) :
 (bytes.foldl crc32Update crc).toNat =
  divide^[8*bytes.length] (crc.toNat ^^^ ofLittleEndian bytes) := by
 induction bytes generalizing crc with
 | nil => simp [ofLittleEndian]
 | cons byte bytes ih =>
  have low:ofLittleEndian (byte::bytes)=byte.toNat ^^^ 2^8*ofLittleEndian bytes:=by
   apply Nat.eq_of_testBit_eq
   intro i
   rw [testBit_cons,Nat.testBit_xor,Nat.testBit_two_pow_mul]
   split
   · rename_i low
     simp [Nat.not_le.2 low]
   · rename_i high
     have clear:byte.toNat.testBit i=false:=Nat.testBit_lt_two_pow
      (byte.toNat_lt.trans_le (Nat.pow_le_pow_right (by omega) (Nat.not_lt.1 high)))
     simp [clear,Nat.not_lt.1 high]
  have step : divide^[8] ((crc.toNat ^^^ byte.toNat) ^^^ 2^8*ofLittleEndian bytes) =
   divide^[8] (crc.toNat ^^^ byte.toNat) ^^^ ofLittleEndian bytes := by
   rw [iterate_divide_xor,iterate_divide_mul]
  rw [List.foldl_cons,ih,toNat_crc32Update,List.length_cons,Nat.mul_succ,
   Function.iterate_add_apply,low,←Nat.xor_assoc,step]

/-- Bytes that differ within 32 bits have different checksums. -/
lemma crc32_ne_of_burst {bytes bytes':List UInt8} (length:bytes'.length=bytes.length)
 {start burst:ℕ} (small:burst<2^32) (filled:burst≠0)
 (differs:ofLittleEndian bytes ^^^ ofLittleEndian bytes'=2^start*burst) :
 crc32 bytes≠crc32 bytes' := by
 intro same
 have folds : (bytes.foldl crc32Update 0xFFFFFFFF).toNat =
  (bytes'.foldl crc32Update 0xFFFFFFFF).toNat := by
  rw [crc32,crc32,UInt32.not_inj] at same
  rw [same]
 rw [toNat_foldl_crc32Update,toNat_foldl_crc32Update,length,←Nat.xor_eq_zero_iff,
  ← iterate_divide_xor] at folds
 have cancel (s:ℕ) : (s ^^^ ofLittleEndian bytes) ^^^ (s ^^^ ofLittleEndian bytes') =
  (s ^^^ s) ^^^ (ofLittleEndian bytes ^^^ ofLittleEndian bytes') := by ac_rfl
 rw [cancel,Nat.xor_self,Nat.zero_xor,differs] at folds
 have inside:2^start*burst<2^(8*bytes.length):=by
  rw [←differs]
  exact Nat.xor_lt_two_pow (ofLittleEndian_lt_two_pow bytes)
   (length ▸ ofLittleEndian_lt_two_pow bytes')
 have early:start<8*bytes.length:=by
  refine (Nat.pow_lt_pow_iff_right (by omega:1<2)).1 (lt_of_le_of_lt ?_ inside)
  exact Nat.le_mul_of_pos_right _ (by omega)
 rw [←Nat.sub_add_cancel early.le,Function.iterate_add_apply,iterate_divide_mul] at folds
 exact iterate_divide_ne_zero _ small filled folds

/-- A bit of a byte sequence: bytes ascending, the least significant bit first. -/
def bitAt (bytes : List UInt8) (i : ℕ) : Bool := (bytes.getD (i/8) 0).toNat.testBit (i%8)

lemma testBit_ofLittleEndian (bytes:List UInt8) (i:ℕ) :
 (ofLittleEndian bytes).testBit i=bitAt bytes i := by
 induction bytes generalizing i with
 | nil => simp [ofLittleEndian,bitAt]
 | cons byte bytes ih =>
  rw [testBit_cons,bitAt]
  split
  · rename_i low
    rw [Nat.div_eq_of_lt low,Nat.mod_eq_of_lt low]
    rfl
  · rename_i high
    have place:i/8=(i-8)/8+1:=by omega
    have same:i%8=(i-8)%8:=by omega
    rw [ih,bitAt,place,same,List.getD_cons_succ]

/-- A number with all its bits in a window is a small one, shifted. -/
lemma exists_burst {n start:ℕ} (window:∀i,n.testBit i=true → start ≤ i ∧ i < start+32) :
 ∃ burst<2^32,n=2^start*burst := by
 refine ⟨n/2^start,Nat.lt_pow_two_of_testBit _ fun i past => ?_,Nat.eq_of_testBit_eq fun i => ?_⟩
 · rw [Nat.testBit_div_two_pow,Bool.eq_false_iff]
   intro inside
   have := window _ inside
   omega
 · rw [Nat.testBit_two_pow_mul,Nat.testBit_div_two_pow]
   by_cases low:start ≤ i
   · simp [low,Nat.sub_add_cancel]
   · have clear:n.testBit i=false:=Bool.eq_false_iff.2 fun inside=>low (window i inside).1
     simp [low,clear]

lemma crc32_ne_of_window {bytes bytes':List UInt8} (length:bytes'.length=bytes.length)
 (changed:bytes'≠bytes) {start:ℕ}
 (window:∀i,bitAt bytes i≠bitAt bytes' i → start ≤ i ∧ i < start+32) :
 crc32 bytes≠crc32 bytes' := by
 obtain ⟨burst,small,differs⟩:=exists_burst
  (n := ofLittleEndian bytes ^^^ ofLittleEndian bytes') fun i set=>window i (by
   rwa [Nat.testBit_xor,testBit_ofLittleEndian,testBit_ofLittleEndian,bne_iff_ne] at set)
 refine crc32_ne_of_burst length small ?_ differs
 rintro rfl
 rw [Nat.mul_zero,Nat.xor_eq_zero_iff] at differs
 apply changed
 rw [←littleEndian_ofLittleEndian bytes',←differs,length,littleEndian_ofLittleEndian]

namespace MemorySnapshot
open Interaction

lemma load_changed {store:Store} {file bytes:List UInt8} {snapshot:MemorySnapshot}
 (held:store.file=some file) (ran:(onStore load store).1=.ok snapshot)
 (length:bytes.length=snapshot.bytes.length)
 (differs:KDbg.crc32 snapshot.bytes≠KDbg.crc32 bytes) :
 (onStore load { store with
  file := some (file.take (file.length-snapshot.bytes.length)++bytes) }).1 =
  .error (makeError .verificationMismatch
   "Snapshot checksum does not match its payload" "MemorySnapshot::Load") := by
 obtain ⟨_,execution⟩:=Prog.exec_runWith Store.answer load store
 rw [ran] at execution
 have formed:=(Obtained.loaded _ execution).wellFormed
 obtain rfl : file=encoded snapshot := Option.some.inj (held.symm.trans (encoded_of_load ran))
 have start : (encoded snapshot).take ((encoded snapshot).length-snapshot.bytes.length) =
  SnapshotHeader.codec.encode snapshot.header++snapshot.space.label := by
  rw [encoded,←List.append_assoc,List.length_append,Nat.add_sub_cancel,List.take_left]
 rw [load_payload formed length (by rw [start,List.append_assoc]),if_pos]
 rw [checksumOf_eq,formed.checked,checksumOf_eq]
 exact differs.symm

/-- `Load` refuses an accepted file once its payload is changed within a window of 32 bits, or
 within four bytes that follow one another. -/
theorem load_detects_bursts :
 (∀ (store : Store) (file bytes : List UInt8) (snapshot : MemorySnapshot) (start : ℕ),
  store.file=some file→(onStore load store).1=.ok snapshot →
  bytes.length=snapshot.bytes.length → bytes≠snapshot.bytes →
  (∀ i,bitAt snapshot.bytes i≠bitAt bytes i → start ≤ i ∧ i < start+32) →
  (onStore load { store with
   file := some (file.take (file.length-snapshot.bytes.length)++bytes) }).1 =
   .error (makeError .verificationMismatch
    "Snapshot checksum does not match its payload" "MemorySnapshot::Load")) ∧
 (∀ (store : Store) (file bytes : List UInt8) (snapshot : MemorySnapshot) (start : ℕ),
  store.file=some file→(onStore load store).1=.ok snapshot →
  bytes.length=snapshot.bytes.length → bytes≠snapshot.bytes →
  (∀ i,snapshot.bytes[i]?≠bytes[i]? → start ≤ i ∧ i < start+4) →
  (onStore load { store with
   file := some (file.take (file.length-snapshot.bytes.length)++bytes) }).1 =
   .error (makeError .verificationMismatch
    "Snapshot checksum does not match its payload" "MemorySnapshot::Load")) := by
 have detects {store : Store} {file bytes : List UInt8} {snapshot : MemorySnapshot} (start : ℕ)
  (held : store.file=some file) (ran : (onStore load store).1=.ok snapshot)
  (length : bytes.length=snapshot.bytes.length) (changed : bytes≠snapshot.bytes)
  (window : ∀ i,bitAt snapshot.bytes i≠bitAt bytes i → start ≤ i ∧ i < start+32) :=
  load_changed held ran length (crc32_ne_of_window length changed window)
 refine ⟨fun _ _ _ _ start held ran length changed window =>
   detects start held ran length changed window,
  fun _ _ bytes snapshot start held ran length changed window => ?_⟩
 refine detects (8*start) held ran length changed fun i differs => ?_
 have place := window (i/8) fun same=>differs (by
  rw [bitAt,bitAt,List.getD_eq_getElem?_getD,List.getD_eq_getElem?_getD,same])
 omega

/-- The file of the sample is refused once bits 7 and 32 of its payload are flipped, which are not
 within four bytes, and once its last two bytes are other ones. -/
theorem sampleSnapshot_bursts :
 ∃ store file,store.file=some file ∧ (onStore load store).1=.ok sampleSnapshot ∧
  ∀ bytes∈[[0x7E,0xFF,0,1,3],[0xFE,0xFF,0,0x41,0x42]],
   (onStore load { store with
    file := some (file.take (file.length-sampleSnapshot.bytes.length)++bytes) }).1 =
    .error (makeError .verificationMismatch
     "Snapshot checksum does not match its payload" "MemorySnapshot::Load") := by
 obtain ⟨store,file,held,ran⟩ : ∃ store file,store.file=some file ∧
  (onStore load store).1=.ok sampleSnapshot :=
  ⟨⟨some (encoded sampleSnapshot),none,0⟩,_,rfl,
   load_encoded sampleSnapshot_obtained.wellFormed rfl⟩
 refine ⟨store,file,held,ran,?_⟩
 rw [List.forall_mem_cons,List.forall_mem_singleton]
 constructor
 · refine load_detects_bursts.1 store file _ _ 4 held ran rfl (by decide) fun i differs => ?_
   by_cases inside:i<40
   · have places : ∀ i<40,bitAt sampleSnapshot.bytes i≠bitAt [0x7E,0xFF,0,1,3] i →
      4 ≤ i ∧ i<4+32 := by decide
     exact places i inside differs
   · refine absurd ?_ differs
     rw [bitAt,bitAt,List.getD_eq_default _ _ (by change 5 ≤ _;omega),
      List.getD_eq_default _ _ (by change 5 ≤ _;omega)]
 · refine load_detects_bursts.2 store file _ _ 3 held ran rfl (by decide) fun i differs => ?_
   by_cases inside:i<5
   · have places : ∀ i<5,sampleSnapshot.bytes[i]?≠[0xFE,0xFF,0,0x41,0x42][i]? →
      3 ≤ i ∧ i<3+4 := by decide
     exact places i inside differs
   · refine absurd ?_ differs
     rw [List.getElem?_eq_none (by change 5 ≤ _;omega),
      List.getElem?_eq_none (by change 5 ≤ _;omega)]

end MemorySnapshot
end KDbg
