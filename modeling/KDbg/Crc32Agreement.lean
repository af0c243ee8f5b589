import KDbg.SnapshotFormat
import KDbg.ProbeDriver
set_option autoImplicit false
/-! The bit steps of the checksum are linear, so that a table of single bytes gives the same
function. The other implementations are the bitwise loop again. -/
namespace KDbg

lemma crc32Bit_eq (crc:UInt32) : (crc32Bit crc).toBitVec =
 (crc.toBitVec >>> 1) ^^^ (if crc.toBitVec.getLsbD 0 then 0xEDB88320#32 else 0#32) := by
 change _ ^^^ (_ &&& (0#32-(crc.toBitVec &&& 1#32)))=_
 rw [BitVec.and_one_eq_setWidth_ofBool_getLsbD]
 cases crc.toBitVec.getLsbD 0 <;> rfl

lemma crc32Bit_xor (a b:UInt32) : crc32Bit (a ^^^ b)=crc32Bit a ^^^ crc32Bit b := by
 apply UInt32.toBitVec_inj.1
 rw [UInt32.toBitVec_xor,crc32Bit_eq,crc32Bit_eq,crc32Bit_eq,UInt32.toBitVec_xor,
  BitVec.getLsbD_xor,BitVec.ushiftRight_xor_distrib]
 generalize a.toBitVec >>> 1=x
 generalize b.toBitVec >>> 1=y
 cases a.toBitVec.getLsbD 0 <;> cases b.toBitVec.getLsbD 0
 · simp
 · simp [BitVec.xor_assoc]
 · simp [BitVec.xor_assoc,BitVec.xor_comm y]
 · have same:(x ^^^ 0xEDB88320#32) ^^^ (y ^^^ 0xEDB88320#32) =
   (x ^^^ y) ^^^ (0xEDB88320#32 ^^^ 0xEDB88320#32):=by ac_rfl
   simp [same]

/-- The bit steps only shift a value without its lowest byte. -/
lemma crc32Bits_upper (crc:UInt32) {count:ℕ} (within:count≤8) :
 ((List.range count).foldl (fun crc _=>crc32Bit crc) (crc &&& 0xFFFFFF00)).toBitVec =
  (crc.toBitVec &&& 0xFFFFFF00#32) >>> count := by
 induction count with
 | zero => rfl
 | succ count ih =>
  have clear:∀k<8,(0xFFFFFF00#32).getLsbD k=false:=by decide
  have even:((crc.toBitVec &&& 0xFFFFFF00#32) >>> count).getLsbD 0=false:=by
   simp [clear count within]
  rw [List.range_succ,List.foldl_append,List.foldl_cons,List.foldl_nil,crc32Bit_eq,
   ih (by omega),even,BitVec.shiftRight_add]
  simp

lemma crc32Bits_xor (a b:UInt32) (steps:List ℕ) :
 steps.foldl (fun crc _=>crc32Bit crc) (a ^^^ b) =
  steps.foldl (fun crc _=>crc32Bit crc) a ^^^ steps.foldl (fun crc _=>crc32Bit crc) b := by
 induction steps generalizing a b with
 | nil => rfl
 | cons _ steps ih => rw [List.foldl_cons,crc32Bit_xor,ih,List.foldl_cons,List.foldl_cons]

namespace MemorySnapshot

/-- A step by the table does what eight bit steps do. -/
lemma crc32Step_eq (crc:UInt32) (byte:UInt8) : crc32Step crc byte=crc32Update crc byte := by
 have upper:∀k<32,(0xFFFFFF00#32).getLsbD k=decide (8 ≤ k):=by decide
 have parts (x:UInt32) : x=(x &&& 0xFFFFFF00) ^^^ x.toUInt8.toUInt32 := by
  apply UInt32.toBitVec_inj.1
  change x.toBitVec=(x.toBitVec &&& 0xFFFFFF00#32) ^^^ (x.toBitVec.setWidth 8).setWidth 32
  apply BitVec.eq_of_getLsbD_eq
  intro k bound
  rw [BitVec.getLsbD_xor,BitVec.getLsbD_and,upper k bound,BitVec.getLsbD_setWidth,
   BitVec.getLsbD_setWidth]
  by_cases low:k<8 <;> simp [low,bound,Nat.not_le.2,Nat.not_lt.1]
 rw [crc32Update,parts (crc ^^^ byte.toUInt32),crc32Bits_xor]
 change (crc >>> 8) ^^^ crc32Entry _=_ ^^^ crc32Entry _
 congr 1
 apply UInt32.toBitVec_inj.1
 rw [crc32Bits_upper _ le_rfl]
 change crc.toBitVec >>> 8=((crc.toBitVec ^^^ byte.toBitVec.setWidth 32) &&& 0xFFFFFF00#32) >>> 8
 apply BitVec.eq_of_getLsbD_eq
 intro k _
 rw [BitVec.getLsbD_ushiftRight,BitVec.getLsbD_ushiftRight,BitVec.getLsbD_and,BitVec.getLsbD_xor,
  BitVec.getLsbD_setWidth,BitVec.getLsbD_of_ge _ _ (Nat.le_add_right 8 k)]
 by_cases bound : 8+k<32
 · simp [upper _ bound]
 · simp [BitVec.getLsbD_of_ge _ _ (Nat.not_lt.1 bound)]

lemma checksumOf_eq (bytes:List UInt8) : checksumOf bytes=KDbg.crc32 bytes := by
 have steps:crc32Step=crc32Update:=by
  funext crc byte
  exact crc32Step_eq crc byte
 rw [checksumOf,steps,KDbg.crc32]

end MemorySnapshot

def LiveVerify.crc32 (bytes : List UInt8) : UInt32 := ~~~ bytes.foldl crc32Update 0xFFFFFFFF

namespace ProbeClient

def updateCrc32 (crc : UInt32) (value : UInt8) : UInt32 := crc32Update crc value

def expectedResetCrc32 : UInt32 :=
 ~~~ (List.range kPhysicalPageSize).foldl
  (fun crc index=>updateCrc32 crc (UInt8.ofNat ((index*17+0x3D)%256))) 0xFFFFFFFF

def expectedFillCrc32 (value : UInt8) : UInt32 :=
 ~~~ (List.range kPhysicalPageSize).foldl (fun crc _=>updateCrc32 crc value) 0xFFFFFFFF

end ProbeClient

lemma crc32_page (byte:ℕ→UInt8) :
 crc32 (List.ofFn fun i : Fin kPhysicalPageSize=>byte i) =
  ~~~ (List.range kPhysicalPageSize).foldl (fun crc i=>crc32Update crc (byte i))
   0xFFFFFFFF := by
 have bytes : (List.ofFn fun i : Fin kPhysicalPageSize=>byte i) =
  (List.range kPhysicalPageSize).map byte := by
  rw [←List.map_coe_finRange_eq_range,List.map_map,List.ofFn_eq_map]
  rfl
 rw [crc32,bytes,List.foldl_map]

/-- The table, the loops of the verifier and of the probe, and what the probe's client expects. -/
theorem crc32_implementations_agree :
 (∀ bytes phase store,MemorySnapshot.onStore (MemorySnapshot.crc32 bytes phase) store =
  (.ok (crc32 bytes),store)) ∧
 (∀ bytes,LiveVerify.crc32 bytes=crc32 bytes) ∧
 (∀ s : ProbeDriver,
  crc32 (List.ofFn s.resetPattern.buffer)=ProbeClient.expectedResetCrc32) ∧
 ∀ (s : ProbeDriver) (value : UInt8),
  crc32 (List.ofFn (s.fill value.toUInt32).buffer)=ProbeClient.expectedFillCrc32 value := by
 refine ⟨?_,fun _=>rfl,fun s => ?_,fun s value => ?_⟩
 · intro bytes phase store
   rw [MemorySnapshot.crc32_onStore,MemorySnapshot.checksumOf_eq]
 · unfold ProbeClient.expectedResetCrc32 ProbeClient.updateCrc32
   exact crc32_page fun i=>UInt8.ofNat ((i*17+0x3D)%256)
 · have low : (value.toUInt32 &&& 0xFF).toUInt8=value := by
    apply UInt8.toNat_inj.1
    change (value.toNat &&& (2^8-1))%256=value.toNat
    rw [Nat.and_two_pow_sub_one_eq_mod]
    have small := value.toNat_lt
    omega
   have filled : (s.fill value.toUInt32).buffer=fun _=>value := by
    funext i
    exact low
   rw [filled]
   unfold ProbeClient.expectedFillCrc32 ProbeClient.updateCrc32
   exact crc32_page fun _=>value

end KDbg
