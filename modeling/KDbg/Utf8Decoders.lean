import KDbg.MemProcFsCommandLine
set_option autoImplicit false
/-! The two decoders of UTF-8 accept the same byte strings, the encodings of texts. One looks at
the masked bits of a first byte and the other at its range. -/
namespace KDbg
open WideText MemProcFsProvider

section Decoders
variable {first:UInt8} {rest continuation bytes:List UInt8} {count bits:ℕ}

lemma utf8Lead_eq (first:UInt8) : utf8Lead first =
 if first.toNat<0x80 then some (first.toNat,0)
 else if 0xC0 ≤ first.toNat ∧ first.toNat<0xE0 then some (first.toNat%0x20,1)
 else if 0xE0 ≤ first.toNat ∧ first.toNat<0xF0 then some (first.toNat%0x10,2)
 else if 0xF0 ≤ first.toNat ∧ first.toNat<0xF8 then some (first.toNat%0x08,3)
 else none := by
 have all : ∀n<256,utf8Lead (UInt8.ofNat n)=
  if n<0x80 then some (n,0)
  else if 0xC0 ≤ n ∧ n<0xE0 then some (n%0x20,1)
  else if 0xE0 ≤ n ∧ n<0xF0 then some (n%0x10,2)
  else if 0xF0 ≤ n ∧ n<0xF8 then some (n%0x08,3)
  else none := by decide +kernel
 have byte:=all _ first.toNat_lt
 rwa [UInt8.ofNat_toNat] at byte

lemma utf8Continue_eq (bits:ℕ) (continuation:List UInt8) :
 utf8Continue bits continuation=
  if continuation.all isContinuation then some (codePoint bits continuation) else none := by
 have masks : ∀n<256,(UInt8.ofNat n &&& 0xC0=0x80 ↔ n/0x40=2) ∧
  (UInt8.ofNat n &&& 0x3F).toNat=n%0x40 := by decide +kernel
 induction continuation generalizing bits with
 | nil => rfl
 | cons next continuation ih =>
  have ⟨mask,low⟩ := masks _ next.toNat_lt
  rw [UInt8.ofNat_toNat] at mask low
  rw [List.all_cons,isContinuation]
  by_cases follows:next.toNat/0x40=2
  · rw [utf8Continue,List.foldlM_cons,if_pos (mask.2 follows),low]
    refine (ih (bits*64+next.toNat%64)).trans ?_
    simp only [follows,BEq.rfl,Bool.true_and]
    rfl
  · have other:¬next &&& 0xC0=0x80:=fun same=>follows (mask.1 same)
    simp [utf8Continue,other,follows]

lemma isScalar_iff {code:ℕ} : isScalar count code=true ↔
 ¬(count=1 ∧ code<0x80) ∧ ¬(count=2 ∧ code<0x800) ∧ ¬(count=3 ∧ code<0x10000) ∧
  ¬ 0x10FFFF < code ∧ ¬(0xD800 ≤ code ∧ code≤0xDFFF) := by
 simp only [isScalar,Bool.not_eq_true',Bool.or_eq_false_iff,Bool.and_eq_false_iff,
  beq_eq_false_iff_ne,decide_eq_false_iff_not]
 tauto

/-- The ranges leave out the first bytes whose code points are never accepted. -/
lemma leadByte_of_scalar (lead:utf8Lead first=some (bits,count)) (high:¬first.toNat<0x80)
 (length:continuation.length=count)
 (scalar:isScalar count (codePoint bits continuation)=true) :
 leadByte first=some (count,bits) := by
 rw [utf8Lead_eq,if_neg high] at lead
 have scalar:=isScalar_iff.1 scalar
 simp only [leadByte,UInt8.le_iff_toNat_le,UInt8.reduceToNat]
 split at lead
 · cases lead
   obtain ⟨b,rfl⟩:=List.length_eq_one_iff.1 length
   have sum:codePoint (first.toNat%0x20) [b]=first.toNat%0x20*0x40+b.toNat%0x40:=rfl
   rw [if_pos (by omega)]
 split at lead
 · cases lead
   rw [if_neg (by omega),if_pos (by omega)]
 split at lead
 · cases lead
   obtain ⟨b,c,d,rfl⟩:=List.length_eq_three.1 length
   have sum : codePoint (first.toNat%0x08) [b,c,d]=
    ((first.toNat%0x08*0x40+b.toNat%0x40)*0x40+c.toNat%0x40)*0x40+d.toNat%0x40 := rfl
   rw [if_neg (by omega),if_neg (by omega),if_pos (by omega)]
 · cases lead

/-- What one decoder takes the other takes too. -/
lemma valid_of_utf8Loop {fuel:ℕ} {units:List UInt16} (enough:bytes.length ≤ fuel)
 (converted:utf8Loop fuel bytes=.ok units) : isValidUtf8 bytes=true := by
 induction fuel generalizing bytes units with
 | zero =>
  rw [List.length_eq_zero_iff.1 (Nat.le_zero.1 enough),isValidUtf8]
 | succ fuel ih =>
  cases bytes with
  | nil => rw [isValidUtf8]
  | cons first rest =>
   rw [utf8Loop] at converted
   split at converted
   · cases converted
   rename_i bits count lead
   split at converted
   · cases converted
   rename_i long
   rw [utf8Continue_eq] at converted
   split at converted
   · cases converted
   rename_i code continued
   rw [Option.ite_none_right_eq_some,Option.some.injEq] at continued
   obtain ⟨all,rfl⟩:=continued
   split at converted
   · cases converted
   rename_i scalar
   rw [Bool.not_eq_true,Bool.not_eq_false'] at scalar
   obtain ⟨later,ran,-⟩:=Fallible.exists_of_bind converted
   have valid:=ih (by rw [List.length_drop];rw [List.length_cons] at enough;omega) ran
   rw [isValidUtf8]
   by_cases ascii:first.toNat<0x80
   · rw [utf8Lead_eq,if_pos ascii] at lead
     cases lead
     rwa [if_pos (UInt8.le_iff_toNat_le.2 (Nat.le_of_lt_succ ascii))]
   · have taken:(rest.take count).length=count:=List.length_take_of_le (Nat.not_lt.1 long)
     have good:=isScalar_iff.1 scalar
     have beyond:¬first≤0x7F:=fun low=>ascii (Nat.lt_succ_of_le (UInt8.le_iff_toNat_le.1 low))
     rw [if_neg beyond,leadByte_of_scalar lead ascii taken scalar]
     dsimp only
     rw [if_neg long,if_neg (by simp [all]),if_neg (by omega)]
     exact valid

lemma ofNat_continuation {n:ℕ} (small:n<0x40) :
 isContinuation (UInt8.ofNat (n+0x80))=true ∧ (UInt8.ofNat (n+0x80)).toNat%0x40=n := by
 have value : (UInt8.ofNat (n+0x80)).toNat=n+0x80 :=
  UInt8.toNat_ofNat_of_lt' (by simp only [UInt8.size];omega)
 rw [isContinuation_iff,value]
 omega

/-- The first byte of a character, its continuation and what they stand for. -/
lemma utf8EncodeChar_turn (c:Char) : ∃ first continuation bits,
 String.utf8EncodeChar c=first::continuation ∧
  utf8Lead first=some (bits,continuation.length) ∧ continuation.all isContinuation=true ∧
  codePoint bits continuation=c.toNat ∧ isScalar continuation.length c.toNat=true := by
 have bound:=toNat_lt c
 have plain:=not_surrogate c
 have value {n:ℕ} (small:n<256) : (UInt8.ofNat n).toNat=n := UInt8.toNat_ofNat_of_lt' small
 have low:=ofNat_continuation (Nat.mod_lt c.toNat (by decide:0<0x40))
 have middle:=ofNat_continuation (Nat.mod_lt (c.toNat/64) (by decide:0<0x40))
 have upper:=ofNat_continuation (Nat.mod_lt (c.toNat/4096) (by decide:0<0x40))
 by_cases one:c.toNat≤0x7F
 · refine ⟨UInt8.ofNat c.toNat,[],c.toNat,if_pos one,?_,rfl,rfl,isScalar_iff.2 (by simp;omega)⟩
   rw [utf8Lead_eq,value (by omega),if_pos (by omega)]
   rfl
 by_cases two:c.toNat≤0x7FF
 · refine ⟨UInt8.ofNat (c.toNat/64%32+192),[UInt8.ofNat (c.toNat%64+128)],c.toNat/64%32,
    (if_neg one).trans (if_pos two),?_,?_,?_,isScalar_iff.2 ?_⟩
   · rw [utf8Lead_eq,value (by omega),if_neg (by omega),if_pos (by omega)]
     exact congrArg (fun bits=>some (bits,1)) (by omega)
   · rw [List.all_cons,low.1]
     rfl
   · change c.toNat/64%32*0x40+_%0x40=_
     rw [low.2]
     omega
   · simp
     omega
 by_cases three:c.toNat≤0xFFFF
 · refine ⟨UInt8.ofNat (c.toNat/4096%16+224),
    [UInt8.ofNat (c.toNat/64%64+128),UInt8.ofNat (c.toNat%64+128)],c.toNat/4096%16,
    (if_neg one).trans ((if_neg two).trans (if_pos three)),
    ?_,?_,?_,isScalar_iff.2 ?_⟩
   · rw [utf8Lead_eq,value (by omega),if_neg (by omega),if_neg (by omega),if_pos (by omega)]
     exact congrArg (fun bits=>some (bits,2)) (by omega)
   · rw [List.all_cons,List.all_cons,middle.1,low.1]
     rfl
   · change (c.toNat/4096%16*0x40+_%0x40)*0x40+_%0x40=_
     rw [low.2,middle.2]
     omega
   · simp
     omega
 · refine ⟨UInt8.ofNat (c.toNat/262144%8+240),[UInt8.ofNat (c.toNat/4096%64+128),
    UInt8.ofNat (c.toNat/64%64+128),UInt8.ofNat (c.toNat%64+128)],c.toNat/262144%8,
    (if_neg one).trans ((if_neg two).trans (if_neg three)),
    ?_,?_,?_,isScalar_iff.2 ?_⟩
   · rw [utf8Lead_eq,value (by omega),if_neg (by omega),if_neg (by omega),if_neg (by omega),
      if_pos (by omega)]
     exact congrArg (fun bits=>some (bits,3)) (by omega)
   · rw [List.all_cons,List.all_cons,List.all_cons,upper.1,middle.1,low.1]
     rfl
   · change ((c.toNat/262144%8*0x40+_%0x40)*0x40+_%0x40)*0x40+_%0x40=_
     rw [low.2,middle.2,upper.2]
     omega
   · simp
     omega

lemma utf16Units_toNat (c:Char) : utf16Units c.toNat=utf16Char c := by
 unfold utf16Units utf16Char
 split <;> split <;> first | rfl | omega

/-- The encoding of a text is converted to its other encoding. -/
lemma utf8Loop_utf8 {fuel:ℕ} (text:List Char) (enough:(utf8 text).length ≤ fuel) :
 utf8Loop fuel (utf8 text)=.ok (utf16 text) := by
 induction text generalizing fuel with
 | nil => cases fuel <;> rfl
 | cons c text ih =>
  obtain ⟨first,continuation,bits,encoded,lead,all,code,scalar⟩:=utf8EncodeChar_turn c
  rw [utf8_cons,encoded,List.cons_append,List.length_cons,List.length_append] at enough
  cases fuel with
  | zero => omega
  | succ fuel =>
   rw [utf8_cons,encoded,List.cons_append,utf8Loop,lead]
   dsimp only
   rw [if_neg (by simp),List.take_left,List.drop_left,utf8Continue_eq,if_pos all,code]
   dsimp only
   rw [if_neg (by simp [scalar]),ih (by omega),utf16Units_toNat]
   rfl

end Decoders

lemma utf8ToUtf16_utf8 (text:List Char) : utf8ToUtf16 (utf8 text)=.ok (utf16 text) :=
 utf8Loop_utf8 text le_rfl

/-- The decoders accept the encodings of texts, and the second gives the same text in its other
 encoding, so that it never gives one output for two inputs. -/
theorem utf8_decoders_agree :
 (∀ bytes,isValidUtf8 bytes=true ↔ ∃ units,utf8ToUtf16 bytes=.ok units) ∧
 (∀ bytes,isValidUtf8 bytes=true ↔ ∃ text,bytes=utf8 text) ∧
 (∀ text,utf8ToUtf16 (utf8 text)=.ok (utf16 text)) ∧
 (∀ bytes units,utf8ToUtf16 bytes=.ok units →
  ∃ text,bytes=utf8 text ∧ units=utf16 text ∧ ofUtf16 units=some text) ∧
 (∀ bytes bytes' units,utf8ToUtf16 bytes=.ok units → utf8ToUtf16 bytes'=.ok units →
  bytes=bytes') := by
 have encodes {bytes : List UInt8} {units : List UInt16} (converted : utf8ToUtf16 bytes=.ok units) :
  ∃ text,bytes=utf8 text ∧ units=utf16 text := by
  obtain ⟨text,rfl⟩ := exists_text (valid_of_utf8Loop le_rfl converted)
  exact ⟨text,rfl,Except.ok.inj (converted.symm.trans (utf8ToUtf16_utf8 text))⟩
 refine ⟨fun bytes=>⟨fun valid=>?_,fun ⟨_,converted⟩=>valid_of_utf8Loop le_rfl converted⟩,
  fun bytes=>⟨exists_text,?_⟩,utf8ToUtf16_utf8,fun bytes units converted=>?_,?_⟩
 · obtain ⟨text,rfl⟩ := exists_text valid
   exact ⟨_,utf8ToUtf16_utf8 text⟩
 · rintro ⟨text,rfl⟩
   exact valid_of_utf8Loop le_rfl (utf8ToUtf16_utf8 text)
 · obtain ⟨text,rfl,rfl⟩ := encodes converted
   exact ⟨text,rfl,rfl,ofUtf16_utf16 text⟩
 · intro bytes bytes' units converted converted'
   obtain ⟨text,rfl,rfl⟩ := encodes converted
   obtain ⟨text',rfl,same⟩ := encodes converted'
   have decoded := congrArg ofUtf16 same
   rw [ofUtf16_utf16,ofUtf16_utf16] at decoded
   rw [Option.some.inj decoded]

end KDbg
