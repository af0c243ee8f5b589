import Mathlib.Tactic
set_option autoImplicit false
/-!
# Text in bytes and in wide units

The two encodings of Unicode text that Windows converts between, UTF-8 in bytes and UTF-16 in
units of 16 bits. A conversion with the flag for invalid input fails on what is not the encoding
of a text.
-/
namespace WideText

def utf8 (text : List Char) : List UInt8 := text.flatMap String.utf8EncodeChar

/-- A character beyond the first 2^16 is a pair of surrogates. -/
def utf16Char (c : Char) : List UInt16 :=
 if c.toNat<0x10000 then [UInt16.ofNat c.toNat]
 else [UInt16.ofNat (0xD800+(c.toNat-0x10000)/0x400),
  UInt16.ofNat (0xDC00+(c.toNat-0x10000)%0x400)]

def utf16 (text : List Char) : List UInt16 := text.flatMap utf16Char

def ofUtf8 (bytes : List UInt8) : Option (List Char) :=
 bytes.toByteArray.utf8Decode?.map Array.toList

def ofUtf16 : List UInt16→Option (List Char)
 | [] => some []
 | unit::units =>
  if unit.toNat<0xD800 ∨ 0xDFFF < unit.toNat then
   (ofUtf16 units).map (Char.ofNat unit.toNat :: ·)
  else match units with
   | [] => none
   | low::units =>
    if unit.toNat<0xDC00 ∧ 0xDC00 ≤ low.toNat ∧ low.toNat≤0xDFFF then
     (ofUtf16 units).map
      (Char.ofNat (0x10000+(unit.toNat-0xD800)*0x400+(low.toNat-0xDC00)) :: ·)
    else none

@[simp] lemma utf8_cons (c:Char) (text:List Char) :
 utf8 (c::text)=String.utf8EncodeChar c++utf8 text := rfl

@[simp] lemma utf16_cons (c:Char) (text:List Char) :
 utf16 (c::text)=utf16Char c++utf16 text := rfl

lemma ofUtf8_utf8 (text:List Char) : ofUtf8 (utf8 text)=some text := by
 have decoded:=List.utf8Decode?_utf8Encode (l := text)
 rw [ofUtf8,utf8]
 rw [List.utf8Encode] at decoded
 rw [decoded,Option.map_some]

section Characters
variable {c:Char}

lemma toNat_ofNat_of_valid {code:ℕ} (valid:code.isValidChar) : (Char.ofNat code).toNat=code := by
 rw [Char.ofNat,dif_pos valid]
 rfl

lemma toNat_lt (c:Char) : c.toNat<0x110000 := by
 rcases c.valid with low|⟨-,high⟩
 · exact low.trans (by decide)
 · exact high

lemma not_surrogate (c:Char) : c.toNat<0xD800 ∨ 0xDFFF < c.toNat := by
 rcases c.valid with low|⟨high,-⟩
 · exact .inl low
 · exact .inr high

lemma toNat_surrogates (c:Char) :
 (UInt16.ofNat (0xD800+(c.toNat-0x10000)/0x400)).toNat =
  0xD800+(c.toNat-0x10000)/0x400 ∧
 (UInt16.ofNat (0xDC00+(c.toNat-0x10000)%0x400)).toNat =
  0xDC00+(c.toNat-0x10000)%0x400 := by
 have bound:=toNat_lt c
 constructor
 · exact UInt16.toNat_ofNat_of_lt' (by simp only [UInt16.size];omega)
 · exact UInt16.toNat_ofNat_of_lt' (by simp only [UInt16.size];omega)

lemma ofUtf16_char (c:Char) (units:List UInt16) :
 ofUtf16 (utf16Char c++units)=(ofUtf16 units).map (c :: ·) := by
 have bound:=toNat_lt c
 unfold utf16Char
 split
 · rename_i single
   have unit:(UInt16.ofNat c.toNat).toNat=c.toNat:=UInt16.toNat_ofNat_of_lt' single
   rw [List.singleton_append,ofUtf16.eq_def]
   dsimp only
   rw [unit,if_pos (not_surrogate c),Char.ofNat_toNat]
 · obtain ⟨high,low⟩:=toNat_surrogates c
   have joined : 0x10000+(0xD800+(c.toNat-0x10000)/0x400-0xD800)*0x400 +
    (0xDC00+(c.toNat-0x10000)%0x400-0xDC00)=c.toNat := by omega
   simp only [List.cons_append,List.nil_append]
   rw [ofUtf16.eq_def]
   dsimp only
   rw [high,low,if_neg (by omega),if_pos (by omega),joined,Char.ofNat_toNat]

end Characters

lemma ofUtf16_utf16 (text:List Char) : ofUtf16 (utf16 text)=some text := by
 induction text with
 | nil => rfl
 | cons c _ ih => rw [utf16_cons,ofUtf16_char,ih,Option.map_some]

lemma utf8_eq_nil {text:List Char} (h:utf8 text=[]) : text=[] := by
 cases text with
 | nil => rfl
 | cons => exact absurd (List.append_eq_nil_iff.1 h).1 String.utf8EncodeChar_ne_nil

lemma eq_nil_of_ofUtf16 {units:List UInt16} (h:ofUtf16 units=some []) : units=[] := by
 cases units with
 | nil => rfl
 | cons _ units =>
  rw [ofUtf16.eq_def] at h
  dsimp only at h
  split at h
  · obtain ⟨_,-,same⟩:=Option.map_eq_some_iff.1 h
    cases same
  · cases units with
    | nil => cases h
    | cons =>
     dsimp only at h
     split at h
     · obtain ⟨_,-,same⟩:=Option.map_eq_some_iff.1 h
       cases same
     · cases h

section Ascii
variable {c:Char}

lemma utf8EncodeChar_ascii (h:c.toNat<0x80) :
 String.utf8EncodeChar c=[UInt8.ofNat c.toNat] := by
 exact if_pos (Nat.le_of_lt_succ h)

/-- A byte below 128 is the whole of its character. -/
lemma ascii_of_mem_utf8EncodeChar {byte:UInt8} (member:byte∈String.utf8EncodeChar c)
 (h:byte.toNat<0x80) : c.toNat=byte.toNat := by
 have value (n:ℕ) (small:n<0x80) : (UInt8.ofNat (n+0x80)).toNat=n+0x80 :=
  UInt8.toNat_ofNat_of_lt' (by simp only [UInt8.size];omega)
 have long {n:ℕ} (small:n<0x80) (other:byte=UInt8.ofNat (n+0x80)) : False := by
  rw [other,value n small] at h
  omega
 unfold String.utf8EncodeChar at member
 dsimp only at member
 split at member
 · rename_i single
   rw [List.mem_singleton.1 member]
   exact (UInt8.toNat_ofNat_of_lt' (Nat.lt_of_le_of_lt single (by decide))).symm
 · exfalso
   split at member
   · simp only [List.mem_cons,List.not_mem_nil,or_false] at member
     rcases member with first|last
     · exact long (by omega) first
     · exact long (by omega) last
   · split at member
     · simp only [List.mem_cons,List.not_mem_nil,or_false] at member
       rcases member with first|second|last
       · exact long (by omega) first
       · exact long (by omega) second
       · exact long (by omega) last
     · simp only [List.mem_cons,List.not_mem_nil,or_false] at member
       rcases member with first|second|third|last
       · exact long (by omega) first
       · exact long (by omega) second
       · exact long (by omega) third
       · exact long (by omega) last

lemma utf16Char_ascii (h:c.toNat<0x80) : utf16Char c=[UInt16.ofNat c.toNat] :=
 if_pos (h.trans (by decide))

/-- A unit below 128 is the whole of its character. -/
lemma ascii_of_mem_utf16Char {unit:UInt16} (member:unit∈utf16Char c)
 (h:unit.toNat<0x80) : c.toNat=unit.toNat := by
 unfold utf16Char at member
 split at member
 · rename_i single
   rw [List.mem_singleton.1 member]
   exact (UInt16.toNat_ofNat_of_lt' single).symm
 · obtain ⟨_,_⟩:=toNat_surrogates c
   rcases List.mem_cons.1 member with rfl|member
   · omega
   · rw [List.mem_singleton.1 member] at h
     omega

end Ascii
end WideText
