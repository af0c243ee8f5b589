import KDbg.MemProcFsBridge
set_option autoImplicit false
/-! The arguments that the provider puts on the command line are the arguments that the bridge is
started with, and a text that passes the checks of the provider is the same in both encodings. -/
namespace KDbg
open WideText

section Text
open MemProcFsProvider MemProcFsBridge

lemma wideToUtf8_utf16 (text:List Char) : wideToUtf8 (utf16 text)=utf8 text := by
 rw [wideToUtf8,ofUtf16_utf16]
 rfl

lemma utf8ToWide_utf8 (text:List Char) : utf8ToWide (utf8 text)=utf16 text := by
 rw [utf8ToWide,ofUtf8_utf8]
 rfl

lemma uint8_eq {n:ℕ} (byte:UInt8) (h:n=byte.toNat) : UInt8.ofNat n=byte := by
 rw [h,UInt8.ofNat_toNat]

lemma isContinuation_iff {byte:UInt8} :
 isContinuation byte=true ↔ 0x80 ≤ byte.toNat ∧ byte.toNat≤0xBF := by
 simp only [isContinuation,beq_iff_eq]
 omega

lemma leadByte_cases {first:UInt8} {count bits:ℕ}
 (lead:leadByte first=some (count,bits)) :
 (count=1 ∧ bits=first.toNat%0x20 ∧ 0xC2 ≤ first.toNat ∧ first.toNat≤0xDF) ∨
 (count=2 ∧ bits=first.toNat%0x10 ∧ 0xE0 ≤ first.toNat ∧ first.toNat≤0xEF) ∨
 (count=3 ∧ bits=first.toNat%0x08 ∧ 0xF0 ≤ first.toNat ∧ first.toNat≤0xF4) := by
 unfold leadByte at lead
 split at lead
 · rename_i range
   cases lead
   exact .inl ⟨rfl,rfl,UInt8.le_iff_toNat_le.1 range.1,UInt8.le_iff_toNat_le.1 range.2⟩
 split at lead
 · rename_i range
   cases lead
   exact .inr (.inl ⟨rfl,rfl,UInt8.le_iff_toNat_le.1 range.1,UInt8.le_iff_toNat_le.1 range.2⟩)
 split at lead
 · rename_i range
   cases lead
   exact .inr (.inr ⟨rfl,rfl,UInt8.le_iff_toNat_le.1 range.1,UInt8.le_iff_toNat_le.1 range.2⟩)
 · cases lead

/-- The character that a first byte and its continuation encode. -/
lemma utf8EncodeChar_lead {first:UInt8} {count bits:ℕ} {continuation:List UInt8}
 (lead:leadByte first=some (count,bits)) (length:continuation.length=count)
 (all:∀byte∈continuation,isContinuation byte=true)
 (two:¬(count=2 ∧ codePoint bits continuation<0x800))
 (three:¬(count=3 ∧ codePoint bits continuation<0x10000))
 (low:codePoint bits continuation<0xD800 ∨ 0xDFFF < codePoint bits continuation)
 (high:codePoint bits continuation<0x110000) :
 String.utf8EncodeChar (Char.ofNat (codePoint bits continuation))=first::continuation := by
 have code : (Char.ofNat (codePoint bits continuation)).val.toNat=_ :=
  toNat_ofNat_of_valid (low.imp_right fun above=>⟨above,high⟩)
 rw [String.utf8EncodeChar.eq_def]
 rcases leadByte_cases lead with ⟨rfl,rfl,_⟩|⟨rfl,rfl,_⟩|⟨rfl,rfl,_⟩
 · obtain ⟨b,rfl⟩:=List.length_eq_one_iff.1 length
   have hb:=isContinuation_iff.1 (all b (by simp))
   have sum : codePoint (first.toNat%0x20) [b] =
    first.toNat%0x20*0x40+b.toNat%0x40 := rfl
   rw [if_neg (by omega),if_pos (by omega),uint8_eq first (by omega),
    uint8_eq b (by omega)]
 · obtain ⟨b,c,rfl⟩:=List.length_eq_two.1 length
   have hb:=isContinuation_iff.1 (all b (by simp))
   have hc:=isContinuation_iff.1 (all c (by simp))
   have sum : codePoint (first.toNat%0x10) [b,c] =
    (first.toNat%0x10*0x40+b.toNat%0x40)*0x40+c.toNat%0x40 := rfl
   rw [if_neg (by omega),if_neg (by omega),if_pos (by omega),uint8_eq first (by omega),
    uint8_eq b (by omega),uint8_eq c (by omega)]
 · obtain ⟨b,c,d,rfl⟩:=List.length_eq_three.1 length
   have hb:=isContinuation_iff.1 (all b (by simp))
   have hc:=isContinuation_iff.1 (all c (by simp))
   have hd:=isContinuation_iff.1 (all d (by simp))
   have sum : codePoint (first.toNat%0x08) [b,c,d] =
    ((first.toNat%0x08*0x40+b.toNat%0x40)*0x40+c.toNat%0x40)*0x40 +
     d.toNat%0x40 := rfl
   rw [if_neg (by omega),if_neg (by omega),if_neg (by omega),uint8_eq first (by omega),
    uint8_eq b (by omega),uint8_eq c (by omega),uint8_eq d (by omega)]

lemma exists_text {bytes:List UInt8} (valid:isValidUtf8 bytes=true) :
 ∃ text,bytes=utf8 text := by
 fun_induction isValidUtf8 bytes with
 | case1 => exact ⟨[],rfl⟩
 | case2 first _ ascii ih =>
  obtain ⟨text,rfl⟩:=ih valid
  have small:first.toNat≤0x7F:=UInt8.le_iff_toNat_le.1 ascii
  have code : (Char.ofNat first.toNat).toNat=first.toNat :=
   toNat_ofNat_of_valid (.inl (by omega))
  refine ⟨Char.ofNat first.toNat::text,?_⟩
  rw [utf8_cons,utf8EncodeChar_ascii (by omega),code,UInt8.ofNat_toNat,List.singleton_append]
 | case3 => cases valid
 | case4 => cases valid
 | case5 => cases valid
 | case6 => cases valid
 | case7 first rest _ count _ lead enough all code good ih =>
  obtain ⟨text,same⟩:=ih valid
  simp only [not_or] at good
  obtain ⟨two,three,_,_⟩:=good
  have encoded : String.utf8EncodeChar (Char.ofNat code)=first::rest.take count :=
   utf8EncodeChar_lead lead (List.length_take_of_le (Nat.not_lt.1 enough)) (by simpa using all)
    two three (by omega) (by omega)
  refine ⟨Char.ofNat code::text,?_⟩
  rw [utf8_cons,encoded,←same,List.cons_append,List.take_append_drop]

lemma utf8EncodeChar_of_unit {c:Char} {unit:UInt16} (member:unit∈utf16Char c)
 (small:unit.toNat<0x80) : String.utf8EncodeChar c=[unit.toUInt8] := by
 have code:=ascii_of_mem_utf16Char member small
 rw [utf8EncodeChar_ascii (by omega),code]
 rfl

lemma zero_of_utf16 {text:List Char} (h:0∈utf16 text) : 0∈utf8 text := by
 obtain ⟨c,member,unit⟩:=List.mem_flatMap.1 h
 refine List.mem_flatMap.2 ⟨c,member,?_⟩
 rw [utf8EncodeChar_of_unit unit (by decide)]
 decide

lemma utf16Char_ne_nil (c:Char) : utf16Char c≠[] := by
 unfold utf16Char
 split <;> simp

lemma head_of_utf16 {text:List Char} (h:(utf16 text).head?=some 0x2D) :
 (utf8 text).head?=some 0x2D := by
 cases text with
 | nil => cases h
 | cons c =>
  obtain ⟨_,_,split⟩:=List.exists_cons_of_ne_nil (utf16Char_ne_nil c)
  rw [utf16_cons,split] at h
  cases h
  have member:0x2D∈utf16Char c:=by simp [split]
  rw [utf8_cons,utf8EncodeChar_of_unit member (by decide)]
  rfl

/-- The comparison of `AsciiEqualInsensitive`, in either program. -/
lemma all_zip_iff {α:Type} [DecidableEq α] (f:α → α) (left right:List α) :
 (left.length == right.length && (left.zip right).all fun (l,r)=>f l == f r)=true ↔
  left.map f=right.map f := by
 induction left generalizing right with
 | nil => cases right <;> simp
 | cons l _ ih =>
  cases right with
  | nil => simp
  | cons r right =>
   have rest:=ih right
   simp only [List.length_cons,List.zip_cons_cons,List.all_cons,List.map_cons,
    List.cons.injEq,Bool.and_eq_true,beq_iff_eq,Nat.add_right_cancel_iff,←rest]
   tauto

/-- What both `lower` functions do to a code unit, whatever its width. -/
def lowerCode (code : ℕ) : ℕ := if 0x41 ≤ code ∧ code≤0x5A then code+0x20 else code

lemma toNat_lowered {w:ℕ} (wide:8 ≤ w) (code:BitVec w) :
 (if 0x41#w ≤ code ∧ code≤0x5A#w then (code+0x20#w).toNat else code.toNat) =
  lowerCode code.toNat := by
 have room:2^8≤2^w:=Nat.pow_le_pow_right (by decide) wide
 have low:(0x41#w).toNat=0x41:=Nat.mod_eq_of_lt (by omega)
 have high:(0x5A#w).toNat=0x5A:=Nat.mod_eq_of_lt (by omega)
 have step:(0x20#w).toNat=0x20:=Nat.mod_eq_of_lt (by omega)
 refine if_ctx_congr (by rw [BitVec.le_def,BitVec.le_def,low,high]) (fun upper => ?_) fun _=>rfl
 rw [BitVec.toNat_add,step,Nat.mod_eq_of_lt (by omega)]

/-- A text that is an ASCII name but for case in one encoding is so in the other. -/
lemma lower_utf8_of_utf16 {text name:List Char} (ascii:∀c∈name,c.toNat<0x80)
 (h:(utf16 text).map MemProcFsBridge.lower=(utf16 name).map MemProcFsBridge.lower) :
 (utf8 text).map MemProcFsProvider.lower=(utf8 name).map MemProcFsProvider.lower := by
 have wide (unit:UInt16) : (MemProcFsBridge.lower unit).toNat=lowerCode unit.toNat :=
  (apply_ite UInt16.toNat _ _ _).trans (toNat_lowered (by decide) unit.toBitVec)
 have narrow (byte:UInt8) : (MemProcFsProvider.lower byte).toNat=lowerCode byte.toNat :=
  (apply_ite UInt8.toNat _ _ _).trans (toNat_lowered (by decide) byte.toBitVec)
 induction text generalizing name with
 | nil =>
  cases name with
  | nil => rfl
  | cons d =>
   rw [utf16_cons,utf16Char_ascii (ascii d (by simp))] at h
   cases h
 | cons c _ ih =>
  obtain ⟨unit,_,split⟩:=List.exists_cons_of_ne_nil (utf16Char_ne_nil c)
  cases name with
  | nil =>
   rw [utf16_cons,split] at h
   cases h
  | cons d =>
   have small:d.toNat<0x80:=ascii d (by simp)
   have value : (UInt16.ofNat d.toNat).toNat=d.toNat :=
    UInt16.toNat_ofNat_of_lt' (small.trans (by decide))
   rw [utf16_cons,utf16_cons,utf16Char_ascii small,split] at h
   simp only [List.cons_append,List.nil_append,List.map_cons,List.cons.injEq] at h
   obtain ⟨same,rest⟩:=h
   have lowered:=congrArg UInt16.toNat same
   rw [wide,wide,value] at lowered
   have bound:unit.toNat<0x80:=by
    unfold lowerCode at lowered
    split_ifs at lowered <;> omega
   have member:unit∈utf16Char c:=by simp [split]
   have code:=ascii_of_mem_utf16Char member bound
   -- an ASCII character is a single unit
   rw [utf16Char_ascii (by omega)] at split
   obtain rfl := (List.cons.inj split).2
   have tails:=ih (fun e member=>ascii e (by simp [member])) rest
   rw [utf8_cons,utf8_cons,utf8EncodeChar_ascii (by omega),utf8EncodeChar_ascii small,
    List.map_append,List.map_append]
   congr 1
   simp only [List.map_cons,List.map_nil,List.cons.injEq,and_true]
   refine UInt8.toNat_inj.1 ?_
   have here : (UInt8.ofNat c.toNat).toNat=c.toNat :=
    UInt8.toNat_ofNat_of_lt' (show c.toNat<256 by omega)
   have there : (UInt8.ofNat d.toNat).toNat=d.toNat :=
    UInt8.toNat_ofNat_of_lt' (show d.toNat<256 by omega)
   rw [narrow,narrow,here,there,code]
   exact lowered

end Text

namespace MemProcFsProvider
open CommandLine

section Quoting
variable {value rest:List UInt16}

/-- The invariant of the loop of `QuoteWindowsArgument`: the backslashes that it has counted are
 still to be written. -/
lemma argument_quoteRest (count:ℕ) (ends:Ends rest) :
 argument 0 true (quoteRest count value++rest)=(slashes count++value,rest) := by
 induction value generalizing count with
 | nil =>
  rw [quoteRest,List.append_assoc,argument_slashes,Nat.zero_add]
  change argument (count*2) true (quote::rest)=_
  rw [argument_toggle,Bool.not_true,argument_end ends]
  simp [slashes]
 | cons _ _ ih =>
  rw [quoteRest]
  split
  · rename_i slash
    rw [ih,slash]
    simp [slashes,List.replicate_succ']
  split
  · rename_i quotes
    rw [List.append_assoc,argument_slashes,Nat.zero_add,List.cons_append,argument_literal,
     ih,quotes]
    simp [slashes]
  · rename_i solid plain
    rw [List.append_assoc,argument_slashes,List.cons_append,
     argument_plain solid plain (fun _=>rfl),ih]
    simp [slashes]

lemma argument_unquoted (count:ℕ)
 (all:∀unit∈value,isBlank unit=false ∧ unit≠quote) (ends:Ends rest) :
 argument count false (value++rest)=(slashes count++value,rest) := by
 induction value generalizing count with
 | nil => simpa using argument_end ends
 | cons unit _ ih =>
  obtain ⟨solid,plain⟩:=all unit (by simp)
  have tail:=fun count=>ih count fun other member=>all other (by simp [member])
  by_cases slash:unit=backslash
  · rw [slash,List.cons_append,argument_backslash,tail]
    simp [slashes,List.replicate_succ']
  · have free:isBlank unit=true → false=true:=fun blank=>by simp [solid] at blank
    rw [List.cons_append,argument_plain slash plain free,tail]
    simp [slashes]

lemma argument_quoteWindowsArgument (ends:Ends rest) :
 argument 0 false (quoteWindowsArgument value++rest)=(value,rest) := by
 have opened (units:List UInt16) : argument 0 false (quote::units)=argument 0 true units :=
  argument_toggle 0
 unfold quoteWindowsArgument
 split
 · rename_i empty
   change argument 0 false (quote::quote::rest)=_
   have closed:argument 0 true (quote::rest)=argument 0 false rest:=argument_toggle 0
   rw [opened,closed,argument_end ends,empty]
   rfl
 split
 · rename_i all
   have all:∀unit∈value,isBlank unit=false ∧ unit≠quote:=by simpa using all
   exact argument_unquoted 0 all ends
 · exact argument_quoteRest 0 ends

lemma quoteWindowsArgument_begins (value:List UInt16) :
 ∃ unit units,quoteWindowsArgument value=unit::units ∧ isBlank unit=false := by
 unfold quoteWindowsArgument
 split
 · exact ⟨_,_,rfl,by decide⟩
 · rename_i more
   split
   · rename_i all
     obtain ⟨unit,units,rfl⟩:=List.exists_cons_of_ne_nil more
     simp only [List.all_cons,Bool.and_eq_true,Bool.not_eq_true'] at all
     exact ⟨unit,units,rfl,all.1.1⟩
   · exact ⟨_,_,rfl,by decide⟩

lemma mem_quoteRest {count:ℕ} {unit:UInt16} (member:unit∈quoteRest count value) :
 unit∈value ∨ unit=quote ∨ unit=backslash := by
 induction value generalizing count with
 | nil =>
  rcases List.mem_append.1 member with slash|last
  · exact .inr (.inr (List.eq_of_mem_replicate slash))
  · exact .inr (.inl (List.mem_singleton.1 last))
 | cons other value ih =>
  have later {count:ℕ} (member:unit∈quoteRest count value) :
   unit∈other::value ∨ unit=quote ∨ unit=backslash :=
   (ih member).imp_left (List.mem_cons_of_mem _)
  rw [quoteRest] at member
  split at member
  · exact later member
  split at member
  · rcases List.mem_append.1 member with slash|member
    · exact .inr (.inr (List.eq_of_mem_replicate slash))
    rcases List.mem_cons.1 member with rfl|member
    · exact .inr (.inl rfl)
    · exact later member
  · rcases List.mem_append.1 member with slash|member
    · exact .inr (.inr (List.eq_of_mem_replicate slash))
    rcases List.mem_cons.1 member with rfl|member
    · exact .inl (by simp)
    · exact later member

lemma zero_of_quoted (member:0∈quoteWindowsArgument value) : 0∈value := by
 unfold quoteWindowsArgument at member
 split at member
 · exact absurd member (by decide)
 split at member
 · exact member
 · rcases List.mem_cons.1 member with none|member
   · exact absurd none (by decide)
   · rcases mem_quoteRest member with found|none|none
     · exact found
     · exact absurd none (by decide)
     · exact absurd none (by decide)

lemma quoteRest_closes (count:ℕ) (plain:quote ∉ value) :
 ∃ body,quoteRest count value=body++[quote] ∧ quote ∉ body := by
 have free (count:ℕ) : quote ∉ slashes count := fun member =>
  absurd (List.eq_of_mem_replicate member) (by decide)
 induction value generalizing count with
 | nil => exact ⟨slashes (count*2),rfl,free _⟩
 | cons unit _ ih =>
  obtain ⟨here,later⟩:=not_or.1 (mt List.mem_cons.2 plain)
  rw [quoteRest,if_neg (Ne.symm here)]
  split
  · exact ih (count+1) later
  · obtain ⟨body,same,none⟩:=ih 0 later
    refine ⟨slashes count++unit::body,by rw [same];simp,?_⟩
    simp [free,here,none]

/-- In a path without quotation marks, the rule for the first argument reads the same. -/
lemma programName_quoteWindowsArgument (plain:quote ∉ value) (ends:Ends rest) :
 (programName false (quoteWindowsArgument value++rest)).2=rest := by
 have opened (units:List UInt16) : programName false (quote::units)=programName true units :=
  by rfl
 unfold quoteWindowsArgument
 split
 · change (programName false (quote::quote::rest)).2=_
   have closed:programName true ([]++quote::rest)=_:=programName_quoted List.not_mem_nil
   rw [List.nil_append] at closed
   rw [opened,closed,programName_end ends]
 split
 · rename_i all
   have all:∀unit∈value,isBlank unit=false ∧ unit≠quote:=by simpa using all
   rw [programName_plain plain (fun unit member=>(all unit member).1) ends]
 · obtain ⟨body,same,none⟩:=quoteRest_closes 0 plain
   rw [List.cons_append,same,List.append_assoc]
   change (programName true (body++quote::rest)).2=_
   rw [programName_quoted none,programName_end ends]

end Quoting

def argumentText (arguments : List (List UInt16)) : List UInt16 :=
 arguments.flatMap fun argument=>space::quoteWindowsArgument argument

lemma ends_argumentText (arguments:List (List UInt16)) : Ends (argumentText arguments) := by
 cases arguments with
 | nil => exact ends_nil
 | cons => exact ends_cons (by decide)

lemma arguments_argumentText (values:List (List UInt16)) :
 arguments (argumentText values)=values := by
 induction values with
 | nil => exact arguments_nil
 | cons value values ih =>
  obtain ⟨_,_,begins,solid⟩:=quoteWindowsArgument_begins value
  have read : argument 0 false (quoteWindowsArgument value++argumentText values)=_ :=
   argument_quoteWindowsArgument (ends_argumentText values)
  rw [begins] at read
  change arguments (space::(quoteWindowsArgument value++argumentText values))=_
  rw [begins]
  rw [List.cons_append] at read ⊢
  rw [arguments_space solid read,ih]

lemma appendArguments_eq_ok {command line:List UInt16} {values:List (List UInt16)}
 (h:appendArguments command values=.ok line) : line=command++argumentText values := by
 induction values generalizing command with
 | nil =>
  cases h
  simp [argumentText]
 | cons _ _ ih =>
  unfold appendArguments at h
  dsimp only at h
  split at h
  · cases h
  · rw [ih h]
    simp [argumentText]

lemma split_commandLine {bridge line:List UInt16} {values:List (List UInt16)}
 (path:0 ∉ bridge ∧ quote ∉ bridge) (clean:∀value∈values,0 ∉ value)
 (h:appendArguments (quoteWindowsArgument bridge) values=.ok line) :
 (split line).tail=values := by
 obtain rfl := appendArguments_eq_ok h
 have whole:0 ∉ quoteWindowsArgument bridge++argumentText values:=by
  intro member
  rcases List.mem_append.1 member with member|member
  · exact path.1 (zero_of_quoted member)
  · obtain ⟨value,found,member⟩:=List.mem_flatMap.1 member
    rcases List.mem_cons.1 member with none|member
    · exact absurd none (by decide)
    · exact clean value found (zero_of_quoted member)
 rw [tail_split whole,programName_quoteWindowsArgument path.2 (ends_argumentText values),
  arguments_argumentText]

end MemProcFsProvider
end KDbg
