import Mathlib.Data.List.TakeWhile
import KDbg.ValueCodecIntegers
set_option autoImplicit false
/-!
# Byte patterns

The scanning loops of `ParseAobPattern`, the grammar of what they accept, and what a parsed
pattern matches.
-/
namespace KDbg

section Tokens
variable {text token rest:List UInt8}

lemma aobTokens_space {character:UInt8} (space:isSpace character=true) :
 aobTokens (character::text)=aobTokens text := by
 rw [aobTokens,List.splitOnP_cons_eq_if_modifyHead,if_pos space]
 rfl

lemma aobTokens_dropWhile (text:List UInt8) :
 aobTokens (text.dropWhile isSpace)=aobTokens text := by
 induction text with
 | nil => rfl
 | cons character text ih =>
  rw [List.dropWhile_cons]
  split
  · rename_i space
    rw [ih,aobTokens_space space]
  · rfl

/-- A word up to white space or the end of the text is one token. -/
lemma aobTokens_word (filled:token≠[]) (plain:∀c∈token,isSpace c=false)
 (ends:∀c∈rest.head?,isSpace c=true) :
 aobTokens (token++rest)=token::aobTokens rest := by
 cases rest with
 | nil =>
  rw [List.append_nil,aobTokens,List.splitOnP_eq_singleton plain,
   List.filter_cons_of_pos (by simpa using filled)]
  rfl
 | cons space rest =>
  have space:=ends space rfl
  rw [aobTokens_space space,aobTokens,List.splitOnP_append_cons_of_forall_mem plain _ space,
   List.filter_cons_of_pos (by simpa using filled)]
  rfl

lemma aobTokens_intercalate {words:List (List UInt8)} (filled:∀word∈words,word≠[])
 (plain:∀word∈words,∀c∈word,isSpace c=false) :
 aobTokens ([0x20].intercalate words)=words := by
 induction words with
 | nil => rfl
 | cons word words ih =>
  have tail:=ih (fun w member=>filled w (.tail _ member))
   fun w member=>plain w (.tail _ member)
  have first:=filled word List.mem_cons_self
  have letters:=plain word List.mem_cons_self
  cases words with
  | nil =>
   have single:aobTokens (word++[])=_:=aobTokens_word first letters (by simp)
   rw [List.append_nil] at single
   rwa [List.intercalate_singleton]
  | cons next words =>
   rw [List.intercalate_cons_cons,List.append_assoc,
    aobTokens_word first letters (by simp [isSpace])]
   exact congrArg (word :: ·) ((aobTokens_space (by decide)).trans tail)

lemma dropWhile_stops {first:UInt8} (found:text.dropWhile isSpace=first::rest) :
 isSpace first=false := by
 have stop:=List.head_dropWhile_not (l := text) isSpace (by simp [found])
 simpa [found] using stop

lemma aobTokens_of_dropWhile {first:UInt8} (found:text.dropWhile isSpace=first::rest) :
 aobTokens text=(first::rest).takeWhile (!isSpace ·) ::
  aobTokens ((first::rest).dropWhile (!isSpace ·)) := by
 have plain:=dropWhile_stops found
 rw [←aobTokens_dropWhile,found,←aobTokens_word,List.takeWhile_append_dropWhile]
 · simp [plain]
 · intro c member
   simpa using List.mem_takeWhile_imp member
 · intro c member
   have stop:=List.head?_dropWhile_not (!isSpace ·) (first::rest)
   rw [Option.mem_def.1 member] at stop
   simpa using stop

end Tokens

/-- The loop of `ParseAobPattern` from a position on: it skips white space, and takes as a token
 what stands up to the next white space. -/
def parseAobFrom (pattern : AobPattern) (text : List UInt8) : Result AobPattern :=
 match _found : text.dropWhile isSpace with
 | [] => .ok pattern
 | first::rest =>
  match addAobToken pattern ((first::rest).takeWhile (!isSpace ·)) with
  | .error error => .error error
  | .ok pattern => parseAobFrom pattern ((first::rest).dropWhile (!isSpace ·))
termination_by text.length
decreasing_by
 have kept := (List.dropWhile_suffix isSpace (l := text)).length_le
 have shorter := (List.dropWhile_suffix (!isSpace ·) (l := rest)).length_le
 rw [List.dropWhile_cons_of_pos (by simp [dropWhile_stops _found])]
 rw [_found,List.length_cons] at kept
 omega

lemma parseAobFrom_eq (pattern:AobPattern) (text:List UInt8) :
 parseAobFrom pattern text=(aobTokens text).foldlM addAobToken pattern := by
 fun_induction parseAobFrom pattern text with
 | case1 pattern text found =>
  rw [←aobTokens_dropWhile,found]
  rfl
 | case2 pattern text first rest found error failed =>
  rw [aobTokens_of_dropWhile found,List.foldlM_cons,failed]
  rfl
 | case3 pattern text first rest found next added ih =>
  rw [aobTokens_of_dropWhile found,List.foldlM_cons,added,ih]
  rfl

/-- `ParseAobPattern` with its loops. -/
def parseAobLoop (text : List UInt8) : Result AobPattern :=
 match parseAobFrom {} text with
 | .error error => .error error
 | .ok pattern =>
  if pattern.bytes=[] then
   .error (makeError .parseError "AOB pattern is empty" "ParseAobPattern")
  else .ok pattern

lemma parseAobLoop_eq (text:List UInt8) : parseAobLoop text=parseAobPattern text := by
 rw [parseAobLoop,parseAobFrom_eq,parseAobPattern]
 cases (aobTokens text).foldlM addAobToken {} <;> rfl

def IsWildcard (token : List UInt8) : Prop :=
 token=[0x3F] ∨ token=[0x3F,0x3F] ∨ token=[0x2A,0x2A]

instance (token : List UInt8) : Decidable (IsWildcard token) :=
 inferInstanceAs (Decidable (_ ∨ _ ∨ _))

def IsHexDigit (character : UInt8) : Prop :=
 0x30 ≤ character ∧ character≤0x39 ∨ 0x41 ≤ character ∧ character≤0x46 ∨
  0x61 ≤ character ∧ character≤0x66

def IsHexPair (token : List UInt8) : Prop :=
 ∃ high low,token=[high,low] ∧ IsHexDigit high ∧ IsHexDigit low

/-- What a token stands for: any byte, or the one with these digits. -/
inductive AobToken : List UInt8→Option UInt8→Prop where
 | wildcard {token:List UInt8} (any:IsWildcard token) : AobToken token none
 | byte {token:List UInt8} {byte:UInt8} (pair:token.length=2)
   (digits:fromDigits 16 token=some byte.toNat) : AobToken token (some byte)

lemma digitValue_hex (character:UInt8) :
 (∃ n,digitValue 16 character=some n) ↔ IsHexDigit character := by
 simp only [digitValue,IsHexDigit,UInt8.le_iff_toNat_le,UInt8.reduceToNat]
 split_ifs <;> simp [Option.filter_eq_some_iff] <;> omega

lemma digitValue_lt {base n:ℕ} {character:UInt8}
 (read:digitValue base character=some n) : n < base := by
 simpa using (Option.filter_eq_some_iff.1 read).2

lemma fromDigits_pair (high low:UInt8) :
 fromDigits 16 [high,low] =
  (digitValue 16 high).bind fun h=>(digitValue 16 low).map fun l=>h*16+l := by
 cases first:digitValue 16 high <;> cases second : digitValue 16 low <;>
  simp [fromDigits,first,second]

lemma fromDigits_pair_lt {token:List UInt8} {n:ℕ} (pair:token.length=2)
 (read:fromDigits 16 token=some n) : n<256 := by
 obtain ⟨high,low,rfl⟩:=List.length_eq_two.1 pair
 rw [fromDigits_pair] at read
 obtain ⟨h,first,read⟩:=Option.bind_eq_some_iff.1 read
 obtain ⟨l,second,rfl⟩:=Option.map_eq_some_iff.1 read
 have := digitValue_lt first
 have := digitValue_lt second
 omega

/-- The tokens with a meaning are those of the grammar. -/
lemma exists_aobToken_iff (token:List UInt8) :
 (∃ value,AobToken token value) ↔ IsWildcard token ∨ IsHexPair token := by
 constructor
 · rintro ⟨_,any | ⟨pair,digits⟩⟩
   · exact .inl any
   · obtain ⟨high,low,rfl⟩:=List.length_eq_two.1 pair
     rw [fromDigits_pair] at digits
     obtain ⟨h,first,digits⟩:=Option.bind_eq_some_iff.1 digits
     obtain ⟨l,second,-⟩:=Option.map_eq_some_iff.1 digits
     exact .inr
      ⟨high,low,rfl,(digitValue_hex _).1 ⟨h,first⟩,(digitValue_hex _).1 ⟨l,second⟩⟩
 · rintro (any | ⟨high,low,rfl,first,second⟩)
   · exact ⟨none,.wildcard any⟩
   · obtain ⟨h,first⟩:=(digitValue_hex _).2 first
     obtain ⟨l,second⟩:=(digitValue_hex _).2 second
     have read:fromDigits 16 [high,low]=some (h*16+l):=by
      rw [fromDigits_pair,first,second]
      rfl
     have small:=fromDigits_pair_lt rfl read
     refine ⟨some (UInt8.ofNat (h*16+l)),.byte rfl ?_⟩
     rw [read,UInt8.toNat_ofNat_of_lt' small]

section Parse
variable {pattern next:AobPattern} {text token input:List UInt8} {tokens:List (List UInt8)}
 {value:Option UInt8} {values:List (Option UInt8)}

lemma AobToken.isWildcard_iff (meaning:AobToken token value) :
 IsWildcard token ↔ value=none := by
 cases meaning with
 | wildcard any => simp [any]
 | byte _ digits =>
  have bare:¬IsWildcard token:=by
   rintro (rfl | rfl | rfl) <;> cases digits
  simp [bare]

lemma AobToken.add (meaning:AobToken token value)
 (room:pattern.bytes.length < kMaxAobPatternBytes) :
 addAobToken pattern token=.ok (pattern.push (value.getD 0) value.isSome) := by
 rw [addAobToken,if_neg (by omega)]
 cases meaning with
 | wildcard any => exact if_pos any
 | byte pair digits =>
  have bare:¬IsWildcard token:=by simp [(AobToken.byte pair digits).isWildcard_iff]
  refine (if_neg bare).trans ?_
  rw [if_neg (by simpa using pair),digits]
  simp

lemma token_of_addAobToken (added:addAobToken pattern token=.ok next) :
 pattern.bytes.length < kMaxAobPatternBytes ∧
  ∃ value,AobToken token value ∧ next=pattern.push (value.getD 0) value.isSome := by
 rw [addAobToken] at added
 split at added
 · cases added
 · rename_i room
   refine ⟨by omega,?_⟩
   split at added
   · rename_i any
     cases added
     exact ⟨none,.wildcard any,rfl⟩
   · split at added
     · cases added
     · rename_i pair
       cases read:fromDigits 16 token with
       | none => simp [read] at added
       | some n =>
        have small:=fromDigits_pair_lt (by simpa using pair) read
        simp only [read] at added
        cases added
        refine ⟨some (UInt8.ofNat n),.byte (by simpa using pair) ?_,rfl⟩
        rw [read,UInt8.toNat_ofNat_of_lt' small]

/-- What a run of tokens makes of the pattern so far. -/
def AobPattern.extend (pattern : AobPattern) (values : List (Option UInt8)) : AobPattern :=
 { bytes := pattern.bytes++values.map (·.getD 0)
   exact := pattern.exact++values.map (·.isSome) }

lemma AobPattern.extend_push (pattern:AobPattern) :
 (pattern.push (value.getD 0) value.isSome).extend values=pattern.extend (value::values) := by
 simp [AobPattern.extend,AobPattern.push]

lemma foldlM_of_tokens (meaning:List.Forall₂ AobToken tokens values)
 (room:pattern.bytes.length+tokens.length ≤ kMaxAobPatternBytes) :
 tokens.foldlM addAobToken pattern=.ok (pattern.extend values) := by
 induction meaning generalizing pattern with
 | nil => simp [AobPattern.extend,pure,Except.pure]
 | cons first _ ih =>
  rw [List.length_cons] at room
  rw [List.foldlM_cons,first.add (by omega),←AobPattern.extend_push]
  exact ih (by simp [AobPattern.push];omega)

lemma tokens_of_foldlM (room:pattern.bytes.length ≤ kMaxAobPatternBytes)
 (parsed:tokens.foldlM addAobToken pattern=.ok next) :
 pattern.bytes.length+tokens.length ≤ kMaxAobPatternBytes ∧
  ∃ values,List.Forall₂ AobToken tokens values ∧ next=pattern.extend values := by
 induction tokens generalizing pattern with
 | nil =>
  cases parsed
  exact ⟨room,[],.nil,by simp [AobPattern.extend]⟩
 | cons token tokens ih =>
  rw [List.foldlM_cons] at parsed
  cases added:addAobToken pattern token with
  | error => simp [added,bind,Except.bind] at parsed
  | ok middle =>
   obtain ⟨free,value,first,rfl⟩:=token_of_addAobToken added
   rw [added] at parsed
   obtain ⟨fits,values,rest,rfl⟩:=ih (by simp [AobPattern.push];omega) parsed
   refine ⟨?_,value::values,.cons first rest,AobPattern.extend_push _⟩
   simp only [AobPattern.push,List.length_append,List.length_singleton] at fits
   rw [List.length_cons]
   omega

/-- A pattern is parsed exactly from tokens of the grammar, at least one and no more than the cap,
 and holds what they stand for. -/
lemma parseAobPattern_ok_iff : parseAobPattern text=.ok pattern ↔
 1≤(aobTokens text).length ∧ (aobTokens text).length ≤ kMaxAobPatternBytes ∧
  ∃ values,List.Forall₂ AobToken (aobTokens text) values ∧
   pattern=AobPattern.extend {} values := by
 constructor
 · intro parsed
   rw [parseAobPattern] at parsed
   cases run:(aobTokens text).foldlM addAobToken {} with
   | error => simp [run,bind,Except.bind] at parsed
   | ok next =>
    obtain ⟨fits,values,meaning,rfl⟩:=tokens_of_foldlM (by simp) run
    simp only [run,bind,Except.bind] at parsed
    split at parsed
    · cases parsed
    · rename_i filled
      cases parsed
      refine ⟨?_,by simpa using fits,values,meaning,rfl⟩
      have some_value:values.length≠0:=by simpa [AobPattern.extend] using filled
      have := meaning.length_eq
      omega
 · rintro ⟨filled,fits,values,meaning,rfl⟩
   have some_value:¬(AobPattern.extend {} values).bytes=[]:=by
    have := meaning.length_eq
    have : values≠[] := List.ne_nil_of_length_pos (by omega)
    simpa [AobPattern.extend]
   rw [parseAobPattern,foldlM_of_tokens meaning (by simpa using fits)]
   exact if_neg some_value

lemma exists_values_iff : (∃ values,List.Forall₂ AobToken tokens values) ↔
 ∀token∈tokens,IsWildcard token ∨ IsHexPair token := by
 induction tokens with
 | nil => simp
 | cons token tokens ih =>
  rw [List.forall_mem_cons,←ih,←exists_aobToken_iff]
  constructor
  · rintro ⟨_,first | ⟨first,rest⟩⟩
    exact ⟨⟨_,first⟩,_,rest⟩
  · rintro ⟨⟨value,first⟩,values,rest⟩
    exact ⟨value::values,.cons first rest⟩

lemma hexDigits_byte : ∀n<256,
 (hexDigits true 2 n).length=2 ∧ fromDigits 16 (hexDigits true 2 n)=some n := by
 decide +kernel

lemma aobToken_hexDigits (byte:UInt8) :
 AobToken (hexDigits true 2 byte.toNat) (some byte) :=
 have ⟨pair,digits⟩ := hexDigits_byte _ byte.toNat_lt
 .byte pair digits

lemma hexDigits_not_space (byte:UInt8) {c:UInt8}
 (member:c∈hexDigits true 2 byte.toNat) : isSpace c=false := by
 have digit:=digit_of_mem (hexDigits_byte _ byte.toNat_lt).2 member
 have hex:=(digitValue_hex c).1 (Option.isSome_iff_exists.1 digit)
 simp only [IsHexDigit,UInt8.le_iff_toNat_le,UInt8.reduceToNat] at hex
 simp only [isSpace,UInt8.le_iff_toNat_le,UInt8.reduceToNat,Bool.or_eq_false_iff,
  beq_eq_false_iff_ne,ne_eq,UInt8.toNat_inj.symm,decide_eq_false_iff_not]
 omega

lemma aobTokens_formatValue (format:FloatingFormat) (bytes:List UInt8) (hexadecimal:Bool) :
 aobTokens (formatValue format .byteArray bytes hexadecimal) =
  bytes.map fun byte=>hexDigits true 2 byte.toNat := by
 refine aobTokens_intercalate ?_ ?_
 · intro word member
   obtain ⟨byte,-,rfl⟩:=List.mem_map.1 member
   exact List.ne_nil_of_length_pos (by rw [(hexDigits_byte _ byte.toNat_lt).1];omega)
 · intro word member c letter
   obtain ⟨byte,-,rfl⟩:=List.mem_map.1 member
   exact hexDigits_not_space byte letter

lemma parseAobPattern_formatValue (format:FloatingFormat) {bytes:List UInt8}
 (hexadecimal:Bool) (filled:bytes≠[]) (fits:bytes.length ≤ kMaxAobPatternBytes) :
 parseAobPattern (formatValue format .byteArray bytes hexadecimal) =
  .ok { bytes,exact := List.replicate bytes.length true } := by
 rw [parseAobPattern_ok_iff,aobTokens_formatValue,List.length_map]
 refine ⟨List.length_pos_iff.2 filled,fits,bytes.map some,?_,?_⟩
 · rw [List.forall₂_map_left_iff,List.forall₂_map_right_iff,List.forall₂_same]
   exact fun byte _=>aobToken_hexDigits byte
 · simp [AobPattern.extend,Function.comp_def]

lemma matchesInput_extend (long:values.length ≤ input.length) :
 (AobPattern.extend {} values).matchesInput input=true ↔
  ∀(i:ℕ) (byte:UInt8),values[i]?=some (some byte) → input[i]?=some byte := by
 rw [AobPattern.matchesInput,if_neg (by simp [AobPattern.extend,long])]
 simp only [AobPattern.extend,List.nil_append,List.length_map,List.all_eq_true,List.mem_range,
  Bool.or_eq_true,Bool.not_eq_true',beq_iff_eq,List.getElem?_map,List.getD_eq_getElem?_getD]
 constructor
 · intro agrees i byte token
   have inside:i < values.length:=(List.getElem?_eq_some_iff.1 token).1
   simpa [token] using agrees i inside
 · intro agrees i inside
   cases token:values[i]? with
   | none => simp at token;omega
   | some value =>
    cases value with
    | none => simp
    | some byte => simp [agrees i byte token]

lemma AobToken.agrees_iff (meaning:AobToken token value) {byte:Option UInt8} :
 (∀b,value=some b → byte=some b) ↔
  (¬IsWildcard token → ∃ b,byte=some b ∧ fromDigits 16 token=some b.toNat) := by
 rw [meaning.isWildcard_iff]
 cases meaning with
 | wildcard => simp
 | byte _ digits =>
  simp [digits,UInt8.toNat_inj]

lemma matchesInput_iff (parsed:parseAobPattern text=.ok pattern)
 (long:pattern.bytes.length ≤ input.length) :
 pattern.matchesInput input=true ↔ ∀(i:ℕ) (token:List UInt8),
  (aobTokens text)[i]?=some token → ¬IsWildcard token →
   ∃ byte,input[i]?=some byte ∧ fromDigits 16 token=some byte.toNat := by
 obtain ⟨-,-,values,meaning,rfl⟩:=parseAobPattern_ok_iff.1 parsed
 rw [matchesInput_extend (by simpa [AobPattern.extend] using long)]
 refine forall_congr' fun i => ?_
 have same:=meaning.length_eq
 by_cases inside:i < values.length
 · have token_inside:i<(aobTokens text).length:=by omega
   have related:=meaning.get token_inside inside
   rw [List.getElem?_eq_getElem inside,List.getElem?_eq_getElem token_inside]
   simp only [Option.some.injEq,forall_eq']
   exact related.agrees_iff
 · have no_token:(aobTokens text)[i]?=none:=List.getElem?_eq_none (by omega)
   have no_value:values[i]?=none:=List.getElem?_eq_none (by omega)
   simp [no_token,no_value]

end Parse

/-- Byte strings are read back from their texts, the loops accept exactly the grammar, and a
 pattern matches by position. -/
theorem aob_patterns_exact :
 (∀ text,parseAobLoop text=parseAobPattern text) ∧
 (∀ (format : FloatingFormat) (bytes : List UInt8) (hexadecimal : Bool),
  bytes≠[] → bytes.length ≤ kMaxAobPatternBytes →
   parseAobPattern (formatValue format .byteArray bytes hexadecimal) =
    .ok { bytes,exact := List.replicate bytes.length true }) ∧
 (∀ text,(∃ pattern,parseAobPattern text=.ok pattern) ↔
  1≤(aobTokens text).length ∧ (aobTokens text).length ≤ kMaxAobPatternBytes ∧
   ∀ token∈aobTokens text,IsHexPair token ∨ IsWildcard token) ∧
 (∀ (text input : List UInt8) (pattern : AobPattern),parseAobPattern text=.ok pattern →
  pattern.bytes.length ≤ input.length →
   (pattern.matchesInput input=true ↔ ∀ (i : ℕ) (token : List UInt8),
    (aobTokens text)[i]?=some token → ¬ IsWildcard token →
     ∃ byte,input[i]?=some byte ∧ fromDigits 16 token=some byte.toNat)) := by
 refine ⟨parseAobLoop_eq,
  fun format _ hexadecimal=>parseAobPattern_formatValue format hexadecimal,
  fun text => ?_,fun _ _ _=>matchesInput_iff⟩
 simp only [parseAobPattern_ok_iff,Or.comm (a := IsHexPair _)]
 rw [← exists_values_iff]
 exact ⟨fun ⟨_,filled,fits,values,meaning,_⟩=>⟨filled,fits,values,meaning⟩,
  fun ⟨filled,fits,values,meaning⟩=>⟨_,filled,fits,values,meaning,rfl⟩⟩

/-- The text `48 ?? 05`. -/
def sampleText : List UInt8 := [0x34,0x38,0x20,0x3F,0x3F,0x20,0x30,0x35]

/-- A byte string is read back, a lone digit is refused, and the wildcard matches any byte. -/
theorem samplePattern_exact :
 parseAobPattern (formatValue sampleFormat .byteArray [0x48,0x8B,5] true) =
  .ok { bytes := [0x48,0x8B,5],exact := [true,true,true] } ∧
 (¬∃ pattern,parseAobPattern [0x34,0x38,0x20,0x34]=.ok pattern) ∧
 ∃ pattern,parseAobPattern sampleText=.ok pattern ∧
  pattern.matchesInput [0x48,0xFF,5,9]=true ∧ ¬ pattern.matchesInput [0x48,0xFF,6]=true := by
 obtain ⟨-,reads,grammar,positions⟩ := aob_patterns_exact
 have tokens : aobTokens sampleText=[[0x34,0x38],[0x3F,0x3F],[0x30,0x35]] := by decide
 have parsed : parseAobPattern sampleText=.ok ⟨[0x48,0,5],[true,false,true]⟩ := by decide
 refine ⟨reads sampleFormat _ true (by decide) (by decide),fun accepted => ?_,_,parsed,?_,?_⟩
 · obtain ⟨-,-,every⟩ := (grammar _).1 accepted
   rcases every [0x34] (by decide) with ⟨_,_,pair,-⟩|any
   · cases pair
   · exact absurd any (by decide)
 · refine (positions _ _ _ parsed (by decide)).2 fun i token found fixed => ?_
   rw [tokens] at found
   rcases i with _|_|_|i
   · cases found
     exact ⟨0x48,rfl,by decide⟩
   · cases found
     exact absurd (by decide) fixed
   · cases found
     exact ⟨5,rfl,by decide⟩
   · cases found
 · intro matched
   obtain ⟨byte,here,digits⟩ := (positions _ _ _ parsed (by decide)).1 matched 2 [0x30,0x35]
    (by rw [tokens];rfl) (by decide)
   cases here
   exact absurd digits (by decide)

end KDbg
