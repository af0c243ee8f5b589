import KDbg.ValueCodec
set_option autoImplicit false
/-!
# Integer values

The integer types of a scan: their comparisons as relations on the integers, and the
texts of their values.
-/
namespace KDbg

/-- Whether an integer type is signed, and its size. -/
def ScanValueType.integer : ScanValueType→Option (Bool×ℕ)
 | .int8 => some (true,1)
 | .uint8 => some (false,1)
 | .int16 => some (true,2)
 | .uint16 => some (false,2)
 | .int32 => some (true,4)
 | .uint32 => some (false,4)
 | .int64 => some (true,8)
 | .uint64 => some (false,8)
 | _ => none

/-- The integer that bytes stand for, in two's complement if they are signed. -/
def denoted (signed : Bool) (bytes : List UInt8) : ℤ :=
 if signed then (ofLittleEndian bytes : ℤ).bmod (2^(8*bytes.length))
 else ofLittleEndian bytes

section Range
variable {signed:Bool} {size:ℕ} {value:ℤ} {bytes:List UInt8}

lemma two_pow_half (positive:0 < size) : 2^(8*size)=2*2^(8*size-1) := by
 rw [←pow_succ',Nat.sub_add_cancel (by omega)]

def InRange (signed : Bool) (size : ℕ) (value : ℤ) : Prop :=
 lowestInteger signed size ≤ value ∧ value ≤ maxInteger signed size

lemma castInteger_of_inRange (positive:0 < size) (range:InRange signed size value) :
 castInteger signed size value=value := by
 have half:=two_pow_half positive
 have powers:(2^(8*size) : ℤ)=2*2^(8*size-1):=by exact_mod_cast half
 obtain ⟨low,high⟩:=range
 cases signed with
 | true =>
  simp only [lowestInteger,maxInteger,if_true] at low high ⊢
  refine Int.bmod_eq_of_le ?_ ?_ <;> push_cast <;> omega
 | false =>
  simp only [lowestInteger,maxInteger,Bool.false_eq_true,if_false] at low high ⊢
  exact Int.emod_eq_of_lt low (by push_cast;omega)

lemma promoted_of_inRange (positive:0 < size) (range:InRange signed size value) :
 promoted signed size value=value := by
 unfold promoted
 split
 · refine castInteger_of_inRange (by omega) ?_
   obtain ⟨low,high⟩:=range
   have cases:size=1 ∨ size=2 ∨ size=3:=by omega
   unfold lowestInteger at low
   unfold maxInteger at high
   constructor
   · change -2^31 ≤ value
     rcases cases with rfl|rfl|rfl <;> cases signed <;> simp at low <;> omega
   · change value≤2^31-1
     rcases cases with rfl|rfl|rfl <;> cases signed <;> simp at high <;> omega
 · exact castInteger_of_inRange positive range

lemma denoted_inRange (signed:Bool) (positive:0 < size) (width:bytes.length=size ∨ bytes=[]) :
 InRange signed size (denoted signed bytes) := by
 have half:(2^(8*size) : ℤ)=2*2^(8*size-1):=by
  exact_mod_cast two_pow_half positive
 have middle:(0 : ℤ)<2^(8*size-1):=by positivity
 unfold InRange lowestInteger maxInteger
 rcases width with rfl|rfl
 · have bounded:(ofLittleEndian bytes:ℤ)<2^(8*bytes.length):=by
    exact_mod_cast ofLittleEndian_lt_two_pow bytes
   unfold denoted
   cases signed with
   | true =>
    have positive:0<2^(8*bytes.length):=by positivity
    have low:=Int.le_bmod (x := ofLittleEndian bytes) positive
    have high:=Int.bmod_lt (x := ofLittleEndian bytes) positive
    push_cast at low high
    simp only [if_true]
    omega
   | false =>
    simp only [Bool.false_eq_true,if_false]
    omega
 · have zero:denoted signed []=0:=by cases signed <;> rfl
   cases signed <;> simp <;> omega

/-- The check refuses a sum exactly if the type cannot hold it; what it computes on the way
 stays within the type. -/
lemma addOverflows_iff {left right:ℤ} (positive:0 < size)
 (leftRange:InRange signed size left) (rightRange:InRange signed size right) :
 addOverflows signed size left right=true ↔ ¬InRange signed size (left+right) := by
 have exact_of:=@promoted_of_inRange signed size
 unfold addOverflows
 unfold InRange lowestInteger maxInteger at *
 cases signed with
 | true =>
  simp only [if_true,Bool.or_eq_true,Bool.and_eq_true,decide_eq_true_eq] at *
  rcases lt_trichotomy right 0 with _|rfl | _
  · have same:=@exact_of (-2^(8*size-1)-right) positive (by omega)
    omega
  · omega
  · have same:=@exact_of (2^(8*size-1)-1-right) positive (by omega)
    omega
 | false =>
  simp only [Bool.false_eq_true,if_false,decide_eq_true_eq] at *
  have same:=@exact_of (2^(8*size)-1-right) positive (by omega)
  omega

lemma subtractOverflows_iff {left right:ℤ} (positive:0 < size)
 (leftRange:InRange signed size left) (rightRange:InRange signed size right) :
 subtractOverflows signed size left right=true ↔ ¬InRange signed size (left-right) := by
 have exact_of:=@promoted_of_inRange signed size
 unfold subtractOverflows
 unfold InRange lowestInteger maxInteger at *
 cases signed with
 | true =>
  simp only [if_true,Bool.or_eq_true,Bool.and_eq_true,decide_eq_true_eq] at *
  rcases lt_trichotomy right 0 with _|rfl | _
  · have same:=@exact_of (2^(8*size-1)-1+right) positive (by omega)
    omega
  · omega
  · have same:=@exact_of (-2^(8*size-1)+right) positive (by omega)
    omega
 | false =>
  simp only [Bool.false_eq_true,if_false,decide_eq_true_eq] at *
  omega

lemma loadInteger_eq_denoted (width:bytes.length=size ∨ bytes=[]) :
 loadInteger signed size bytes=denoted signed bytes := by
 rcases eq_or_ne bytes [] with rfl|filled
 · have empty:ofLittleEndian []=0:=rfl
   simp [loadInteger,denoted,empty]
 · obtain rfl := width.resolve_right filled
   rw [loadInteger,if_neg (Nat.lt_irrefl _),List.take_length,denoted]
   cases signed with
   | false => rfl
   | true =>
    have bounded:=ofLittleEndian_lt_two_pow bytes
    have half:=two_pow_half (List.length_pos_iff.2 filled)
    rw [if_pos rfl,Int.bmod_def,Int.emod_eq_of_lt (by omega) (by exact_mod_cast bounded)]
    have same:(2^(8*bytes.length) : ℤ)=(2^(8*bytes.length) : ℕ):=by rfl
    simp only [true_and,same]
    split <;> split <;> omega

end Range

/-- What is done with a value of an integer type is done by its sign and its size. -/
structure IntegerType (type : ScanValueType) (signed : Bool) (size : ℕ) : Prop where
 positive : 0 < size
 width : fixedValueWidth type=size
 plain : type≠.byteArray ∧ type.isText=false
 encode : ∀ library text hexadecimal,
  encodeValue library type text hexadecimal=encodeInteger signed size text hexadecimal
 load : ∀ bytes,loadScalar type bytes=some (loadInteger signed size bytes)
 checked : ∀ integer float double left right,
  checkedScalar integer float double type left right=integer signed size left right
 format : ∀ format bytes hexadecimal,bytes.length=size →
  formatValue format type bytes hexadecimal=formatInteger signed size bytes hexadecimal

lemma integerType {type:ScanValueType} {signed:Bool} {size:ℕ}
 (shape:type.integer=some (signed,size)) : IntegerType type signed size := by
 cases type <;> cases shape <;> constructor <;>
  first
   | decide
   | exact fun _ _ _=>rfl
   | exact fun _=>rfl
   | exact fun _ _ _ _ _=>rfl
   | exact fun _ _ _ width=>if_neg fun short=>absurd short.1 (not_lt.2 width.ge)

/-- The relation on integers that a comparison stands for. -/
def ScanCompare.Relates (comparison : ScanCompare) (old new a b : ℤ) : Prop :=
 match comparison with
 | .exact => new=a
 | .notEqual => new≠a
 | .greaterThan => a < new
 | .lessThan => new < a
 | .between => min a b ≤ new ∧ new ≤ max a b
 | .unknownInitial => True
 | .changed => new≠old
 | .unchanged => new=old
 | .increased => old < new
 | .decreased => new < old
 | .increasedBy => new=old+a
 | .decreasedBy => new=old-a

/-- The comparisons with the value that was found before. -/
def ScanCompare.isRelative : ScanCompare→Bool
 | .changed | .unchanged | .increased | .decreased | .increasedBy | .decreasedBy => true
 | _ => false

lemma scalarMin_some (a b:ℤ) : scalarMin (some a) (some b)=some (min a b) := by
 rw [scalarMin,scalarLt,scalarRelation]
 by_cases less:b < a
 · rw [if_pos (decide_eq_true less),min_eq_right less.le]
 · rw [if_neg (by simpa using less),min_eq_left (not_lt.1 less)]

lemma scalarMax_some (a b:ℤ) : scalarMax (some a) (some b)=some (max a b) := by
 rw [scalarMax,scalarLt,scalarRelation]
 by_cases less:a < b
 · rw [if_pos (decide_eq_true less),max_eq_right less.le]
 · rw [if_neg (by simpa using less),max_eq_left (not_lt.1 less)]

section Matching
variable {type:ScanValueType} {signed:Bool} {size:ℕ}
 {previous current first second:List UInt8}

lemma checkedInteger_any {operation:ℤ→ℤ→ℤ} {overflows:Bool→ℕ→ℤ→ℤ→Bool} {new:ℤ}
 (positive:0 < size) (range:InRange signed size new)
 (exact:overflows signed size (loadInteger signed size previous)
  (loadInteger signed size first)=true ↔
  ¬InRange signed size (operation (loadInteger signed size previous)
   (loadInteger signed size first))) :
 (checkedInteger operation overflows signed size previous first).any (scalarEq (some new)) =
  true ↔
  new=operation (loadInteger signed size previous) (loadInteger signed size first) := by
 rw [checkedInteger]
 generalize operation (loadInteger signed size previous) (loadInteger signed size first)=result
  at *
 by_cases fits:InRange signed size result
 · rw [if_neg (by simpa [exact] using fits),promoted_of_inRange positive fits,
    castInteger_of_inRange positive fits]
   exact decide_eq_true_iff
 · rw [if_pos (exact.2 fits)]
   exact iff_of_false Bool.false_ne_true fun same=>fits (same ▸ range)

lemma matchNextTyped_iff (arithmetic:FloatingArithmetic) (comparison:ScanCompare)
 (integer:IntegerType type signed size) (old:previous.length=size) (new:current.length=size)
 (a:first.length=size ∨ first=[]) (b:second.length=size ∨ second=[]) :
 matchNextTyped arithmetic comparison type previous current first second=true ↔
  comparison.Relates (denoted signed previous) (denoted signed current) (denoted signed first)
   (denoted signed second) := by
 have positive:=integer.positive
 have oldRange:=denoted_inRange signed positive (.inl old)
 have newRange:=denoted_inRange signed positive (.inl new)
 have aRange:=denoted_inRange signed positive a
 rw [←loadInteger_eq_denoted (.inl old)] at *
 rw [←loadInteger_eq_denoted (.inl new)] at *
 rw [←loadInteger_eq_denoted a] at *
 rw [←loadInteger_eq_denoted b]
 have add:=checkedInteger_any positive newRange (addOverflows_iff positive oldRange aRange)
 have subtract :=
  checkedInteger_any positive newRange (subtractOverflows_iff positive oldRange aRange)
 simp only [matchNextTyped,integer.load,checkedAdd,checkedSubtract,integer.checked]
 cases comparison with
 | increasedBy => exact add
 | decreasedBy => exact subtract
 | between =>
  rw [scalarMin_some,scalarMax_some]
  simp [scalarLe,scalarRelation,ScanCompare.Relates]
 | _ => simp [scalarEq,scalarLt,scalarRelation,ScanCompare.Relates]

lemma matchInitialTyped_eq (arithmetic:FloatingArithmetic) (comparison:ScanCompare)
 (previous:List UInt8) :
 matchInitialTyped comparison (loadScalar type current) (loadScalar type first)
  (loadScalar type second) =
  (!comparison.isRelative &&
   matchNextTyped arithmetic comparison type previous current first second) := by
 cases comparison <;> rfl

lemma length_encodeInteger {text bytes:List UInt8} {hexadecimal:Bool}
 (encoded:encodeInteger signed size text hexadecimal=.ok bytes) : bytes.length=size := by
 unfold encodeInteger at encoded
 split at encoded
 split at encoded
 · cases encoded
 split at encoded
 · cases encoded
 · cases encoded
   exact length_littleEndian _ _

end Matching

lemma compileScanQuery_ok {library:FloatingText} {query:ScanQuery}
 {compiled:CompiledScanQuery} (h:compileScanQuery library query=.ok compiled) :
 ∃ operands,compileOperands library query=.ok operands ∧
  compiled={ operands with query := { query with
   alignment := if query.alignment≠0 then query.alignment
    else if query.type=.byteArray ∨ query.type.isText then 1 else operands.width
   chunkSize := if query.chunkSize < operands.width then max operands.width 4096
    else query.chunkSize } } := by
 unfold compileScanQuery at h
 simp only [bind,Except.bind,throw,throwThe,MonadExceptOf.throw,pure,Except.pure] at h
 split at h
 · cases h
 split at h
 · cases h
 rename_i operands ok
 split at h
 · cases h
 cases h
 exact ⟨operands,ok,rfl⟩

/-- The operands of a query on an integer type are as wide as the type, where there are any. -/
lemma operands_of_integer {library:FloatingText} {query:ScanQuery} {signed:Bool} {size:ℕ}
 {operands:CompiledScanQuery} (integer:IntegerType query.type signed size)
 (ok:compileOperands library query=.ok operands) :
 operands.width=size ∧ (operands.first.length=size ∨ operands.first=[]) ∧
  (operands.second.length=size ∨ operands.second=[]) := by
 have length : ∀{text bytes},encodeValue library query.type text query.hexadecimal=.ok bytes →
  bytes.length=size := by
  intro _ _ encoded
  rw [integer.encode] at encoded
  exact length_encodeInteger encoded
 unfold compileOperands at ok
 rw [if_neg integer.plain.1,integer.width] at ok
 split at ok
 · rw [if_pos integer.positive.ne'] at ok
   cases ok
   exact ⟨rfl, .inr rfl, .inr rfl⟩
 split at ok
 · cases ok
 rename_i first encoded
 split at ok
 · cases ok
 split at ok
 · cases ok
   exact ⟨length encoded, .inl (length encoded), .inr rfl⟩
 split at ok
 · cases ok
 rename_i second encoded'
 split at ok
 · cases ok
 · cases ok
   exact ⟨length encoded, .inl (length encoded), .inl (length encoded')⟩

/-- A compiled query on an integer type decides its relation on the integers themselves: nothing
 wraps, and what a first scan has no previous value for it does not match. -/
theorem integer_matches_exact {library : FloatingText} {arithmetic : FloatingArithmetic}
 {query : ScanQuery} {compiled : CompiledScanQuery}
 (ok : compileScanQuery library query=.ok compiled) {signed : Bool} {size : ℕ}
 (shape : query.type.integer=some (signed,size)) {previous current : List UInt8}
 (old : previous.length=compiled.width) (new : current.length=compiled.width) :
 (matchNextValue arithmetic compiled previous current=true ↔
  query.comparison.Relates (denoted signed previous) (denoted signed current)
   (denoted signed compiled.first) (denoted signed compiled.second)) ∧
  (matchInitialValue compiled current=true ↔ query.comparison.isRelative=false ∧
   query.comparison.Relates (denoted signed previous) (denoted signed current)
    (denoted signed compiled.first) (denoted signed compiled.second)) := by
 have integer := integerType shape
 obtain ⟨_,operandsOk,rfl⟩ := compileScanQuery_ok ok
 obtain ⟨width,first,second⟩ := operands_of_integer integer operandsOk
 obtain ⟨notArray,notText⟩ := integer.plain
 have next := matchNextTyped_iff arithmetic query.comparison integer (old.trans width)
  (new.trans width) first second
 have oldWhole := List.take_of_length_le old.le
 have newWhole := List.take_of_length_le new.le
 constructor
 · rw [← next,matchNextValue,if_neg (by omega),if_neg (by simp [notArray,notText])]
   rw [oldWhole,newWhole]
 · rw [← next,matchInitialValue,if_neg (by omega),if_neg notArray,if_neg (by simp [notText])]
   rw [newWhole,matchInitialTyped_eq arithmetic _ previous,Bool.and_eq_true,
    Bool.not_eq_true']

def stepQuery : ScanQuery := { type := .int8,comparison := .increasedBy,value := [0x31] }

def stepCompiled : CompiledScanQuery :=
 { query := { stepQuery with alignment := 1 },width := 1,first := [1] }

def sampleLibrary : FloatingText := ⟨fun _=>none,fun _=>none⟩

def sampleArithmetic : FloatingArithmetic :=
 ⟨fun a _=>a,fun a _=>a,fun a _=>a,fun a _=>a⟩

/-- The largest value and one do not make the lowest. -/
theorem stepCompiled_not_wrapped :
 ¬ matchNextValue sampleArithmetic stepCompiled [0x7F] [0x80]=true := by
 have compiled : compileScanQuery sampleLibrary stepQuery=.ok stepCompiled := rfl
 rw [(integer_matches_exact compiled (show stepQuery.type.integer=some (true,1) from rfl)
  (show [0x7F].length=1 from rfl) (show [0x80].length=1 from rfl)).1]
 change ¬ denoted true [0x80]=denoted true [0x7F]+denoted true [1]
 decide

lemma fromDigits_toDigits {base:ℕ} (two:1 < base) {letter:Char→UInt8}
 (reads:∀d < base,digitValue base (letter d.digitChar)=some d) (n:ℕ) :
 fromDigits base ((Nat.toDigits base n).map letter)=some n := by
 have filled:(Nat.toDigits base n).map letter≠[]:=by simp
 rw [fromDigits,if_neg filled]
 clear filled
 induction n using Nat.strong_induction_on with
 | _ n ih =>
  rw [Nat.toDigits_eq_if two]
  split
  · rename_i small
    simp [reads n small]
  · have less:n/base < n:=Nat.div_lt_self (by omega) two
    rw [List.map_append,List.foldlM_append,ih _ less]
    simp [reads _ (Nat.mod_lt n (by omega)),Nat.div_add_mod']

section Texts
variable {signed:Bool} {size base n:ℕ} {text bytes:List UInt8}

lemma digit_of_mem {character:UInt8} (parsed:fromDigits base text=some n)
 (member:character∈text) : (digitValue base character).isSome := by
 rw [fromDigits,if_neg (List.ne_nil_of_mem member)] at parsed
 generalize 0=value at parsed
 induction text generalizing value with
 | nil => cases member
 | cons first _ ih =>
  rw [List.foldlM_cons] at parsed
  cases read:digitValue base first with
  | none => simp [read] at parsed
  | some =>
   rcases List.mem_cons.1 member with rfl|later
   · rw [read]
     rfl
   · simp only [read] at parsed
     exact ih later _ parsed

lemma fromChars_digits (parsed:fromDigits base text=some n) :
 fromChars signed size base text =
  if (n:ℤ) ≤ maxInteger signed size then some (n:ℤ) else none := by
 have powers:∀k : ℕ,(n:ℤ)≤2^k-1 ↔ n<2^k:=by
  intro k
  rw [Int.le_sub_one_iff]
  exact_mod_cast Iff.rfl
 unfold fromChars maxInteger
 split
 · exact absurd (digit_of_mem parsed List.mem_cons_self) (by simp [digitValue])
 · simp [parsed,powers]
 · simp [parsed,powers]

lemma castInteger_denoted (signed:Bool) (bytes:List UInt8) :
 castInteger false bytes.length (denoted signed bytes)=ofLittleEndian bytes := by
 have bounded:(ofLittleEndian bytes:ℤ)<(2^(8*bytes.length) : ℕ):=by
  exact_mod_cast ofLittleEndian_lt_two_pow bytes
 have small:=Int.emod_eq_of_lt (Int.natCast_nonneg _) bounded
 cases signed with
 | true => exact Int.bmod_emod.trans small
 | false => exact small

lemma denoted_nonneg_iff (filled:bytes≠[]) :
 0 ≤ denoted signed bytes ↔ (ofLittleEndian bytes:ℤ) ≤ maxInteger signed bytes.length := by
 have positive:=List.length_pos_iff.2 filled
 have bits:=castInteger_denoted signed bytes
 constructor
 · intro nonneg
   have range:=(denoted_inRange signed positive (.inl rfl)).2
   have unsigned:InRange false bytes.length (denoted signed bytes):=by
    have half:(2^(8*bytes.length) : ℤ)=2*2^(8*bytes.length-1):=by
     exact_mod_cast two_pow_half positive
    refine ⟨nonneg,range.trans ?_⟩
    cases signed <;> simp [maxInteger,half]
   rw [castInteger_of_inRange positive unsigned] at bits
   rwa [←bits]
 · intro small
   have low:lowestInteger signed bytes.length≤0:=by
    cases signed <;> simp [lowestInteger]
   have same:=castInteger_of_inRange positive ⟨low.trans (Int.natCast_nonneg _),small⟩
   cases signed with
   | true => exact same.ge.trans' (Int.natCast_nonneg _)
   | false => exact Int.natCast_nonneg _

lemma encodeInteger_prefixed (text:List UInt8) (filled:text≠[]) (hexadecimal:Bool) :
 encodeInteger signed size (0x30::0x78::text) hexadecimal =
  match fromChars signed size 16 text with
  | none => .error (makeError .parseError "Numeric scan value is invalid or out of range"
   "EncodeInteger")
  | some value => .ok (littleEndian size (value%2^(8*size)).toNat) := by
 change (if text.isEmpty then _ else _)=_
 rw [if_neg (by simpa using filled)]
 rfl

lemma encodeInteger_decimal {value:ℤ} (plain:0x78 ∉ text ∧ 0x58 ∉ text) (filled:text≠[])
 (read:fromChars signed size 10 text=some value) :
 encodeInteger signed size text false =
  .ok (littleEndian size (value%2^(8*size)).toNat) := by
 unfold encodeInteger
 split
 · rename_i chosen same
   split at same
   · exact absurd (List.mem_cons_of_mem _ List.mem_cons_self) plain.1
   · exact absurd (List.mem_cons_of_mem _ List.mem_cons_self) plain.2
   · cases same
     rw [if_neg (by simpa using filled)]
     simp only [Bool.false_eq_true,if_false,read]

lemma fromDigits_decimal (n:ℕ) : fromDigits 10 (TextStream.decimal n)=some n :=
 fromDigits_toDigits (by omega) (by decide) n

lemma decimal_plain_letters (n:ℕ) :
 0x78 ∉ TextStream.decimal n ∧ 0x58 ∉ TextStream.decimal n :=
 ⟨fun member=>absurd (digit_of_mem (fromDigits_decimal n) member) (by decide),
  fun member=>absurd (digit_of_mem (fromDigits_decimal n) member) (by decide)⟩

/-- What is written in decimal is read as the same number, if the type holds it. -/
lemma encodeInteger_decimalInt {value:ℤ} (range:InRange signed size value) :
 encodeInteger signed size (TextStream.decimalInt value) false =
  .ok (littleEndian size (value%2^(8*size)).toNat) := by
 cases value with
 | ofNat n =>
  refine encodeInteger_decimal (decimal_plain_letters n) (TextStream.decimal_ne_nil n) ?_
  exact (fromChars_digits (fromDigits_decimal n)).trans (if_pos range.2)
 | negSucc n =>
  have plain:=decimal_plain_letters (n+1)
  refine encodeInteger_decimal (by simpa [TextStream.decimalInt] using plain) (by simp
   [TextStream.decimalInt]) ?_
  cases signed with
  | false => exact absurd range.1 (by simp [lowestInteger])
  | true =>
   have low:n+1≤2^(8*size-1):=by
    have bound:=range.1
    simp only [lowestInteger,if_true,Int.negSucc_eq] at bound
    zify
    omega
   simp [fromChars,TextStream.decimalInt,fromDigits_decimal,low,Int.negSucc_eq]

end Texts

/-- The text of an integer is read back as the same bytes, unless it is a negative number in
 hexadecimal: those are written by their bits and read by their magnitude. -/
theorem integer_text_round_trip_iff (library : FloatingText) (format : FloatingFormat)
 {type : ScanValueType} {signed : Bool} {size : ℕ}
 (shape : type.integer=some (signed,size)) {bytes : List UInt8} (width : bytes.length=size)
 (hexadecimal : Bool) :
 encodeValue library type (formatValue format type bytes hexadecimal) hexadecimal=.ok bytes ↔
  ¬ (hexadecimal=true ∧ denoted signed bytes<0) := by
 have integer := integerType shape
 have positive := integer.positive
 have range := denoted_inRange signed positive (.inl width)
 have value : loadInteger signed size bytes=denoted signed bytes :=
  loadInteger_eq_denoted (.inl width)
 have bits := castInteger_denoted signed bytes
 have filled : bytes≠[] := List.length_pos_iff.1 (width ▸ positive)
 subst width
 have whole : littleEndian bytes.length (ofLittleEndian bytes)=bytes :=
  littleEndian_ofLittleEndian bytes
 rw [integer.encode,integer.format _ _ _ rfl,formatInteger,value]
 cases hexadecimal with
 | false =>
  have low : (denoted signed bytes%2^(8*bytes.length)).toNat=ofLittleEndian bytes := by
   rw [castInteger] at bits
   push_cast at bits
   rw [bits,Int.toNat_natCast]
  rw [if_neg Bool.false_ne_true,encodeInteger_decimalInt range,low,whole]
  simp
 | true =>
  have digits : fromDigits 16 (hexDigits true 0 (ofLittleEndian bytes)) =
   some (ofLittleEndian bytes) := by
   rw [hexDigits]
   simp only [Nat.zero_sub,List.replicate_zero,List.nil_append]
   exact fromDigits_toDigits (by omega) (by decide) _
  have some_digit : hexDigits true 0 (ofLittleEndian bytes)≠[] := by
   simp [hexDigits,Nat.toDigits_ne_nil]
  rw [if_pos rfl,bits,Int.toNat_natCast,encodeInteger_prefixed _ some_digit,
   fromChars_digits digits]
  simp only [true_and,not_lt,denoted_nonneg_iff filled]
  by_cases small : (ofLittleEndian bytes : ℤ) ≤ maxInteger signed bytes.length
  · have low : ((ofLittleEndian bytes : ℤ)%2^(8*bytes.length)).toNat =
     ofLittleEndian bytes := by
     have bounded := ofLittleEndian_lt_two_pow bytes
     rw [Int.emod_eq_of_lt (Int.natCast_nonneg _) (by exact_mod_cast bounded),
      Int.toNat_natCast]
    rw [if_pos small]
    dsimp only
    rw [low,whole]
    exact iff_of_true rfl small
  · rw [if_neg small]
    exact iff_of_false (fun failed=>nomatch failed) small

def sampleFormat : FloatingFormat := ⟨fun _=>[],fun _=>[]⟩

theorem minusTwo_decimal_round_trip :
 encodeValue sampleLibrary .int8 (formatValue sampleFormat .int8 [0xFE] false) false=.ok [0xFE] :=
 (integer_text_round_trip_iff sampleLibrary sampleFormat (show ScanValueType.int8.integer=_ from rfl)
  rfl false).2 (by decide)

/-- `0xFE` is what an editor shows of minus two, and it does not take it back. -/
theorem minusTwo_hexadecimal_refused :
 formatValue sampleFormat .int8 [0xFE] true=[0x30,0x78,0x46,0x45] ∧
  encodeValue sampleLibrary .int8 (formatValue sampleFormat .int8 [0xFE] true) true =
   .error (makeError .parseError "Numeric scan value is invalid or out of range"
    "EncodeInteger") :=
 ⟨by decide,by decide⟩

end KDbg
