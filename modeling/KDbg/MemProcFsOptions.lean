import KDbg.MemProcFsCommandLine
set_option autoImplicit false
/-! The options that the bridge reads from the command line of the provider. -/
namespace KDbg
open WideText MemProcFsProvider MemProcFsBridge

structure ValidText (value : List UInt8) : Prop where
 valid : isValidUtf8 value=true
 clean : 0 ∉ value
 small : value.length ≤ kMaxBridgeArgumentBytes

lemma validateUtf8Value_eq_ok {value:List UInt8} {label:String} {allowEmpty:Bool}
 (h:validateUtf8Value value label allowEmpty=.ok ()) :
 ValidText value ∧ (allowEmpty=false → value≠[]) := by
 rw [validateUtf8Value,Result.seq_eq_ok,Result.seq_eq_ok,Result.check_eq_ok,Result.check_eq_ok] at h
 obtain ⟨shape,small,valid⟩:=h
 obtain ⟨filled,clean⟩:=not_or.1 shape
 exact ⟨⟨by simpa using valid,clean,Nat.not_lt.1 small⟩,
  fun refused empty=>filled ⟨refused,empty⟩⟩

section Valid
variable {value:List UInt8}

lemma wideToUtf8_utf8ToWide (h:ValidText value) : wideToUtf8 (utf8ToWide value)=value := by
 obtain ⟨_,rfl⟩:=exists_text h.valid
 rw [utf8ToWide_utf8,wideToUtf8_utf16]

lemma zero_not_mem_utf8ToWide (h:ValidText value) : 0 ∉ utf8ToWide value := by
 obtain ⟨_,rfl⟩:=exists_text h.valid
 rw [utf8ToWide_utf8]
 exact mt zero_of_utf16 h.clean

lemma utf8ToWide_eq_nil (h:ValidText value) (empty:utf8ToWide value=[]) : value=[] := by
 rw [←wideToUtf8_utf8ToWide h,empty]
 rfl

lemma head_of_utf8ToWide (h:ValidText value) (dash:(utf8ToWide value).head?=some 0x2D) :
 value.head?=some 0x2D := by
 obtain ⟨_,rfl⟩:=exists_text h.valid
 rw [utf8ToWide_utf8] at dash
 exact head_of_utf16 dash

lemma not_oversized (h:ValidText value) : ¬Oversized (utf8ToWide value) := by
 rw [Oversized,wideToUtf8_utf8ToWide h,not_or]
 refine ⟨fun refused=>refused.1 ?_,Nat.not_lt.2 h.small⟩
 rw [refused.2]
 rfl

lemma controlled_of_utf8ToWide (h:ValidText value)
 (controlled:isProviderControlledVmmArgument (utf8ToWide value)=true) :
 (MemProcFsProvider.controlledNames.any fun name =>
  MemProcFsProvider.asciiEqualInsensitive value (utf8 name))=true := by
 obtain ⟨_,rfl⟩:=exists_text h.valid
 rw [utf8ToWide_utf8] at controlled
 obtain ⟨name,member,same⟩:=List.any_eq_true.1 controlled
 have ascii:∀name∈MemProcFsBridge.controlledNames,∀c∈name,c.toNat<0x80:=by
  have all : (MemProcFsBridge.controlledNames.all fun name =>
   name.all fun c=>decide (c.toNat<0x80))=true := by decide
  simpa using all
 refine List.any_eq_true.2 ⟨name,member,(all_zip_iff _ _ _).2 ?_⟩
 exact lower_utf8_of_utf16 (ascii name member) ((all_zip_iff _ _ _).1 same)

end Valid

structure ValidConfiguration (configuration : MemProcFsConfiguration) : Prop where
 count : configuration.vmmArguments.length ≤ MemProcFsProvider.kMaxVmmArguments
 device : ∀ device,configuration.device=some device →
  ValidText device ∧ device≠[] ∧ device.head?≠some 0x2D
 path : ∀ path,configuration.vmmPath=some path → path≠[] ∧ 0 ∉ path
 additional : ∀ argument∈configuration.vmmArguments,ValidText argument ∧
  isProviderControlledVmmArgument (utf8ToWide argument)=false

lemma validateArguments_eq_ok {arguments:List (List UInt8)}
 (h:validateArguments arguments=.ok ()) : ∀argument∈arguments,ValidText argument ∧
  isProviderControlledVmmArgument (utf8ToWide argument)=false := by
 induction arguments with
 | nil => simp
 | cons _ _ ih =>
  rw [validateArguments,Result.seq_eq_ok,validateArgument,Result.seq_eq_ok,
   Result.check_eq_ok] at h
  obtain ⟨⟨checked,free⟩,rest⟩:=h
  have valid:=(validateUtf8Value_eq_ok checked).1
  intro other member
  rcases List.mem_cons.1 member with rfl|member
  · refine ⟨valid,?_⟩
    rw [←Bool.not_eq_true]
    exact mt (controlled_of_utf8ToWide valid) free
  · exact ih rest other member

lemma validateConfiguration_eq_ok {configuration:MemProcFsConfiguration}
 (h:validateConfiguration configuration=.ok ()) : ValidConfiguration configuration := by
 rw [validateConfiguration,Result.seq_eq_ok,Result.seq_eq_ok,Result.seq_eq_ok,
  Result.check_eq_ok] at h
 obtain ⟨count,device,path,additional⟩:=h
 refine ⟨Nat.not_lt.1 count,fun _ named => ?_,fun _ named => ?_,
  validateArguments_eq_ok additional⟩
 · rw [named,validateOptional,validateDevice,Result.seq_eq_ok,Result.check_eq_ok] at device
   obtain ⟨valid,filled⟩:=validateUtf8Value_eq_ok device.1
   exact ⟨valid,filled rfl,device.2⟩
 · rw [named,validateOptional,validatePath,Result.seq_eq_ok,Result.check_eq_ok,Result.check_eq_ok] at path
   exact path

def deviceTexts : Option (List UInt8)→List (List UInt16)
 | none => []
 | some device => [deviceOption,utf8ToWide device]

def pathTexts : Option (List UInt16)→List (List UInt16)
 | none => []
 | some path => [vmmOption,path]

def additionalTexts (arguments : List (List UInt8)) : List (List UInt16) :=
 arguments.flatMap fun argument=>[vmmArgumentOption,utf8ToWide argument]

variable {values:List (List UInt16)}

lemma deviceArguments_eq_ok {device:Option (List UInt8)}
 (h:deviceArguments device=.ok values) : values=deviceTexts device := by
 cases device with
 | none =>
  cases h
  rfl
 | some =>
  obtain ⟨⟨⟩,-,same⟩:=Fallible.exists_of_bind h
  cases same
  rfl

lemma additionalArguments_eq_ok {arguments:List (List UInt8)}
 (h:additionalArguments arguments=.ok values) : values=additionalTexts arguments := by
 induction arguments generalizing values with
 | nil =>
  cases h
  rfl
 | cons _ _ ih =>
  obtain ⟨⟨⟩,-,h⟩:=Fallible.exists_of_bind h
  obtain ⟨_,collected,same⟩:=Fallible.exists_of_bind h
  cases same
  rw [ih collected]
  rfl

lemma bridgeArguments_eq_ok {configuration:MemProcFsConfiguration} {pfn:UInt32}
 (h:bridgeArguments configuration pfn=.ok values) :
 values=deviceTexts configuration.device++pathTexts configuration.vmmPath ++
  additionalTexts configuration.vmmArguments++[pfnOption,wideDecimal pfn.toNat] := by
 obtain ⟨_,first,h⟩:=Fallible.exists_of_bind h
 obtain ⟨_,last,h⟩:=Fallible.exists_of_bind h
 obtain ⟨⟨⟩,-,same⟩:=Fallible.exists_of_bind h
 cases same
 rw [deviceArguments_eq_ok first,additionalArguments_eq_ok last]
 cases configuration.vmmPath <;> rfl

lemma mem_wideDecimal {n:ℕ} {unit:UInt16} (member:unit∈wideDecimal n) :
 0x30 ≤ unit.toNat ∧ unit.toNat≤0x39 := by
 obtain ⟨byte,found,rfl⟩:=List.mem_map.1 member
 have digits : ∀value : Fin 256,TextStream.isDigit (UInt8.ofFin value)=true →
  0x30 ≤ value.val ∧ value.val≤0x39 := by decide +kernel
 exact digits byte.toFin (TextStream.isDigit_of_mem_decimal found)

lemma clean_texts {configuration:MemProcFsConfiguration}
 (valid:ValidConfiguration configuration) (pfn:UInt32) :
 ∀value∈deviceTexts configuration.device++pathTexts configuration.vmmPath ++
  additionalTexts configuration.vmmArguments++[pfnOption,wideDecimal pfn.toNat],
  0 ∉ value := by
 have options : ∀value∈[deviceOption,vmmOption,vmmArgumentOption,pfnOption],
  0 ∉ value := by decide
 intro _ member
 rcases List.mem_append.1 member with member|member
 · rcases List.mem_append.1 member with member|member
   · rcases List.mem_append.1 member with member|member
     · cases named:configuration.device with
       | none => simp [deviceTexts,named] at member
       | some device =>
        rw [named] at member
        rcases List.mem_pair.1 member with rfl|rfl
        · exact options _ (by simp)
        · exact zero_not_mem_utf8ToWide (valid.device device named).1
     · cases named:configuration.vmmPath with
       | none => simp [pathTexts,named] at member
       | some path =>
        rw [named] at member
        rcases List.mem_pair.1 member with rfl|rfl
        · exact options _ (by simp)
        · exact (valid.path _ named).2
   · obtain ⟨argument,found,member⟩:=List.mem_flatMap.1 member
     rcases List.mem_pair.1 member with rfl|rfl
     · exact options _ (by simp)
     · exact zero_not_mem_utf8ToWide (valid.additional argument found).1
 · rcases List.mem_pair.1 member with rfl|rfl
   · exact options _ (by simp)
   · exact fun zero=>absurd (mem_wideDecimal zero).1 (by decide)

section Parsing
variable {parsing:Parsing} {rest:List (List UInt16)}

lemma parseArguments_flag {flag:Flag} {value:List UInt16}
 (fresh:parsing.seen flag=false) :
 parseArguments parsing (flag.text::value::rest) =
  (takeValue parsing value flag).bind fun parsing=>parseArguments parsing rest := by
 have fits:∀flag : Flag,¬Oversized flag.text:=by
  intro flag
  cases flag <;> decide
 have found:∀flag : Flag,flagOf flag.text=some flag:=by
  intro flag
  cases flag <;> decide
 rw [parseArguments,if_neg (fits flag),found flag]
 dsimp only
 rw [if_neg (by simp [fresh])]
 cases takeValue parsing value flag <;> rfl

lemma takeValue_device {device:List UInt8} (valid:ValidText device) (filled:device≠[])
 (plain:device.head?≠some 0x2D) :
 takeValue parsing (utf8ToWide device) .device =
  .ok { parsing with options.device := utf8ToWide device,sawDevice := true } := by
 rw [takeValue,wideToUtf8_utf8ToWide valid,if_neg]
 rintro (empty | dash | empty | long)
 · exact filled (utf8ToWide_eq_nil valid empty)
 · exact plain (head_of_utf8ToWide valid dash)
 · exact filled empty
 · exact Nat.not_lt.2 valid.small long

lemma parseArguments_additional {arguments:List (List UInt8)}
 (valid:∀argument∈arguments,ValidText argument ∧
  isProviderControlledVmmArgument (utf8ToWide argument)=false)
 (count:parsing.options.vmmArguments.length+arguments.length ≤
  MemProcFsBridge.kMaxVmmArguments) :
 parseArguments parsing (additionalTexts arguments++rest) =
  parseArguments { parsing with options.vmmArguments :=
   parsing.options.vmmArguments++arguments.map utf8ToWide } rest := by
 induction arguments generalizing parsing with
 | nil => simp [additionalTexts]
 | cons argument arguments ih =>
  obtain ⟨text,free⟩:=valid argument (by simp)
  rw [List.length_cons] at count
  have taken : takeValue parsing (utf8ToWide argument) .vmmArgument=.ok { parsing with
   options.vmmArguments := parsing.options.vmmArguments++[utf8ToWide argument] } := by
   have room : ¬(MemProcFsBridge.kMaxVmmArguments ≤ parsing.options.vmmArguments.length ∨
    Oversized (utf8ToWide argument)) := by
    rw [not_or]
    exact ⟨by omega,not_oversized text⟩
   rw [takeValue,if_neg room,if_neg (by simp [free])]
  change parseArguments parsing (Flag.vmmArgument.text::utf8ToWide argument ::
   (additionalTexts arguments++rest))=_
  rw [parseArguments_flag rfl,taken]
  change parseArguments _ (additionalTexts arguments++rest)=_
  rw [ih (fun other member=>valid other (by simp [member])) (by
   simp only [List.length_append,List.length_singleton]
   omega)]
  simp

lemma digitOf_wide {c:Char} (digit:c.isDigit=true) :
 digitOf 10 c.toUInt8.toUInt16=some (c.toNat - '0'.toNat) ∧ c.toNat - '0'.toNat<10 := by
 simp only [Char.isDigit,Bool.and_eq_true,decide_eq_true_eq] at digit
 have low:48 ≤ c.toNat:=UInt32.le_iff_toNat_le.1 digit.1
 have high:c.toNat≤57:=UInt32.le_iff_toNat_le.1 digit.2
 rw [←Char.ofNat_toNat c]
 generalize c.toNat=n at low high
 interval_cases n <;> decide

lemma le_ofDigitChars (chars:List Char) (init:ℕ) : init ≤ Nat.ofDigitChars 10 chars init := by
 induction chars generalizing init with
 | nil => rw [Nat.ofDigitChars_nil]
 | cons c _ ih =>
  rw [Nat.ofDigitChars_cons]
  exact le_trans (by omega) (ih _)

/-- The loop of `ParseUnsigned` computes the value of the digits as long as it has 64 bits. -/
lemma parseDigits_eq {chars:List Char} (digits:∀c∈chars,c.isDigit=true) (init:ℕ)
 (fits:Nat.ofDigitChars 10 chars init<2^64) :
 parseDigits 10 init (chars.map fun c=>c.toUInt8.toUInt16) =
  some (Nat.ofDigitChars 10 chars init) := by
 induction chars generalizing init with
 | nil => rfl
 | cons c chars ih =>
  obtain ⟨value,_⟩:=digitOf_wide (digits c (by simp))
  rw [Nat.ofDigitChars_cons] at fits ⊢
  have reached:=le_ofDigitChars chars (10*init+(c.toNat - '0'.toNat))
  have room : ¬(10 ≤ c.toNat - '0'.toNat ∨
   (2^64-1-(c.toNat - '0'.toNat))/10 < init) := by omega
  rw [List.map_cons,parseDigits,value,Option.bind_some,if_neg room,Nat.mul_comm init]
  exact ih (fun d member=>digits d (by simp [member])) _ fits

lemma parseUnsigned_wideDecimal {n:ℕ} (fits:n<2^64) :
 parseUnsigned (wideDecimal n)=some n := by
 have text:wideDecimal n=(Nat.toDigits 10 n).map fun c=>c.toUInt8.toUInt16:=by
  rw [wideDecimal,TextStream.decimal,List.map_map]
  rfl
 have plain:hasHexMark (wideDecimal n)=false:=by
  -- the second of the digits, if there is one, is a digit
  have later : ∀mark : UInt16,0x39 < mark.toNat →
   (wideDecimal n).tail.head?≠some mark := by
   intro _ large second
   have member:=List.mem_of_mem_tail (List.mem_of_mem_head? (Option.mem_def.2 second))
   exact absurd (mem_wideDecimal member).2 (Nat.not_le.2 large)
  rw [hasHexMark,beq_eq_false_iff_ne.2 (later 0x78 (by decide)),
   beq_eq_false_iff_ne.2 (later 0x58 (by decide)),Bool.or_false,Bool.and_false]
 have filled:wideDecimal n≠[]:=by
  rw [wideDecimal]
  simpa using TextStream.decimal_ne_nil n
 rw [parseUnsigned,if_neg filled,plain,if_neg Bool.false_ne_true,text]
 have digits:∀c∈Nat.toDigits 10 n,c.isDigit=true:=fun c member =>
  Nat.isDigit_of_mem_toDigits (by decide) (by decide) member
 have value:Nat.ofDigitChars 10 (Nat.toDigits 10 n) 0=n:=Nat.ofDigitChars_ten_toDigits
 rw [parseDigits_eq digits 0 (by rw [value];exact fits),value]

lemma takeValue_pfn (pfn:UInt32) :
 takeValue parsing (wideDecimal pfn.toNat) .pfn =
  .ok { parsing with options.pfn := some pfn } := by
 have bound:pfn.toNat<2^32:=pfn.toNat_lt
 have short:¬32<(wideDecimal pfn.toNat).length:=by
  have digits:=(Nat.length_toDigits_le_iff (b := 10) (k := 32) (by decide)
   (by decide)).2 (bound.trans (by decide))
  rw [wideDecimal,TextStream.decimal]
  simpa using digits
 rw [takeValue,if_neg short,parseUnsigned_wideDecimal (bound.trans (by decide))]
 dsimp only
 rw [if_neg (by omega),UInt32.ofNat_toNat]

end Parsing

/-- A path that is no Unicode text, or too long a one. -/
def PathRefused (path : List UInt16) : Prop :=
 ofUtf16 path=none ∨ kMaxCommandArgumentBytes<(wideToUtf8 path).length

/-- A device of the environment that looks like an option, is no Unicode text, or too long. -/
def DeviceRefused (device : List UInt16) : Prop :=
 device.head?=some 0x2D ∨ ofUtf16 device=none ∨
  kMaxCommandArgumentBytes<(wideToUtf8 device).length

lemma wideToUtf8_eq_nil {value:List UInt16} (filled:value≠[]) :
 wideToUtf8 value=[] ↔ ofUtf16 value=none := by
 rw [wideToUtf8]
 cases decoded:ofUtf16 value with
 | none => simp
 | some =>
  simp only [Option.map_some,Option.getD_some,reduceCtorEq,iff_false]
  intro empty
  rw [utf8_eq_nil empty] at decoded
  exact filled (eq_nil_of_ofUtf16 decoded)

def deviceOf (device : List UInt16) : Option (List UInt8)→List UInt16
 | none => device
 | some device => utf8ToWide device

/-- The options that a configuration asks for, where the default device is `device`. -/
def askedOptions (configuration : MemProcFsConfiguration) (pfn : UInt32) (device : List UInt16) :
 Options where
 pfn := some pfn
 device := deviceOf device configuration.device
 vmmPath := configuration.vmmPath.getD []
 vmmArguments := configuration.vmmArguments.map utf8ToWide

/-- What `ParseOptions` makes of the arguments of the provider. -/
structure OptionsConveyed (configuration : MemProcFsConfiguration) (pfn : UInt32)
 (device : List UInt16) (r : Except Exit Options) : Prop where
 pathRefused : ∀ path,configuration.vmmPath=some path→PathRefused path →
  r=.error (.failed "--vmm is empty or too long")
 deviceRefused : (∀ path,configuration.vmmPath=some path → ¬PathRefused path) →
  configuration.device=none→DeviceRefused device →
  r=.error (.failed "Configured MemProcFS device is empty or too long")
 options : (∀ path,configuration.vmmPath=some path → ¬PathRefused path) →
  (configuration.device=none → ¬DeviceRefused device) →
  r=.ok (askedOptions configuration pfn device)

section Options
variable {configuration:MemProcFsConfiguration} {pfn:UInt32} {parsing:Parsing}
 {rest:List (List UInt16)}

lemma parseArguments_device (valid:ValidConfiguration configuration)
 (fresh:parsing.seen .device=false) :
 ∃ saw,parseArguments parsing (deviceTexts configuration.device++rest) =
  parseArguments { parsing with
   options.device := deviceOf parsing.options.device configuration.device
   sawDevice := saw } rest := by
 cases named:configuration.device with
 | none => exact ⟨parsing.sawDevice,rfl⟩
 | some device =>
  obtain ⟨text,filled,plain⟩:=valid.device device named
  refine ⟨true,?_⟩
  change parseArguments parsing (Flag.device.text::utf8ToWide device::rest)=_
  rw [parseArguments_flag fresh,takeValue_device text filled plain]
  rfl

lemma parseArguments_path (valid:ValidConfiguration configuration) (parsing:Parsing)
 (fresh:parsing.seen .vmm=false) (unset:parsing.options.vmmPath=[]) :
 (∀path,configuration.vmmPath=some path→PathRefused path →
  parseArguments parsing (pathTexts configuration.vmmPath++rest) =
   .error (.failed "--vmm is empty or too long")) ∧
 ((∀path,configuration.vmmPath=some path → ¬PathRefused path) →
  ∃ saw,parseArguments parsing (pathTexts configuration.vmmPath++rest) =
   parseArguments { parsing with
    options.vmmPath := configuration.vmmPath.getD []
    sawVmm := saw } rest) := by
 cases named:configuration.vmmPath with
 | none =>
  refine ⟨fun _ some=>(nomatch some),fun _=>⟨parsing.sawVmm,?_⟩⟩
  rw [←unset]
  rfl
 | some path =>
  obtain ⟨filled,-⟩:=valid.path path named
  have flag : parseArguments parsing (pathTexts (some path)++rest)=_ :=
   parseArguments_flag fresh
  have refused : (path=[] ∨ wideToUtf8 path=[] ∨
   kMaxCommandArgumentBytes<(wideToUtf8 path).length) ↔ PathRefused path := by
   rw [wideToUtf8_eq_nil filled,PathRefused]
   simp [filled]
  constructor
  · intro _ same bad
    cases same
    rw [flag,takeValue,if_pos (refused.2 bad)]
    rfl
  · intro good
    refine ⟨true,?_⟩
    rw [flag,takeValue,if_neg (mt refused.1 (good path rfl))]
    rfl

/-- The loop over the arguments of the provider, from where `ParseOptions` starts it. -/
lemma parseArguments_texts (valid:ValidConfiguration configuration) (pfn:UInt32)
 (device:List UInt16) :
 (∀path,configuration.vmmPath=some path→PathRefused path →
  parseArguments { options := { device } } (deviceTexts configuration.device ++
   (pathTexts configuration.vmmPath++(additionalTexts configuration.vmmArguments ++
    [pfnOption,wideDecimal pfn.toNat]))) =
   .error (.failed "--vmm is empty or too long")) ∧
 ((∀path,configuration.vmmPath=some path → ¬PathRefused path) →
  ∃ sawDevice sawVmm,parseArguments { options := { device } }
   (deviceTexts configuration.device++(pathTexts configuration.vmmPath ++
    (additionalTexts configuration.vmmArguments ++
     [pfnOption,wideDecimal pfn.toNat]))) =
   .ok ⟨askedOptions configuration pfn device,sawDevice,sawVmm⟩) := by
 let start : Parsing := { options := { device } }
 have fresh:start.seen .device=false:=rfl
 obtain ⟨sawDevice,first⟩:=parseArguments_device valid fresh
 rw [first]
 obtain ⟨refused,read⟩:=parseArguments_path valid
  { options := { device := deviceOf device configuration.device },sawDevice } rfl rfl
 refine ⟨refused,fun good => ?_⟩
 obtain ⟨sawVmm,second⟩:=read good
 refine ⟨sawDevice,sawVmm,?_⟩
 have count : ([] : List (List UInt16)).length+configuration.vmmArguments.length ≤
  MemProcFsBridge.kMaxVmmArguments := by
  rw [List.length_nil,Nat.zero_add]
  exact valid.count
 rw [second,parseArguments_additional valid.additional count]
 change parseArguments _ (Flag.pfn.text::wideDecimal pfn.toNat::[])=_
 rw [parseArguments_flag rfl,takeValue_pfn]
 rfl

/-- The bridge refuses the path, or its own default device, or has what it was asked for. -/
lemma parseOptions_conveyed (valid:ValidConfiguration configuration) (configured:List UInt16)
 {arguments:List (List UInt16)}
 (texts:arguments.tail=deviceTexts configuration.device ++
  pathTexts configuration.vmmPath++additionalTexts configuration.vmmArguments ++
  [pfnOption,wideDecimal pfn.toNat]) :
 OptionsConveyed configuration pfn (defaultDevice configured)
  (parseOptions configured arguments) := by
 rw [List.append_assoc,List.append_assoc] at texts
 obtain ⟨refused,read⟩:=parseArguments_texts valid pfn (defaultDevice configured)
 have present:defaultDevice configured≠[]:=by
  unfold defaultDevice
  split
  · decide
  · assumption
 have checked : (defaultDevice configured=[] ∨ (defaultDevice configured).head?=some 0x2D ∨
  wideToUtf8 (defaultDevice configured)=[] ∨
  kMaxCommandArgumentBytes<(wideToUtf8 (defaultDevice configured)).length) ↔
  DeviceRefused (defaultDevice configured) := by
  rw [wideToUtf8_eq_nil present,DeviceRefused]
  simp [present]
 refine ⟨fun path named bad => ?_,fun good unset bad => ?_,fun good device => ?_⟩
 · rw [parseOptions,texts,refused path named bad]
   rfl
 · obtain ⟨_,_,parsed⟩:=read good
   rw [parseOptions,texts,parsed]
   dsimp only [bind,Except.bind]
   have own : (askedOptions configuration pfn (defaultDevice configured)).device =
    defaultDevice configured := by rw [askedOptions,unset];rfl
   rw [own,if_pos (checked.2 bad)]
   rfl
 · obtain ⟨_,_,parsed⟩:=read good
   rw [parseOptions,texts,parsed]
   dsimp only [bind,Except.bind]
   rw [if_neg (by simp [askedOptions]),if_neg]
   · rfl
   cases named:configuration.device with
   | none =>
    have own : (askedOptions configuration pfn (defaultDevice configured)).device =
     defaultDevice configured := by rw [askedOptions,named];rfl
    rw [own]
    exact mt checked.1 (device named)
   | some text =>
    obtain ⟨valid,filled,plain⟩:=valid.device text named
    have own : (askedOptions configuration pfn (defaultDevice configured)).device =
     utf8ToWide text := by rw [askedOptions,named];rfl
    rw [own,wideToUtf8_utf8ToWide valid]
    rintro (empty | dash | empty | long)
    · exact filled (utf8ToWide_eq_nil valid empty)
    · exact plain (head_of_utf8ToWide valid dash)
    · exact filled empty
    · exact Nat.not_lt.2 valid.small long

end Options
end KDbg
