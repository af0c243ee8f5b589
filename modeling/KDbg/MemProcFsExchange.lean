import KDbg.MemProcFsOptions
set_option autoImplicit false
/-! The exchange between the provider and the bridge: what the provider puts on the command line
is what the bridge reads there, and what the bridge prints is what the provider reads. -/
namespace KDbg
open WideText TextStream MemProcFsProvider MemProcFsBridge

section Fields
variable {rest:List UInt8}

lemma tab_blank : ∀byte∈[MemProcFsBridge.tab],isBlank byte=true := by
 intro _ member
 rw [List.mem_singleton.1 member]
 rfl

lemma readDecimal_run {width n:ℕ} (fits:n<2^width) (stop:Stops (!isBlank ·) rest) :
 readDecimal width { rest := MemProcFsBridge.tab::(decimal n++rest) } =
  some (n, .ahead rest) := by
 have solid:∀byte∈decimal n,isBlank byte=false:=fun _ member =>
  (digit_plain (isDigit_of_mem_decimal member)).1
 have read : word { rest := [MemProcFsBridge.tab]++(decimal n++rest) } =
  some (decimal n, .ahead rest) :=
  word_run tab_blank (decimal_ne_nil n) solid stop
 have unsigned:¬((decimal n).head?=some 0x2B ∨ (decimal n).head?=some 0x2D):=by
  have plain:∀byte∈(decimal n).head?,byte≠0x2D ∧ byte≠0x2B:=fun _ head =>
   (digit_plain (isDigit_of_mem_decimal (List.mem_of_mem_head? head))).2
  rintro (plus | minus)
  · exact (plain _ plus).2 rfl
  · exact (plain _ minus).1 rfl
 have number : ¬(decimal n=[] ∨ (decimal n).all isDigit=false ∨
  2^width ≤ value (decimal n)) := by
  have all : (decimal n).all isDigit=true :=
   List.all_eq_true.2 fun _ member=>isDigit_of_mem_decimal member
  rw [value_decimal]
  simp [decimal_ne_nil,all,fits]
 rw [List.singleton_append] at read
 rw [readDecimal,read,Option.bind_some]
 dsimp only
 rw [if_neg unsigned,if_neg number,value_decimal]

def numbers (ns : List ℕ) : List UInt8 := (ns.map decimal).flatMap (MemProcFsBridge.tab :: ·)

lemma stops_numbers (ns:List ℕ) (stop:Stops (!isBlank ·) rest) :
 Stops (!isBlank ·) (numbers ns++rest) := by
 cases ns with
 | nil => exact stop
 | cons => exact stops_cons rfl

lemma readDecimals_run {widths ns:List ℕ}
 (fits:List.Forall₂ (fun width n=>n<2^width) widths ns)
 (stop:Stops (!isBlank ·) rest) :
 readDecimals widths (.ahead (numbers ns++rest))=some (ns, .ahead rest) := by
 induction fits with
 | nil => rfl
 | cons first others ih =>
  rename_i width n widths ns
  have shape : numbers (n::ns)++rest =
   MemProcFsBridge.tab::(decimal n++(numbers ns++rest)) := by
   simp [numbers]
  have ahead : Input.ahead (MemProcFsBridge.tab::(decimal n++(numbers ns++rest))) =
   { rest := MemProcFsBridge.tab::(decimal n++(numbers ns++rest)) } := rfl
  rw [readDecimals,shape,ahead,readDecimal_run first (stops_numbers ns stop),
   Option.bind_some]
  dsimp only
  rw [ih,Option.map_some]

lemma quotedField_run (text:List UInt8) :
 quotedField { rest := MemProcFsBridge.tab::(quoted text++rest) } =
  some (text,{ rest }) := by
 have skipped : ws { rest := MemProcFsBridge.tab::(quoted text++rest) } =
  { rest := quoted text++rest } := by
  have begins:Stops isBlank (quoted text++rest):=stops_cons rfl
  have dropped : ([MemProcFsBridge.tab]++(quoted text++rest)).dropWhile isBlank=_ :=
   dropWhile_run tab_blank begins
  rw [List.singleton_append] at dropped
  rfl
 have read : quotedText { rest := []++(quoted text++rest) }=some (text,{ rest }) :=
  quotedText_run text (by simp)
 exact read

end Fields

def carriage (textMode : Bool) : List UInt8 := if textMode then [0x0D] else []

lemma newline_not_mem_carriage (textMode:Bool) : newline ∉ carriage textMode := by
 cases textMode <;> decide

lemma stops_carriage (textMode:Bool) : Stops (!isBlank ·) (carriage textMode) := by
 cases textMode with
 | false => exact stops_nil _
 | true => exact stops_cons rfl

lemma eof_carriage (textMode:Bool) : (ws { rest := carriage textMode }).eof=true := by
 cases textMode <;> rfl

lemma eof_ahead_carriage (textMode:Bool) :
 (ws (Input.ahead (carriage textMode))).eof=true := by
 cases textMode <;> rfl

lemma lines_printed {textMode:Bool} {rows:List (List UInt8)}
 (solid:∀row∈rows,newline ∉ row) :
 lines (printed textMode rows)=rows.map (· ++ carriage textMode) := by
 induction rows with
 | nil => rfl
 | cons row rows ih =>
  have clean:newline ∉ row++carriage textMode:=by
   rw [List.mem_append,not_or]
   exact ⟨solid row (by simp),newline_not_mem_carriage textMode⟩
  have shape : printed textMode (row::rows) =
   (row++carriage textMode)++newline::printed textMode rows := by
   cases textMode <;> simp [printed,carriage]
  rw [shape,lines_line clean,ih fun other member=>solid other (by simp [member])]
  rfl

lemma word_record {name:List UInt8} {fields:List UInt8} (filled:name≠[])
 (solid:(name.all fun byte => !isBlank byte)=true) (stop:Stops (!isBlank ·) fields) :
 word { rest := name++fields }=some (name, .ahead fields) := by
 have none:∀byte∈([] : List UInt8),isBlank byte=true:=by simp
 exact word_run none filled (by simpa using solid) stop

def usageOf (mapping : Mapping) : ProcessUsage where
 pid := mapping.pid
 processName := byteText mapping.processName
 virtualAddress := mapping.virtualAddress
 pteAddress := mapping.pteAddress
 pageSize := 0x1000
 mappingType := byteText mapping.type
 source := "memprocfs-bridge"
 confidence := confidenceOf mapping.confidence
 shared := mapping.shared
 writable := mapping.writable
 userAccessible := mapping.userAccessible
 noExecute := mapping.noExecute

lemma flagDigit_le (flag:Bool) : flagDigit flag≤1 := by
 cases flag <;> decide

lemma flagDigit_beq (flag:Bool) : (flagDigit flag == 1)=flag := by
 cases flag <;> rfl

lemma newline_not_mem_decimal (n:ℕ) : newline ∉ decimal n := fun member =>
 absurd (digit_plain (isDigit_of_mem_decimal member)).1 (by decide)

lemma newline_not_mem_record {name:List UInt8} {fields:List (List UInt8)}
 (here:newline ∉ name) (there:∀field∈fields,newline ∉ field) :
 newline ∉ record name fields := by
 rw [record,List.mem_append,List.mem_flatMap,not_or]
 refine ⟨here,?_⟩
 rintro ⟨field,member,found⟩
 rcases List.mem_cons.1 found with same|found
 · exact absurd same (by decide)
 · exact there field member found

section Response
variable {mapping:Mapping} (textMode:Bool)

lemma parseHeader_headerLine (requested:UInt32) :
 parseHeader requested.toUInt64 (headerLine requested++carriage textMode)=.ok () := by
 have shape : headerLine requested++carriage textMode =
  headerRecord++(numbers [1,requested.toNat]++carriage textMode) := by
  have one : utf8 ['1']=decimal 1 := by decide
  simp [headerLine,record,numbers,headerRecord,one]
 have stop:=stops_numbers [1,requested.toNat] (stops_carriage textMode)
 have fits : List.Forall₂ (fun width n=>n<2^width) [32,64] [1,requested.toNat] :=
  .cons (by decide) (.cons (requested.toNat_lt.trans (by decide)) .nil)
 rw [parseHeader,shape,word_record (by decide) (by decide) stop]
 dsimp only
 rw [readDecimals_run fits (stops_carriage textMode)]
 dsimp only
 rw [if_neg (by simp),eof_ahead_carriage]
 rfl

def mapNumbers (mapping : Mapping) : List ℕ :=
 [mapping.pid.toNat,mapping.virtualAddress.toNat,mapping.pteAddress.toNat,0x1000,
  mapping.confidence,flagDigit mapping.shared,flagDigit mapping.writable,
  flagDigit mapping.userAccessible,flagDigit mapping.noExecute]

lemma parseMap_mapping (sure:mapping.confidence≤3) :
 parseMap (.ahead (numbers (mapNumbers mapping)++MemProcFsBridge.tab ::
  (quoted mapping.type++MemProcFsBridge.tab ::
   (quoted mapping.processName++carriage textMode))))=.ok (usageOf mapping) := by
 have flag (flag:Bool) : flagDigit flag<2^32 :=
  (flagDigit_le flag).trans_lt (by decide)
 have fits : List.Forall₂ (fun width n=>n<2^width) mapWidths (mapNumbers mapping) :=
  .cons mapping.pid.toNat_lt (.cons mapping.virtualAddress.toNat_lt
   (.cons mapping.pteAddress.toNat_lt (.cons (by decide) (.cons (sure.trans_lt (by decide))
    (.cons (flag _) (.cons (flag _) (.cons (flag _) (.cons (flag _) .nil))))))))
 rw [parseMap,readDecimals_run fits (stops_cons rfl)]
 dsimp only [mapNumbers,Input.ahead,List.isEmpty_cons]
 rw [quotedField_run]
 dsimp only
 rw [quotedField_run]
 dsimp only
 have good : ¬((ws { rest := carriage textMode }).eof=false ∨ 3 < mapping.confidence ∨
  1 < flagDigit mapping.shared ∨ 1 < flagDigit mapping.writable ∨
  1 < flagDigit mapping.userAccessible ∨ 1 < flagDigit mapping.noExecute ∨
  isAllowedPageSize 0x1000=false) := by
  have shared:=flagDigit_le mapping.shared
  have writable:=flagDigit_le mapping.writable
  have user:=flagDigit_le mapping.userAccessible
  have nx:=flagDigit_le mapping.noExecute
  rw [eof_carriage]
  simp only [reduceCtorEq,false_or,not_or,Nat.not_lt]
  exact ⟨sure,shared,writable,user,nx,by decide⟩
 rw [if_neg good]
 simp only [flagDigit_beq,UInt32.ofNat_toNat,UInt64.ofNat_toNat]
 rfl

lemma parseRows_mapping (sure:mapping.confidence≤3) {limit:ℕ} (room:limit≠0) :
 parseRows limit [] [mapLine mapping++carriage textMode,endLine++carriage textMode] =
  .ok ([usageOf mapping],[]) := by
 have shape : mapLine mapping++carriage textMode=mapRecord++(numbers (mapNumbers mapping) ++
  MemProcFsBridge.tab::(quoted mapping.type++MemProcFsBridge.tab ::
   (quoted mapping.processName++carriage textMode))) := by
  simp [mapLine,record,numbers,mapRecord,mapNumbers]
 have ended : word { rest := endLine++carriage textMode } =
  some (endRecord, .ahead (carriage textMode)) :=
  word_record (by decide) (by decide) (stops_carriage textMode)
 rw [parseRows,shape,word_record (by decide) (by decide) (stops_numbers _ (stops_cons rfl))]
 dsimp only
 rw [if_neg (by decide),if_neg (by decide),if_neg (by simp),
  if_neg (by simpa using room),parseMap_mapping textMode sure]
 dsimp only
 rw [parseRows,ended]
 dsimp only
 rw [eof_ahead_carriage]
 rfl

lemma parseOutput_mapping (requested:UInt32) (sure:mapping.confidence≤3)
 (solid:newline ∉ mapLine mapping) {limit:ℕ} (room:limit≠0) :
 parseOutput requested.toUInt64
  (printed textMode [headerLine requested,mapLine mapping,endLine]) limit =
  .ok { pfn := requested.toUInt64,mappings := [usageOf mapping],
        provider := "memprocfs-bridge" } := by
 have header:newline ∉ headerLine requested:=by
  refine newline_not_mem_record (by decide) fun _ member => ?_
  rcases List.mem_pair.1 member with rfl|rfl
  · decide
  · exact newline_not_mem_decimal _
 have rows:∀row∈[headerLine requested,mapLine mapping,endLine],newline ∉ row:=by
  intro _ member
  simp only [List.mem_cons,List.not_mem_nil,or_false] at member
  rcases member with rfl|rfl|rfl
  · exact header
  · exact solid
  · decide
 rw [parseOutput,if_neg room,lines_printed rows]
 rw [List.map_cons,List.map_cons,List.map_cons,List.map_nil]
 dsimp only
 rw [parseHeader_headerLine,parseRows_mapping textMode sure room]
 rfl

end Response

lemma newline_not_mem_extendedTypeName (type:UInt32) : newline ∉ extendedTypeName type := by
 unfold extendedTypeName
 split <;> decide

lemma newline_not_mem_protocolText (value:List UInt8) : newline ∉ protocolText value := by
 intro member
 obtain ⟨_,-,same⟩:=List.mem_map.1 member
 unfold protocolByte at same
 split at same
 · exact absurd same (by decide)
 · rename_i plain
   subst same
   exact plain (by decide)

lemma newline_not_mem_mapLine (processString:UInt32→Option (List UInt8)) (entry:PfnEntry) :
 newline ∉ mapLine (mappingOf processString entry) := by
 have name:newline ∉ (mappingOf processString entry).processName:=by
  simp only [mappingOf]
  split
  · simp
  · exact newline_not_mem_protocolText _
 refine newline_not_mem_record (by decide) fun _ member => ?_
 simp only [List.mem_cons,List.not_mem_nil,or_false] at member
 rcases member with rfl|rfl|rfl|rfl|rfl|rfl|rfl|rfl|rfl|rfl|rfl
 iterate 9 exact newline_not_mem_decimal _
 · exact mt (mem_quoted (by decide) (by decide)).1 (newline_not_mem_extendedTypeName _)
 · exact mt (mem_quoted (by decide) (by decide)).1 name

lemma confidence_mappingOf (processString:UInt32→Option (List UInt8)) (entry:PfnEntry) :
 (mappingOf processString entry).confidence≤3 := by
 simp only [mappingOf]
 split_ifs <;> decide

lemma respond_eq_ok {requested:UInt32} {map:PfnMap}
 {processString:UInt32→Option (List UInt8)} {good:Bool} {rows:List (List UInt8)}
 (h:respond requested map processString good=.ok rows) :
 ∃ entry∈map.entries,entry.pfn=requested ∧
  rows=[headerLine requested,mapLine (mappingOf processString entry),endLine] := by
 unfold respond at h
 split at h
 · cases h
 rename_i compatible
 have single:map.count.toNat=1:=by
  obtain ⟨-,count⟩:=not_or.1 compatible
  rw [not_not.1 count]
  rfl
 dsimp only at h
 rw [single] at h
 split at h
 · cases h
 rename_i found
 split at h
 · cases h
 cases h
 cases listed:map.entries with
 | nil => simp [listed] at found
 | cons entry =>
  by_cases same:entry.pfn=requested
  · exact ⟨entry,by simp,same,by simp [same]⟩
  · simp [listed,same] at found

/-- The provider reads from the response to a successful query what the bridge has printed. -/
def ResponseConveyed (requested : UInt32) (map : PfnMap)
 (processString : UInt32→Option (List UInt8)) (rows : List (List UInt8)) : Prop :=
 ∃ entry∈map.entries,entry.pfn=requested ∧
  rows=[headerLine requested,mapLine (mappingOf processString entry),endLine] ∧
  ∀ textMode limit,limit≠0 →
   parseOutput requested.toUInt64 (printed textMode rows) limit =
    .ok { pfn := requested.toUInt64,mappings := [usageOf (mappingOf processString entry)],
          provider := "memprocfs-bridge" }

/-- The path of a file: it holds neither a null nor a quotation mark. -/
def PlainPath (path : List UInt16) : Prop := 0 ∉ path ∧ CommandLine.quote ∉ path

lemma options_conveyed {bridge line:List UInt16} {configuration:MemProcFsConfiguration}
 {pfn:UInt32} (path:PlainPath bridge)
 (valid:validateConfiguration configuration=.ok ())
 (command:commandLine bridge configuration pfn=.ok line) (configured:List UInt16) :
 OptionsConveyed configuration pfn (defaultDevice configured)
  (parseOptions configured (CommandLine.split line)) := by
 have checked:=validateConfiguration_eq_ok valid
 obtain ⟨_,collected,appended⟩:=Fallible.exists_of_bind command
 obtain rfl := bridgeArguments_eq_ok collected
 exact parseOptions_conveyed checked configured
  (split_commandLine path (clean_texts checked pfn) appended)

/-- Every configuration arrives at the bridge, unless the bridge refuses the path of the library
 or its own default device, and every response arrives at the provider. -/
theorem memprocfs_exchange :
 (∀ (bridge line : List UInt16) (configuration : MemProcFsConfiguration) (pfn : UInt32)
  (configured : List UInt16),PlainPath bridge →
  validateConfiguration configuration=.ok () →
  commandLine bridge configuration pfn=.ok line →
  OptionsConveyed configuration pfn (defaultDevice configured)
   (parseOptions configured (CommandLine.split line))) ∧
 ∀ (requested : UInt32) (map : PfnMap) (processString : UInt32→Option (List UInt8))
  (good : Bool) (rows : List (List UInt8)),
  respond requested map processString good=.ok rows →
  ResponseConveyed requested map processString rows := by
 refine ⟨fun _ _ _ _ configured path valid command =>
  options_conveyed path valid command configured,fun requested _ _ _ _ h => ?_⟩
 obtain ⟨entry,member,same,rfl⟩ := respond_eq_ok h
 exact ⟨entry,member,same,rfl,fun textMode _ room =>
  parseOutput_mapping textMode requested (confidence_mappingOf _ _)
   (newline_not_mem_mapLine _ _) room⟩

def sampleBridge : List UInt16 := utf16 ['b','r','i','d','g','e']

lemma sampleBridge_plain : PlainPath sampleBridge := by
 unfold PlainPath
 decide

/-- A device with a blank, and two more arguments: a backslash before a quotation mark, and
 nothing. -/
def sampleConfiguration : MemProcFsConfiguration where
 device := some (utf8 ['a',Char.ofNat 0x20,'b'])
 vmmArguments := [utf8 [Char.ofNat 0x5C,Char.ofNat 0x22],utf8 []]

lemma sampleConfiguration_valid : validateConfiguration sampleConfiguration=.ok () := by
 have ascii:∀bytes : List UInt8,bytes.all (· ≤ 0x7F)=true → isValidUtf8 bytes=true:=by
  intro bytes all
  induction bytes with
  | nil => rw [isValidUtf8]
  | cons _ _ ih =>
   simp only [List.all_cons,Bool.and_eq_true,decide_eq_true_eq] at all
   rw [isValidUtf8,if_pos all.1]
   exact ih all.2
 have device:=ascii (utf8 ['a',Char.ofNat 0x20,'b']) (by decide)
 have first:=ascii (utf8 [Char.ofNat 0x5C,Char.ofNat 0x22]) (by decide)
 have second:=ascii (utf8 []) (by decide)
 simp only [validateConfiguration,sampleConfiguration,validateOptional,validateArguments,
  validateDevice,validateArgument,validateUtf8Value,Result.seq_eq_ok,Result.check_eq_ok,
  device,first,second]
 decide

lemma sampleConfiguration_command :
 ∃ line,commandLine sampleBridge sampleConfiguration 7=.ok line := by
 have collected : bridgeArguments sampleConfiguration 7=.ok
  [deviceOption,utf16 ['a',Char.ofNat 0x20,'b'],vmmArgumentOption,
   utf16 [Char.ofNat 0x5C,Char.ofNat 0x22],vmmArgumentOption,utf16 [],pfnOption,
   wideDecimal 7] := by
  rfl
 have command : commandLine sampleBridge sampleConfiguration 7=_ :=
  congrArg (· >>= appendArguments (quoteWindowsArgument sampleBridge)) collected
 exact ⟨_,command.trans rfl⟩

/-- An entry of a process whose name holds a quotation mark and a control byte. -/
def samplePfnEntry : PfnEntry :=
 { pfn := 7,extendedType := 2,pid := 4,virtualAddress := 0x1000,originalPte := 2 }

def sampleName (_ : UInt32) : Option (List UInt8) := some [0x5C,0x61,0x22,0x0A]

theorem sampleConfiguration_exchanged :
 (∃ line,commandLine sampleBridge sampleConfiguration 7=.ok line ∧
  parseOptions [] (CommandLine.split line) =
   .ok (askedOptions sampleConfiguration 7 (defaultDevice []))) ∧
 ∃ rows,respond 7 ⟨1,1,[samplePfnEntry]⟩ sampleName true=.ok rows ∧
  ResponseConveyed 7 ⟨1,1,[samplePfnEntry]⟩ sampleName rows := by
 obtain ⟨line,command⟩ := sampleConfiguration_command
 have conveyed := memprocfs_exchange.1 _ _ _ _ [] sampleBridge_plain sampleConfiguration_valid command
 refine ⟨⟨line,command,conveyed.options (fun _ named=>(nomatch named)) fun none => ?_⟩,
  _,rfl,memprocfs_exchange.2 _ _ _ true _ rfl⟩
 cases none

/-- Nothing is configured, and the environment names a device that looks like an option: the bridge
 refuses its own default. -/
theorem dashDevice_refused : validateConfiguration {}=.ok () ∧ ∃ line,
 commandLine sampleBridge {} 7=.ok line ∧
 parseOptions (utf16 ['-','x']) (CommandLine.split line) =
  .error (.failed "Configured MemProcFS device is empty or too long") := by
 have command : ∃ line,commandLine sampleBridge {} 7=.ok line := ⟨_,rfl⟩
 obtain ⟨line,command⟩ := command
 have conveyed := options_conveyed sampleBridge_plain rfl command (utf16 ['-','x'])
 exact ⟨rfl,line,command,
  conveyed.deviceRefused (fun _ named=>(nomatch named)) rfl (.inl rfl)⟩

end KDbg
