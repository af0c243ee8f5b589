import KDbg.AddressList
import KDbg.CommandLine
import KDbg.PageTableReverseMapper
import KDbg.WideText
set_option autoImplicit false
/-!
# The provider's side of the MemProcFS bridge

`MemProcFsProvider` starts the bridge with its configuration and a PFN on the command line, and
reads the mappings of that page frame from what the bridge prints.
-/
namespace KDbg
open WideText

def byteText (bytes : List UInt8) : String := String.ofList (bytes.map Char.ofUInt8)

structure MemProcFsConfiguration where
 device : Option (List UInt8) := none
 vmmPath : Option (List UInt16) := none
 vmmArguments : List (List UInt8) := []
deriving DecidableEq,Repr

namespace MemProcFsProvider

def kMaxProtocolMappings : ℕ := 4096
def kMaxVmmArguments : ℕ := 64
def kMaxBridgeConfigurationArguments : ℕ := kMaxVmmArguments*2+4
def kMaxBridgeArguments : ℕ := kMaxBridgeConfigurationArguments+2
def kMaxBridgeArgumentBytes : ℕ := 32*1024
def kMaxWindowsCommandCharacters : ℕ := 32767

/-- How many bytes follow a first byte beyond 0x7F, and its own bits of the code point. -/
def leadByte (first : UInt8) : Option (ℕ×ℕ) :=
 if 0xC2 ≤ first ∧ first≤0xDF then some (1,first.toNat%0x20)
 else if 0xE0 ≤ first ∧ first≤0xEF then some (2,first.toNat%0x10)
 else if 0xF0 ≤ first ∧ first≤0xF4 then some (3,first.toNat%0x08)
 else none

def isContinuation (byte : UInt8) : Bool := byte.toNat/0x40 == 2

def codePoint (bits : ℕ) (continuation : List UInt8) : ℕ :=
 continuation.foldl (fun code byte=>code*0x40+byte.toNat%0x40) bits

def isValidUtf8 : List UInt8→Bool
 | [] => true
 | first::rest =>
  if first≤0x7F then isValidUtf8 rest
  else match leadByte first with
   | none => false
   | some (count,bits) =>
    if rest.length < count then false
    else if !(rest.take count).all isContinuation then false
    else
     let code := codePoint bits (rest.take count)
     if (count=2 ∧ code<0x800) ∨ (count=3 ∧ code<0x10000) ∨
      (0xD800 ≤ code ∧ code≤0xDFFF) ∨ 0x10FFFF < code then false
     else isValidUtf8 (rest.drop count)
termination_by bytes => bytes.length
decreasing_by
 · simp
 · simp only [List.length_drop,List.length_cons]
   omega

def lower (byte : UInt8) : UInt8 := if 0x41 ≤ byte ∧ byte≤0x5A then byte+0x20 else byte

def asciiEqualInsensitive (left right : List UInt8) : Bool :=
 left.length == right.length && (left.zip right).all fun (l,r)=>lower l == lower r

def operation : String := "MemProcFsProvider::ValidateConfiguration"

def validateUtf8Value (value : List UInt8) (label : String) (allowEmpty : Bool) : Result Unit := do
 Result.check ((allowEmpty=false ∧ value=[]) ∨ 0∈value)
  (makeError .invalidArgument (label ++ " is empty or contains an embedded NUL") operation)
 Result.check (kMaxBridgeArgumentBytes < value.length)
  (makeError .limitReached (label ++ " exceeds the product cap") operation 0
   (UInt64.ofNat kMaxBridgeArgumentBytes) (UInt64.ofNat value.length))
 Result.check (isValidUtf8 value=false)
  (makeError .invalidArgument (label ++ " is not valid UTF-8") operation)

def validateDevice (device : List UInt8) : Result Unit := do
 validateUtf8Value device "MemProcFS device" false
 Result.check (device.head?=some 0x2D)
  (makeError .invalidArgument "MemProcFS device must not be option-like" operation)

def validatePath (path : List UInt16) : Result Unit := do
 Result.check (path=[]) (makeError .invalidArgument "MemProcFS vmm.dll path is empty" operation)
 Result.check (0∈path)
  (makeError .invalidArgument "MemProcFS vmm.dll path contains an embedded NUL" operation)

/-- The options of `VMMDLL_Initialize` that the bridge sets itself. -/
def controlledNames : List (List Char) :=
 [['-','d','e','v','i','c','e'],['-','-','d','e','v','i','c','e'],
  ['-','w','a','i','t','i','n','i','t','i','a','l','i','z','e'],
  ['-','-','w','a','i','t','i','n','i','t','i','a','l','i','z','e'],
  ['-','d','i','s','a','b','l','e','-','p','y','t','h','o','n'],
  ['-','-','d','i','s','a','b','l','e','-','p','y','t','h','o','n']]

def validateArgument (argument : List UInt8) : Result Unit := do
 validateUtf8Value argument "MemProcFS additional VMMDLL argument" true
 Result.check (controlledNames.any fun name=>asciiEqualInsensitive argument (utf8 name))
  (makeError .invalidArgument
   "MemProcFS additional arguments must not override provider-controlled options" operation)

def validateArguments : List (List UInt8)→Result Unit
 | [] => .ok ()
 | argument::arguments => do
  validateArgument argument
  validateArguments arguments

def validateOptional {α : Type} (validate : α→Result Unit) : Option α→Result Unit
 | none => .ok ()
 | some value => validate value

def validateConfiguration (configuration : MemProcFsConfiguration) : Result Unit := do
 Result.check (kMaxVmmArguments < configuration.vmmArguments.length)
  (makeError .limitReached "MemProcFS --vmm-arg count exceeds the product cap" operation 0
   (UInt64.ofNat kMaxVmmArguments) (UInt64.ofNat configuration.vmmArguments.length))
 validateOptional validateDevice configuration.device
 validateOptional validatePath configuration.vmmPath
 validateArguments configuration.vmmArguments

/-- `MultiByteToWideChar` with `MB_ERR_INVALID_CHARS`, or nothing. -/
def utf8ToWide (value : List UInt8) : List UInt16 := ((ofUtf8 value).map utf16).getD []

/-- The loop of `QuoteWindowsArgument`, after so many backslashes. -/
def quoteRest (slashes : ℕ) : List UInt16→List UInt16
 | [] => CommandLine.slashes (slashes*2)++[CommandLine.quote]
 | unit::units =>
  if unit=CommandLine.backslash then quoteRest (slashes+1) units
  else if unit=CommandLine.quote then
   CommandLine.slashes (slashes*2+1)++CommandLine.quote::quoteRest 0 units
  else CommandLine.slashes slashes++unit::quoteRest 0 units

def quoteWindowsArgument (value : List UInt16) : List UInt16 :=
 if value=[] then [CommandLine.quote,CommandLine.quote]
 else if value.all fun unit => !CommandLine.isBlank unit && unit != CommandLine.quote then value
 else CommandLine.quote::quoteRest 0 value

def pfnOption : List UInt16 := utf16 ['-','-','p','f','n']
def deviceOption : List UInt16 := utf16 ['-','-','d','e','v','i','c','e']
def vmmOption : List UInt16 := utf16 ['-','-','v','m','m']
def vmmArgumentOption : List UInt16 := utf16 ['-','-','v','m','m','-','a','r','g']

def wideDecimal (n : ℕ) : List UInt16 := (TextStream.decimal n).map UInt8.toUInt16

def executeError (code : ErrorCode) (message : String) (requested : ℕ := 0) (completed : ℕ := 0) :
 Error :=
 makeError code message "MemProcFsProvider::Execute" 0 (UInt64.ofNat requested)
  (UInt64.ofNat completed)

def deviceArguments : Option (List UInt8)→Result (List (List UInt16))
 | none => .ok []
 | some device => do
  Result.check (utf8ToWide device=[])
   (executeError .invalidArgument "MemProcFS device could not be converted to UTF-16")
  return [deviceOption,utf8ToWide device]

def additionalArguments : List (List UInt8)→Result (List (List UInt16))
 | [] => .ok []
 | argument::arguments => do
  Result.check (argument≠[] ∧ utf8ToWide argument=[])
   (executeError .invalidArgument
    "MemProcFS additional argument could not be converted to UTF-16")
  let rest ← additionalArguments arguments
  return vmmArgumentOption::utf8ToWide argument::rest

/-- The arguments of the bridge, as `Execute` collects them. -/
def bridgeArguments (configuration : MemProcFsConfiguration) (pfn : UInt32) :
 Result (List (List UInt16)) := do
 let device ← deviceArguments configuration.device
 let path := match configuration.vmmPath with
  | none => []
  | some path => [vmmOption,path]
 let additional ← additionalArguments configuration.vmmArguments
 let arguments := device++path++additional++[pfnOption,wideDecimal pfn.toNat]
 Result.check (kMaxBridgeArguments < arguments.length)
  (executeError .limitReached "MemProcFS bridge argument count exceeds the product cap"
   kMaxBridgeArguments arguments.length)
 return arguments

def appendArguments (command : List UInt16) : List (List UInt16)→Result (List UInt16)
 | [] => .ok command
 | argument::arguments =>
  let command := command++CommandLine.space::quoteWindowsArgument argument
  if kMaxWindowsCommandCharacters ≤ command.length then
   .error (executeError .limitReached
    "MemProcFS bridge command line exceeds the Windows limit"
    (kMaxWindowsCommandCharacters-1) command.length)
  else appendArguments command arguments

/-- The command line that `Execute` starts the bridge with. -/
def commandLine (bridge : List UInt16) (configuration : MemProcFsConfiguration) (pfn : UInt32) :
 Result (List UInt16) := do
 let arguments ← bridgeArguments configuration pfn
 appendArguments (quoteWindowsArgument bridge) arguments

section Response
open TextStream

def isAllowedPageSize (size : ℕ) : Bool := size == 0x1000 || size == 0x200000 || size == 0x40000000

/-- A word of decimal digits, without a sign, whose value has so many bits. -/
def readDecimal (width : ℕ) (s : Input) : Option (ℕ×Input) :=
 (word s).bind fun (token,rest) =>
  if token.head?=some 0x2B ∨ token.head?=some 0x2D then none
  else if token=[] ∨ token.all isDigit=false ∨ 2^width ≤ value token then none
  else some (value token,rest)

def readDecimals : List ℕ→Input→Option (List ℕ×Input)
 | [],s => some ([],s)
 | width::widths,s =>
  (readDecimal width s).bind fun (n,s) =>
   (readDecimals widths s).map fun (rest,s)=>(n::rest,s)

def quotedField (s : Input) : Option (List UInt8×Input) :=
 if (ws s).peek≠some quote then none else quotedText (ws s)

def headerRecord : List UInt8 :=
 utf8 ['K','D','B','G','_','P','F','N','_','R','E','S','U','L','T']
def endRecord : List UInt8 := utf8 ['E','N','D']
def errorRecord : List UInt8 := utf8 ['E','R','R','O','R']
def mapRecord : List UInt8 := utf8 ['M','A','P']

def parseOutputError (code : ErrorCode) (message : String) (requested : ℕ := 0)
 (completed : ℕ := 0) : Error :=
 makeError code message "MemProcFsProvider::ParseOutput" 0 (UInt64.ofNat requested)
  (UInt64.ofNat completed)

def parseHeader (expectedPfn : UInt64) (line : List UInt8) : Result Unit :=
 let invalid := parseOutputError .parseError "MemProcFS bridge returned an invalid protocol header"
 match word { rest := line } with
 | none => .error invalid
 | some (record,header) =>
  match readDecimals [32,64] header with
  | some ([protocol,pfn],header) =>
   if record≠headerRecord ∨ protocol≠1 ∨ pfn≠expectedPfn.toNat then .error invalid
   else if !(ws header).eof then
    .error (parseOutputError .parseError "MemProcFS bridge protocol header has trailing fields")
   else .ok ()
  | _ => .error invalid

def confidenceOf : ℕ→MappingConfidence
 | 1 => .low
 | 2 => .medium
 | 3 => .high
 | _ => .unknown

/-- The widths of the numbers of a `MAP` record: PID, virtual address, PTE address, page size,
 confidence, and the flags for shared, writable, user and no-execute. -/
def mapWidths : List ℕ := [32,64,64,64,32,32,32,32,32]

def parseMap (row : Input) : Result ProcessUsage :=
 match readDecimals mapWidths row with
 | some ([pid,virtualAddress,pteAddress,pageSize,confidence,shared,writable,user,nx],
  row) =>
  match quotedField row with
  | none => .error (parseOutputError .parseError
   "MemProcFS MAP record has an invalid mapping type")
  | some (mappingType,row) =>
   match quotedField row with
   | none => .error (parseOutputError .parseError
    "MemProcFS MAP record has an invalid process name")
   | some (processName,row) =>
    if (ws row).eof=false ∨ 3 < confidence ∨ 1 < shared ∨ 1 < writable ∨ 1 < user ∨
     1 < nx ∨ isAllowedPageSize pageSize=false then
     .error (parseOutputError .parseError
      "MemProcFS MAP record contains an invalid field value")
    else .ok {
     pid := UInt32.ofNat pid
     processName := byteText processName
     virtualAddress := UInt64.ofNat virtualAddress
     pteAddress := UInt64.ofNat pteAddress
     pageSize := UInt64.ofNat pageSize
     mappingType := byteText mappingType
     source := "memprocfs-bridge"
     confidence := confidenceOf confidence
     shared := shared == 1
     writable := writable == 1
     userAccessible := user == 1
     noExecute := nx == 1 }
 | _ => .error (parseOutputError .parseError "MemProcFS MAP record is malformed")

/-- An `ERROR` record is a failure in any case. -/
def parseErrorRecord (row : Input) : Error :=
 match quotedField row with
 | none => parseOutputError .parseError "MemProcFS ERROR record is malformed"
 | some (message,row) =>
  if !(ws row).eof then
   parseOutputError .parseError "MemProcFS ERROR record has trailing fields"
  else parseOutputError .bridgeUnavailable
   (if message=[] then "MemProcFS bridge reported an error" else byteText message)

/-- The records up to `END`: the mappings, and the lines that are left. -/
def parseRows (maxMappings : ℕ) (mappings : List ProcessUsage) :
 List (List UInt8)→Result (List ProcessUsage×List (List UInt8))
 | [] => .error (parseOutputError .parseError "MemProcFS bridge response is missing END")
 | line::lines =>
  match word { rest := line } with
  | none => parseRows maxMappings mappings lines
  | some (kind,row) =>
   if kind=endRecord then
    if !(ws row).eof then
     .error (parseOutputError .parseError "MemProcFS END record has trailing fields")
    else .ok (mappings,lines)
   else if kind=errorRecord then .error (parseErrorRecord row)
   else if kind≠mapRecord then
    .error (parseOutputError .parseError "MemProcFS bridge returned an unknown record")
   else if maxMappings ≤ mappings.length then
    .error (parseOutputError .limitReached "MemProcFS bridge returned too many mapping records"
     maxMappings (mappings.length+1))
   else match parseMap row with
    | .error error => .error error
    | .ok usage => parseRows maxMappings (mappings++[usage]) lines

def parseOutput (expectedPfn : UInt64) (output : List UInt8)
 (maxMappings : ℕ := kMaxProtocolMappings) : Result PfnUsageResult :=
 if maxMappings=0 then
  .error (parseOutputError .invalidArgument "MemProcFS protocol mapping limit must be non-zero")
 else match lines output with
  | [] => .error (parseOutputError .parseError "MemProcFS bridge response is empty")
  | header::rows => do
   parseHeader expectedPfn header
   let (mappings,trailing) ← parseRows maxMappings [] rows
   Result.check (trailing.any fun line => !(ws { rest := line }).eof)
    (parseOutputError .parseError "MemProcFS bridge response has records after END")
   return { pfn := expectedPfn,mappings,provider := "memprocfs-bridge" }

end Response
end MemProcFsProvider
end KDbg
