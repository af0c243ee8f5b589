import KDbg.MemProcFsProvider
set_option autoImplicit false
/-!
# The MemProcFS bridge

The bridge is a program of its own. It takes the page frame, the acquisition device and the
arguments of `VMMDLL_Initialize` from its command line, and prints what MemProcFS knows about
the frame in lines of text.
-/
namespace KDbg.MemProcFsBridge
open WideText TextStream

def kPfnMapVersion : UInt32 := 1
def kMaxCommandArgumentBytes : ℕ := 32*1024
def kMaxVmmArguments : ℕ := 64
def kMaxProtocolNameBytes : ℕ := 1024

/-- `WideCharToMultiByte` with `WC_ERR_INVALID_CHARS`, or nothing. -/
def wideToUtf8 (value : List UInt16) : List UInt8 := ((ofUtf16 value).map utf8).getD []

def baseName (path : List UInt8) : List UInt8 :=
 (path.reverse.takeWhile fun byte=>byte != 0x2F && byte != 0x5C).reverse

def protocolByte (byte : UInt8) : UInt8 := if byte<0x20 ∨ byte=0x7F then 0x3F else byte

def protocolText (value : List UInt8) : List UInt8 :=
 (value.take kMaxProtocolNameBytes).map protocolByte

structure Options where
 pfn : Option UInt32 := none
 device : List UInt16
 vmmPath : List UInt16 := []
 vmmArguments : List (List UInt16) := []
deriving DecidableEq,Repr

/-- How the program ends without options: it fails, or prints its usage. -/
inductive Exit where
 | failed (message : String)
 | helped
deriving DecidableEq,Repr

def digitOf (base : ℕ) (unit : UInt16) : Option ℕ :=
 if 0x30 ≤ unit ∧ unit≤0x39 then some (unit.toNat-0x30)
 else if base=16 ∧ 0x61 ≤ unit ∧ unit≤0x66 then some (unit.toNat-0x61+10)
 else if base=16 ∧ 0x41 ≤ unit ∧ unit≤0x46 then some (unit.toNat-0x41+10)
 else none

def parseDigits (base parsed : ℕ) : List UInt16→Option ℕ
 | [] => some parsed
 | unit::units =>
  (digitOf base unit).bind fun digit =>
   if base ≤ digit ∨ (2^64-1-digit)/base < parsed then none
   else parseDigits base (parsed*base+digit) units

def hasHexMark (text : List UInt16) : Bool :=
 decide (2 < text.length) && text.head? == some 0x30 &&
  (text.tail.head? == some 0x78 || text.tail.head? == some 0x58)

def parseUnsigned (text : List UInt16) : Option ℕ :=
 if text=[] then none
 else if hasHexMark text then parseDigits 16 0 (text.drop 2)
 else parseDigits 10 0 text

def lower (unit : UInt16) : UInt16 := if 0x41 ≤ unit ∧ unit≤0x5A then unit+0x20 else unit

def asciiEqualInsensitive (left right : List UInt16) : Bool :=
 left.length == right.length && (left.zip right).all fun (l,r)=>lower l == lower r

def controlledNames : List (List Char) :=
 [['-','d','e','v','i','c','e'],['-','-','d','e','v','i','c','e'],
  ['-','w','a','i','t','i','n','i','t','i','a','l','i','z','e'],
  ['-','-','w','a','i','t','i','n','i','t','i','a','l','i','z','e'],
  ['-','d','i','s','a','b','l','e','-','p','y','t','h','o','n'],
  ['-','-','d','i','s','a','b','l','e','-','p','y','t','h','o','n']]

def isProviderControlledVmmArgument (argument : List UInt16) : Bool :=
 controlledNames.any fun name=>asciiEqualInsensitive argument (utf16 name)

inductive Flag where
 | pfn
 | device
 | vmm
 | vmmArgument
deriving DecidableEq,Repr

def Flag.name : Flag→String
 | .pfn => "--pfn"
 | .device => "--device"
 | .vmm => "--vmm"
 | .vmmArgument => "--vmm-arg"

def Flag.text : Flag→List UInt16
 | .pfn => utf16 ['-','-','p','f','n']
 | .device => utf16 ['-','-','d','e','v','i','c','e']
 | .vmm => utf16 ['-','-','v','m','m']
 | .vmmArgument => utf16 ['-','-','v','m','m','-','a','r','g']

def flagOf (argument : List UInt16) : Option Flag :=
 [Flag.pfn, .device, .vmm, .vmmArgument].find? fun flag=>argument=flag.text

def helpTexts : List (List UInt16) := [utf16 ['-','-','h','e','l','p'],utf16 ['-','h']]

/-- The options that were read, and which of the two that may come only once were among them. -/
structure Parsing where
 options : Options
 sawDevice : Bool := false
 sawVmm : Bool := false
deriving DecidableEq,Repr

def Parsing.seen (parsing : Parsing) : Flag→Bool
 | .pfn => parsing.options.pfn.isSome
 | .device => parsing.sawDevice
 | .vmm => parsing.sawVmm
 | .vmmArgument => false

/-- A text that does not convert to UTF-8, or not to few enough bytes. -/
def Oversized (text : List UInt16) : Prop :=
 (text≠[] ∧ wideToUtf8 text=[]) ∨ kMaxCommandArgumentBytes<(wideToUtf8 text).length

instance (text : List UInt16) : Decidable (Oversized text) :=
 inferInstanceAs (Decidable (_ ∨ _))

def takeValue (parsing : Parsing) (value : List UInt16) : Flag→Except Exit Parsing
 | .pfn =>
  if 32 < value.length then .error (.failed "--pfn is too long")
  else match parseUnsigned value with
   | none => .error (.failed "--pfn is invalid or exceeds 32 bits")
   | some parsed =>
    if 0xFFFFFFFF < parsed then .error (.failed "--pfn is invalid or exceeds 32 bits")
    else .ok { parsing with options.pfn := some (UInt32.ofNat parsed) }
 | .device =>
  if value=[] ∨ value.head?=some 0x2D ∨ wideToUtf8 value=[] ∨
   kMaxCommandArgumentBytes<(wideToUtf8 value).length then
   .error (.failed "--device is empty, option-like, or too long")
  else .ok { parsing with options.device := value,sawDevice := true }
 | .vmm =>
  if value=[] ∨ wideToUtf8 value=[] ∨
   kMaxCommandArgumentBytes<(wideToUtf8 value).length then
   .error (.failed "--vmm is empty or too long")
  else .ok { parsing with options.vmmPath := value,sawVmm := true }
 | .vmmArgument =>
  if kMaxVmmArguments ≤ parsing.options.vmmArguments.length ∨ Oversized value then
   .error (.failed "Too many or oversized --vmm-arg values")
  else if isProviderControlledVmmArgument value then
   .error (.failed "--vmm-arg must not override provider-controlled options")
  else .ok { parsing with
   options.vmmArguments := parsing.options.vmmArguments++[value] }

/-- The loop of `ParseOptions` over the arguments after the first. -/
def parseArguments (parsing : Parsing) : List (List UInt16)→Except Exit Parsing
 | [] => .ok parsing
 | argument::arguments =>
  if Oversized argument then .error (.failed "Command-line argument exceeds the product cap")
  else match flagOf argument with
   | some flag =>
    if parsing.seen flag then .error (.failed (flag.name ++ " may be specified only once"))
    else match arguments with
     | [] => .error (.failed (flag.name ++ " requires a value"))
     | value::arguments =>
      match takeValue parsing value flag with
      | .error exit => .error exit
      | .ok parsing => parseArguments parsing arguments
   | none =>
    if argument∈helpTexts then .error .helped
    else .error (.failed ("Unknown argument: " ++
     byteText (protocolText (wideToUtf8 argument))))

/-- The device that is used without `--device`: the one of the environment, if it names one. -/
def defaultDevice (configured : List UInt16) : List UInt16 :=
 if configured=[] then utf16 ['p','m','e','m'] else configured

/-- `ParseOptions` where `KDBG_MEMPROCFS_DEVICE` is `configured`, empty if it is not set. -/
def parseOptions (configured : List UInt16) (arguments : List (List UInt16)) :
 Except Exit Options := do
 let parsing ← parseArguments { options := { device := defaultDevice configured } } arguments.tail
 let options := parsing.options
 if options.pfn=none then throw (.failed "--pfn is required")
 else if options.device=[] ∨ options.device.head?=some 0x2D ∨
  wideToUtf8 options.device=[] ∨
  kMaxCommandArgumentBytes<(wideToUtf8 options.device).length then
  throw (.failed "Configured MemProcFS device is empty or too long")
 else return options

structure PfnEntry where
 pfn : UInt32
 extendedType : UInt32 := 0
 pid : UInt32 := 0
 virtualAddress : UInt64 := 0
 pteAddress : UInt64 := 0
 originalPte : UInt64 := 0
deriving DecidableEq,Repr

structure PfnMap where
 version : UInt32
 count : UInt32
 entries : List PfnEntry
deriving DecidableEq,Repr

def extendedTypeName (type : UInt32) : List UInt8 :=
 utf8 (match type.toNat with
  | 1 => ['u','n','u','s','e','d']
  | 2 => ['p','r','o','c','e','s','s','-','p','r','i','v','a','t','e']
  | 3 => ['p','a','g','e','-','t','a','b','l','e']
  | 4 => ['l','a','r','g','e','-','p','a','g','e']
  | 5 => ['d','r','i','v','e','r','-','l','o','c','k','e','d']
  | 6 => ['s','h','a','r','e','a','b','l','e']
  | 7 => ['f','i','l','e','-','b','a','c','k','e','d']
  | _ => ['u','n','k','n','o','w','n'])

structure Mapping where
 pid : UInt32
 virtualAddress : UInt64
 pteAddress : UInt64
 confidence : ℕ
 shared : Bool
 writable : Bool
 userAccessible : Bool
 noExecute : Bool
 type : List UInt8
 processName : List UInt8
deriving DecidableEq,Repr

/-- `processString` is what `VMMDLL_ProcessGetInformationString` gives for a process. -/
def mappingOf (processString : UInt32→Option (List UInt8)) (entry : PfnEntry) : Mapping :=
 let addressHasPid := entry.extendedType != 3 && entry.extendedType != 1
 let pid := if addressHasPid then entry.pid else 0
 let va := if addressHasPid then entry.virtualAddress else 0
 { pid
   virtualAddress := va
   pteAddress := entry.pteAddress
   confidence := if pid≠0 ∧ va≠0 then 3 else if pid≠0 then 2 else 1
   shared := entry.extendedType == 6 || entry.extendedType == 7
   writable := entry.originalPte.toNat.testBit 1
   userAccessible := entry.originalPte.toNat.testBit 2
   noExecute := entry.originalPte.toNat.testBit 63
   type := extendedTypeName entry.extendedType
   processName := match if pid≠0 then processString pid else none with
    | none => []
    | some name => protocolText (baseName name) }

def flagDigit (flag : Bool) : ℕ := if flag then 1 else 0

def tab : UInt8 := 0x09

/-- A record: its name and fields, with tabs between them. -/
def record (name : List UInt8) (fields : List (List UInt8)) : List UInt8 :=
 name++fields.flatMap (tab :: ·)

def headerLine (requested : UInt32) : List UInt8 :=
 record (utf8 ['K','D','B','G','_','P','F','N','_','R','E','S','U','L','T'])
  [utf8 ['1'],decimal requested.toNat]

def mapLine (mapping : Mapping) : List UInt8 :=
 record (utf8 ['M','A','P'])
  [decimal mapping.pid.toNat,decimal mapping.virtualAddress.toNat,
   decimal mapping.pteAddress.toNat,decimal 0x1000,decimal mapping.confidence,
   decimal (flagDigit mapping.shared),decimal (flagDigit mapping.writable),
   decimal (flagDigit mapping.userAccessible),decimal (flagDigit mapping.noExecute),
   quoted mapping.type,quoted mapping.processName]

def endLine : List UInt8 := utf8 ['E','N','D']

/-- What `main` prints once MemProcFS has answered; `good` is the state of the stream after it. -/
def respond (requested : UInt32) (map : PfnMap) (processString : UInt32→Option (List UInt8))
 (good : Bool) : Except String (List (List UInt8)) :=
 if map.version≠kPfnMapVersion ∨ map.count≠1 then
  .error ("MemProcFS returned an incompatible PFN map (version=" ++
   toString map.version.toNat ++ ", count=" ++ toString map.count.toNat ++ ")")
 else
  let entries := (map.entries.take map.count.toNat).filter (·.pfn=requested)
  if entries=[] then .error "MemProcFS PFN map did not contain the requested PFN"
  else if !good then .error "Failed while writing the bridge protocol response"
  else .ok (headerLine requested ::
   (entries.map fun entry=>mapLine (mappingOf processString entry))++[endLine])

/-- The bytes of the lines: standard output in text mode ends them with a carriage return and
 a line feed. -/
def printed (textMode : Bool) (lines : List (List UInt8)) : List UInt8 :=
 lines.flatMap fun line=>line++if textMode then [0x0D,newline] else [newline]

end KDbg.MemProcFsBridge
