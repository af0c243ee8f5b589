import KDbg.PhysicalPage
import KDbg.TextStream
set_option autoImplicit false
/-!
# Scan values

Values of a scan as bytes in memory, the texts that stand for them, and how a
query compares them. A text is the byte sequence of a `std::string_view`. What
`strtold` makes of a text is left to the C library.
-/
namespace KDbg

inductive ScanValueType where
 | int8
 | uint8
 | int16
 | uint16
 | int32
 | uint32
 | int64
 | uint64
 | float
 | double
 | utf8
 | utf16
 | byteArray
deriving DecidableEq,Repr

inductive ScanCompare where
 | exact
 | notEqual
 | greaterThan
 | lessThan
 | between
 | unknownInitial
 | changed
 | unchanged
 | increased
 | decreased
 | increasedBy
 | decreasedBy
deriving DecidableEq,Repr

structure ScanQuery where
 type : ScanValueType := .int32
 comparison : ScanCompare := .exact
 value : List UInt8 := []
 secondValue : List UInt8 := []
 hexadecimal : Bool := false
 caseSensitive : Bool := true
 scanPrivate : Bool := true
 scanImage : Bool := true
 scanMapped : Bool := true
 requireWritable : Bool := false
 includeExecutable : Bool := true
 alignment : ℕ := 0
 maxResults : ℕ := 1000000
 chunkSize : ℕ := 1024*1024

def fixedValueWidth : ScanValueType→ℕ
 | .int8 | .uint8 => 1
 | .int16 | .uint16 => 2
 | .int32 | .uint32 | .float => 4
 | .int64 | .uint64 | .double => 8
 | .utf8 | .utf16 | .byteArray => 0

/-- `std::from_chars` on the whole of a text, without the sign: the digits of a base, in either
 case. -/
def digitValue (base : ℕ) (character : UInt8) : Option ℕ :=
 let value :=
  if 0x30 ≤ character ∧ character≤0x39 then some (character.toNat-0x30)
  else if 0x61 ≤ character ∧ character≤0x7A then some (character.toNat-0x57)
  else if 0x41 ≤ character ∧ character≤0x5A then some (character.toNat-0x37)
  else none
 value.filter (· < base)

def fromDigits (base : ℕ) (text : List UInt8) : Option ℕ :=
 if text=[] then none
 else text.foldlM (fun value character=>do
  let digit ← digitValue base character
  return value*base+digit) 0

/-- `std::from_chars` for a type of `size` bytes, if it reads the whole text. Only a signed type
 takes a minus sign. -/
def fromChars (signed : Bool) (size base : ℕ) (text : List UInt8) : Option ℤ :=
 match signed,text with
 | true,0x2D::digits => do
  let magnitude ← fromDigits base digits
  if magnitude≤2^(8*size-1) then some (-(magnitude : ℤ)) else none
 | true,text => do
  let value ← fromDigits base text
  if value<2^(8*size-1) then some (value : ℤ) else none
 | false,text => do
  let value ← fromDigits base text
  if value<2^(8*size) then some (value : ℤ) else none

def encodeInteger (signed : Bool) (size : ℕ) (text : List UInt8) (hexadecimal : Bool) :
 Result (List UInt8) :=
 let (text,base) := match text with
  | 0x30::0x78::rest | 0x30::0x58::rest => (rest,16)
  | text => (text,if hexadecimal then 16 else 10)
 if text.isEmpty then
  .error (makeError .parseError "Numeric scan value is empty" "EncodeInteger")
 else match fromChars signed size base text with
  | none => .error (makeError .parseError "Numeric scan value is invalid or out of range"
   "EncodeInteger")
  | some value => .ok (littleEndian size (value%2^(8*size)).toNat)

/-- `std::isspace` in the C locale. -/
def isSpace (character : UInt8) : Bool :=
 character == 0x20 || decide (0x09 ≤ character ∧ character≤0x0D)

/-- What `strtold` and the conversion to the type make of a text: nothing if it is not all a
 finite number within the limits of the type, and then the bits, unless they are infinite. -/
structure FloatingText where
 float : List UInt8→Option (Option UInt32)
 double : List UInt8→Option (Option UInt64)

def encodeFloating (size : ℕ) (convert : List UInt8→Option (Option ℕ)) (text : List UInt8) :
 Result (List UInt8) :=
 if text.isEmpty ∨ 128 < text.length ∨ text.head?.any isSpace ∨ text.getLast?.any isSpace then
  .error (makeError .parseError "Floating-point scan value is empty, padded, or too long"
   "EncodeFloating")
 else match convert text with
  | none => .error (makeError .parseError "Floating-point scan value is invalid" "EncodeFloating")
  | some none => .error (makeError .parseError "Floating-point scan value is out of range"
   "EncodeFloating")
  | some (some bits) => .ok (littleEndian size bits)

/-- The code units of a code point that has passed the checks. -/
def utf16Units (codePoint : ℕ) : List UInt16 :=
 if codePoint≤0xFFFF then [UInt16.ofNat codePoint]
 else
  let offset := codePoint-0x10000
  [UInt16.ofNat (0xD800+offset/0x400),UInt16.ofNat (0xDC00+offset%0x400)]

/-- The lead byte of a sequence: its share of the code point, and how many bytes follow. -/
def utf8Lead (first : UInt8) : Option (ℕ×ℕ) :=
 if first &&& 0x80=0 then some (first.toNat,0)
 else if first &&& 0xE0=0xC0 then some ((first &&& 0x1F).toNat,1)
 else if first &&& 0xF0=0xE0 then some ((first &&& 0x0F).toNat,2)
 else if first &&& 0xF8=0xF0 then some ((first &&& 0x07).toNat,3)
 else none

/-- The code point that `bytes` complete, if each of them continues a sequence. -/
def utf8Continue (codePoint : ℕ) (bytes : List UInt8) : Option ℕ :=
 bytes.foldlM (fun value next =>
  if next &&& 0xC0=0x80 then some (value*64+(next &&& 0x3F).toNat) else none) codePoint

/-- Not overlong, not past the last code point, not a surrogate. -/
def isScalar (continuations codePoint : ℕ) : Bool :=
 !((continuations == 1 && decide (codePoint<0x80)) ||
  (continuations == 2 && decide (codePoint<0x800)) ||
  (continuations == 3 && decide (codePoint<0x10000)) ||
  decide (0x10FFFF < codePoint) || decide (0xD800 ≤ codePoint ∧ codePoint≤0xDFFF))

/-- The loop of `Utf8ToUtf16`; every turn takes at least one byte, so the length of the input is
 fuel enough. -/
def utf8Loop : ℕ→List UInt8→Result (List UInt16)
 | 0,_ | _,[] => .ok []
 | fuel+1,first::rest =>
  match utf8Lead first with
  | none => .error (makeError .parseError "Invalid UTF-8 lead byte" "Utf8ToUtf16")
  | some (lead,continuations) =>
   if rest.length < continuations then
    .error (makeError .parseError "Truncated UTF-8 sequence" "Utf8ToUtf16")
   else match utf8Continue lead (rest.take continuations) with
    | none => .error (makeError .parseError "Invalid UTF-8 continuation byte" "Utf8ToUtf16")
    | some codePoint =>
     if !isScalar continuations codePoint then
      .error (makeError .parseError "Invalid UTF-8 code point" "Utf8ToUtf16")
     else do
      let units ← utf8Loop fuel (rest.drop continuations)
      return utf16Units codePoint++units

def utf8ToUtf16 (input : List UInt8) : Result (List UInt16) := utf8Loop input.length input

def kMaxAobPatternBytes : ℕ := 1024*1024

structure AobPattern where
 bytes : List UInt8 := []
 exact : List Bool := []
deriving DecidableEq,Repr

namespace AobPattern

def matchesInput (pattern : AobPattern) (input : List UInt8) : Bool :=
 if pattern.exact.length≠pattern.bytes.length ∨ input.length < pattern.bytes.length then false
 else (List.range pattern.bytes.length).all fun i =>
  !pattern.exact.getD i false || input[i]? == pattern.bytes[i]?

def push (pattern : AobPattern) (byte : UInt8) (exact : Bool) : AobPattern :=
 { bytes := pattern.bytes++[byte],exact := pattern.exact++[exact] }

end AobPattern

/-- One token of a pattern: a wildcard, or two digits. -/
def addAobToken (pattern : AobPattern) (token : List UInt8) : Result AobPattern :=
 if kMaxAobPatternBytes ≤ pattern.bytes.length then
  .error (makeError .limitReached "AOB pattern exceeds the product byte cap" "ParseAobPattern" 0
   (UInt64.ofNat kMaxAobPatternBytes) (UInt64.ofNat (pattern.bytes.length+1)))
 else if token=[0x3F] ∨ token=[0x3F,0x3F] ∨ token=[0x2A,0x2A] then
  .ok (pattern.push 0 false)
 else if token.length≠2 then
  .error (makeError .parseError "AOB tokens must be two hex digits or ??" "ParseAobPattern")
 else match fromDigits 16 token with
  | none => .error (makeError .parseError "Invalid AOB hex token" "ParseAobPattern")
  | some value => .ok (pattern.push (UInt8.ofNat value) true)

/-- The tokens of a text: what stands between white space. -/
def aobTokens (text : List UInt8) : List (List UInt8) :=
 (text.splitOnP isSpace).filter (· ≠ [])

def parseAobPattern (text : List UInt8) : Result AobPattern := do
 let pattern ← (aobTokens text).foldlM addAobToken {}
 if pattern.bytes=[] then
  .error (makeError .parseError "AOB pattern is empty" "ParseAobPattern")
 else return pattern

def kMaxTextValueBytes : ℕ := 1024*1024

section Encode
variable (library:FloatingText)

def encodeText (type : ScanValueType) (text : List UInt8) : Result (List UInt8) :=
 if kMaxTextValueBytes < text.length then
  .error (makeError .limitReached "Text scan value exceeds the product byte cap" "EncodeValue" 0
   (UInt64.ofNat kMaxTextValueBytes) (UInt64.ofNat text.length))
 else if type=.utf8 then .ok text
 else match utf8ToUtf16 text with
  | .error error => .error error
  | .ok units =>
   if kMaxTextValueBytes/2 < units.length then
    .error (makeError .limitReached "UTF-16 scan value exceeds the product byte cap"
     "EncodeValue")
   else .ok (units.flatMap fun unit=>littleEndian 2 unit.toNat)

def encodeValue (type : ScanValueType) (text : List UInt8) (hexadecimal : Bool) :
 Result (List UInt8) :=
 match type with
 | .int8 => encodeInteger true 1 text hexadecimal
 | .uint8 => encodeInteger false 1 text hexadecimal
 | .int16 => encodeInteger true 2 text hexadecimal
 | .uint16 => encodeInteger false 2 text hexadecimal
 | .int32 => encodeInteger true 4 text hexadecimal
 | .uint32 => encodeInteger false 4 text hexadecimal
 | .int64 => encodeInteger true 8 text hexadecimal
 | .uint64 => encodeInteger false 8 text hexadecimal
 | .float => encodeFloating 4 (fun text=>(library.float text).map (·.map (·.toNat))) text
 | .double => encodeFloating 8 (fun text=>(library.double text).map (·.map (·.toNat))) text
 | .utf8 => encodeText .utf8 text
 | .utf16 => encodeText .utf16 text
 | .byteArray =>
  match parseAobPattern text with
  | .error error => .error error
  | .ok pattern =>
   if false∈pattern.exact then
    .error (makeError .parseError "Wildcard AOB cannot be encoded as a concrete value"
     "EncodeValue")
   else .ok pattern.bytes

structure CompiledScanQuery where
 query : ScanQuery
 width : ℕ := 0
 first : List UInt8 := []
 second : List UInt8 := []
 aob : AobPattern := {}

def ScanCompare.isChangeOnly : ScanCompare→Bool
 | .changed | .unchanged | .increased | .decreased => true
 | _ => false

def ScanValueType.isText : ScanValueType→Bool
 | .utf8 | .utf16 => true
 | _ => false

/-- The operands of a query, and the width of the values it looks at. -/
def compileOperands (query : ScanQuery) : Result CompiledScanQuery :=
 if query.type=.byteArray then
  if query.comparison≠.exact ∧ query.comparison≠.notEqual ∧ query.comparison≠.changed ∧
   query.comparison≠.unchanged then
   .error (makeError .invalidArgument
    "AOB scans support exact/not-equal/changed/unchanged comparisons" "CompileScanQuery")
  else if query.value.isEmpty then
   .error (makeError .invalidArgument
    "AOB next scans require the original pattern to preserve width" "CompileScanQuery")
  else match parseAobPattern query.value with
   | .error error => .error error
   | .ok aob => .ok { query,width := aob.bytes.length,first := aob.bytes,aob }
 else if query.comparison=.unknownInitial ∨ query.comparison.isChangeOnly then
  if fixedValueWidth query.type≠0 then .ok { query,width := fixedValueWidth query.type }
  else if query.value.isEmpty then
   .error (makeError .invalidArgument
    "Variable-width changed scans require the original value to preserve width"
    "CompileScanQuery")
  else match encodeValue library query.type query.value query.hexadecimal with
   | .error error => .error error
   | .ok first => .ok { query,width := first.length,first }
 else match encodeValue library query.type query.value query.hexadecimal with
  | .error error => .error error
  | .ok first =>
   if first.length=0 then
    .error (makeError .invalidArgument "Scan value must not be empty" "CompileScanQuery")
   else if query.comparison≠.between then .ok { query,width := first.length,first }
   else match encodeValue library query.type query.secondValue query.hexadecimal with
    | .error error => .error error
    | .ok second =>
     if second.length≠first.length then
      .error (makeError .invalidArgument "Between-scan values have different widths"
       "CompileScanQuery")
     else .ok { query,width := first.length,first,second }

def compileScanQuery (query : ScanQuery) : Result CompiledScanQuery := do
 if query.type.isText ∧ query.comparison≠.exact ∧ query.comparison≠.notEqual ∧
  query.comparison≠.changed ∧ query.comparison≠.unchanged ∧
  query.comparison≠.unknownInitial then
  throw (makeError .invalidArgument
   "Text scans support exact/not-equal/changed/unchanged/unknown-initial comparisons"
   "CompileScanQuery")
 let compiled ← compileOperands library query
 let alignment :=
  if query.alignment≠0 then query.alignment
  else if query.type=.byteArray ∨ query.type.isText then 1
  else compiled.width
 let chunkSize :=
  if query.chunkSize < compiled.width then max compiled.width 4096 else query.chunkSize
 if query.maxResults=0 then
  throw (makeError .invalidArgument "max_results must be greater than zero" "CompileScanQuery")
 return { compiled with query := { query with alignment,chunkSize } }

end Encode

def foldAscii (value : UInt8) : UInt8 :=
 if 0x41 ≤ value ∧ value≤0x5A then value+0x20 else value

def foldUnit (value : ℕ) : ℕ := if 0x41 ≤ value ∧ value≤0x5A then value+0x20 else value

/-- The two-byte units of a text, as the comparison reads them. -/
def codeUnits : List UInt8→List ℕ
 | low::high::rest => (low.toNat+256*high.toNat)::codeUnits rest
 | _ => []

def textEqual (type : ScanValueType) (left right : List UInt8) (caseSensitive : Bool) : Bool :=
 if caseSensitive ∨ left.length≠right.length then left == right
 else if type=.utf8 then left.map foldAscii == right.map foldAscii
 else if type≠.utf16 ∨ left.length%2≠0 then false
 else (codeUnits left).map foldUnit == (codeUnits right).map foldUnit

/-- The integer that the first `size` bytes stand for; too few bytes stand for zero. -/
def loadInteger (signed : Bool) (size : ℕ) (bytes : List UInt8) : ℤ :=
 if bytes.length < size then 0
 else
  let value := ofLittleEndian (bytes.take size)
  if signed ∧ 2^(8*size-1) ≤ value then (value : ℤ)-2^(8*size) else value

/-- Where a binary floating-point number with `fraction` fraction bits stands in the order of
 its type; nothing for a number that is not in the order. Both zeros stand at zero. -/
def loadFloating (size fraction : ℕ) (bytes : List UInt8) : Option ℤ :=
 let bits := if bytes.length < size then 0 else ofLittleEndian (bytes.take size)
 let magnitude := bits%2^(8*size-1)
 let infinity := (2^(8*size-1-fraction)-1)*2^fraction
 if infinity < magnitude then none
 else if bits<2^(8*size-1) then some (magnitude : ℤ)
 else some (-(magnitude : ℤ))

/-- `Load<T>`: what the bytes stand for in the order of the type. -/
def loadScalar : ScanValueType→List UInt8→Option ℤ
 | .int8,bytes => some (loadInteger true 1 bytes)
 | .uint8,bytes => some (loadInteger false 1 bytes)
 | .int16,bytes => some (loadInteger true 2 bytes)
 | .uint16,bytes => some (loadInteger false 2 bytes)
 | .int32,bytes => some (loadInteger true 4 bytes)
 | .uint32,bytes => some (loadInteger false 4 bytes)
 | .int64,bytes => some (loadInteger true 8 bytes)
 | .uint64,bytes => some (loadInteger false 8 bytes)
 | .float,bytes => loadFloating 4 23 bytes
 | .double,bytes => loadFloating 8 52 bytes
 | .utf8,_ | .utf16,_ | .byteArray,_ => none

/-- The comparisons of a type with numbers outside its order: they all fail with one. -/
def scalarRelation (relation : ℤ→ℤ→Bool) : Option ℤ→Option ℤ→Bool
 | some left,some right => relation left right
 | _,_ => false

def scalarEq : Option ℤ→Option ℤ→Bool := scalarRelation fun left right=>decide (left=right)

def scalarLt : Option ℤ→Option ℤ→Bool := scalarRelation fun left right=>decide (left < right)

def scalarLe : Option ℤ→Option ℤ→Bool := scalarRelation fun left right=>decide (left ≤ right)

def scalarMin (a b : Option ℤ) : Option ℤ := if scalarLt b a then b else a

def scalarMax (a b : Option ℤ) : Option ℤ := if scalarLt a b then b else a

def matchInitialTyped (comparison : ScanCompare) (value a b : Option ℤ) : Bool :=
 match comparison with
 | .exact => scalarEq value a
 | .notEqual => !scalarEq value a
 | .greaterThan => scalarLt a value
 | .lessThan => scalarLt value a
 | .between => scalarLe (scalarMin a b) value && scalarLe value (scalarMax a b)
 | .unknownInitial => true
 | _ => false

def matchInitialValue (query : CompiledScanQuery) (current : List UInt8) : Bool :=
 if current.length < query.width then false
 else
  let current := current.take query.width
  let type := query.query.type
  if type=.byteArray then
   let found := query.aob.matchesInput current
   if query.query.comparison=.notEqual then !found else found
  else if type.isText then
   let found := textEqual type current query.first query.query.caseSensitive
   if query.query.comparison=.notEqual then !found else found
  else matchInitialTyped query.query.comparison (loadScalar type current)
   (loadScalar type query.first) (loadScalar type query.second)

/-- The sums and differences that the machine makes of two floating-point numbers, on their
 bits. -/
structure FloatingArithmetic where
 floatAdd : UInt32→UInt32→UInt32
 floatSubtract : UInt32→UInt32→UInt32
 doubleAdd : UInt64→UInt64→UInt64
 doubleSubtract : UInt64→UInt64→UInt64

/-- The value of an integer once it has been converted to a type of `size` bytes. -/
def castInteger (signed : Bool) (size : ℕ) (value : ℤ) : ℤ :=
 if signed then value.bmod (2^(8*size)) else value%(2^(8*size) : ℕ)

/-- The value of a sum or a difference: what is narrower than `int` is promoted to it first. -/
def promoted (signed : Bool) (size : ℕ) (value : ℤ) : ℤ :=
 if size<4 then castInteger true 4 value else castInteger signed size value

def lowestInteger (signed : Bool) (size : ℕ) : ℤ := if signed then -2^(8*size-1) else 0

def maxInteger (signed : Bool) (size : ℕ) : ℤ :=
 if signed then 2^(8*size-1)-1 else 2^(8*size)-1

def addOverflows (signed : Bool) (size : ℕ) (left right : ℤ) : Bool :=
 let lowest := lowestInteger signed size
 let max := maxInteger signed size
 if signed then
  (decide (0 < right) && decide (promoted signed size (max-right) < left)) ||
   (decide (right<0) && decide (left < promoted signed size (lowest-right)))
 else decide (promoted signed size (max-right) < left)

def subtractOverflows (signed : Bool) (size : ℕ) (left right : ℤ) : Bool :=
 let lowest := lowestInteger signed size
 let max := maxInteger signed size
 if signed then
  (decide (0 < right) && decide (left < promoted signed size (lowest+right))) ||
   (decide (right<0) && decide (promoted signed size (max+right) < left))
 else decide (left < right)

/-- `CheckedAdd` and `CheckedSubtract` of two integers, by their operation and their check. -/
def checkedInteger (operation : ℤ→ℤ→ℤ) (overflows : Bool→ℕ→ℤ→ℤ→Bool) (signed : Bool)
 (size : ℕ) (left right : List UInt8) : Option (Option ℤ) :=
 let left := loadInteger signed size left
 let right := loadInteger signed size right
 if overflows signed size left right then none
 else some (some (castInteger signed size (promoted signed size (operation left right))))

def loadBits (size : ℕ) (bytes : List UInt8) : ℕ :=
 if bytes.length < size then 0 else ofLittleEndian (bytes.take size)

/-- An operation on two values of a type: nothing if an integer result does not fit. -/
def checkedScalar (integer : Bool→ℕ→List UInt8→List UInt8→Option (Option ℤ))
 (float : UInt32→UInt32→UInt32) (double : UInt64→UInt64→UInt64) (type : ScanValueType)
 (left right : List UInt8) : Option (Option ℤ) :=
 match type with
 | .int8 => integer true 1 left right
 | .uint8 => integer false 1 left right
 | .int16 => integer true 2 left right
 | .uint16 => integer false 2 left right
 | .int32 => integer true 4 left right
 | .uint32 => integer false 4 left right
 | .int64 => integer true 8 left right
 | .uint64 => integer false 8 left right
 | .float =>
  let bits := float (UInt32.ofNat (loadBits 4 left)) (UInt32.ofNat (loadBits 4 right))
  some (loadFloating 4 23 (littleEndian 4 bits.toNat))
 | .double =>
  let bits := double (UInt64.ofNat (loadBits 8 left)) (UInt64.ofNat (loadBits 8 right))
  some (loadFloating 8 52 (littleEndian 8 bits.toNat))
 | .utf8 | .utf16 | .byteArray => none

section Next
variable (arithmetic:FloatingArithmetic)

def checkedAdd : ScanValueType→List UInt8→List UInt8→Option (Option ℤ) :=
 checkedScalar (checkedInteger (· + ·) addOverflows) arithmetic.floatAdd arithmetic.doubleAdd

def checkedSubtract : ScanValueType→List UInt8→List UInt8→Option (Option ℤ) :=
 checkedScalar (checkedInteger (· - ·) subtractOverflows) arithmetic.floatSubtract
  arithmetic.doubleSubtract

def matchNextTyped (comparison : ScanCompare) (type : ScanValueType)
 (previous current first second : List UInt8) : Bool :=
 let oldValue := loadScalar type previous
 let newValue := loadScalar type current
 let a := loadScalar type first
 let b := loadScalar type second
 match comparison with
 | .exact => scalarEq newValue a
 | .notEqual => !scalarEq newValue a
 | .greaterThan => scalarLt a newValue
 | .lessThan => scalarLt newValue a
 | .between => scalarLe (scalarMin a b) newValue && scalarLe newValue (scalarMax a b)
 | .changed => !scalarEq newValue oldValue
 | .unchanged => scalarEq newValue oldValue
 | .increased => scalarLt oldValue newValue
 | .decreased => scalarLt newValue oldValue
 | .increasedBy => (checkedAdd arithmetic type previous first).any (scalarEq newValue)
 | .decreasedBy => (checkedSubtract arithmetic type previous first).any (scalarEq newValue)
 | .unknownInitial => true

def matchNextValue (query : CompiledScanQuery) (previous current : List UInt8) : Bool :=
 if previous.length < query.width ∨ current.length < query.width then false
 else
  let previous := previous.take query.width
  let current := current.take query.width
  let type := query.query.type
  if type=.byteArray ∨ type.isText then
   let found :=
    if type=.byteArray then query.aob.matchesInput current
    else textEqual type current query.first query.query.caseSensitive
   match query.query.comparison with
   | .changed => previous != current
   | .unchanged => previous == current
   | .exact => found
   | .notEqual => !found
   | _ => false
  else
   matchNextTyped arithmetic query.query.comparison type previous current query.first
    query.second

end Next

/-- What `<<` writes of the floating-point number with these bits, at the precision of its type. -/
structure FloatingFormat where
 float : UInt32→List UInt8
 double : UInt64→List UInt8

/-- `<<` of a number after `std::hex`, filled with zeros up to a width. -/
def hexDigits (uppercase : Bool) (width n : ℕ) : List UInt8 :=
 let digits := (Nat.toDigits 16 n).map fun c=>(if uppercase then c.toUpper else c).toUInt8
 List.replicate (width-digits.length) 0x30++digits

def formatInteger (signed : Bool) (size : ℕ) (bytes : List UInt8) (hex : Bool) : List UInt8 :=
 let value := loadInteger signed size bytes
 if hex then 0x30::0x78::hexDigits true 0 (castInteger false size value).toNat
 else TextStream.decimalInt value

def formatUnit (unit : ℕ) : List UInt8 :=
 if 0x20 ≤ unit ∧ unit<0x7F then [UInt8.ofNat unit] else 0x5C::0x75::hexDigits false 4 unit

def formatValue (format : FloatingFormat) (type : ScanValueType) (bytes : List UInt8)
 (hexadecimal : Bool) : List UInt8 :=
 if bytes.length < fixedValueWidth type ∧ fixedValueWidth type≠0 then
  [0x3C,0x73,0x68,0x6F,0x72,0x74,0x3E]
 else match type with
  | .int8 => formatInteger true 1 bytes hexadecimal
  | .uint8 => formatInteger false 1 bytes hexadecimal
  | .int16 => formatInteger true 2 bytes hexadecimal
  | .uint16 => formatInteger false 2 bytes hexadecimal
  | .int32 => formatInteger true 4 bytes hexadecimal
  | .uint32 => formatInteger false 4 bytes hexadecimal
  | .int64 => formatInteger true 8 bytes hexadecimal
  | .uint64 => formatInteger false 8 bytes hexadecimal
  | .float => format.float (UInt32.ofNat (loadBits 4 bytes))
  | .double => format.double (UInt64.ofNat (loadBits 8 bytes))
  | .utf8 => bytes
  | .utf16 => (codeUnits bytes).flatMap formatUnit
  | .byteArray => [0x20].intercalate (bytes.map fun byte=>hexDigits true 2 byte.toNat)

end KDbg
