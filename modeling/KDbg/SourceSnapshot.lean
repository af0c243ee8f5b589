import KDbg.Fallible
import KDbg.WideText
import Mathlib.Data.List.Lex
set_option autoImplicit false
/-!
# Source snapshots

`source_snapshot.py` writes a manifest with the hash of every file of a tree that a scope selects,
and verifies a tree against such a manifest. A Python string is the list of its code points, lone
surrogates included. The hash function and `fnmatch.fnmatchcase` are arbitrary.
-/
namespace KDbg.SourceSnapshot
open WideText Fallible

abbrev Text := List ℕ

abbrev Components := List Text

def ascii (text : List Char) : Text := text.map Char.toNat

def slash : ℕ := 0x2F
def backslash : ℕ := 0x5C
def space : ℕ := 0x20
def lineFeed : ℕ := 0x0A
def carriageReturn : ℕ := 0x0D

/-- `as_posix` of a path with these components. -/
def posix (parts : Components) : Text := [slash].intercalate parts

/-- `split("/")`. -/
def split (path : Text) : Components := path.splitOn slash

/-- Why a call does not succeed: one of the errors that the tool raises itself, or an encoding
 error of Python. -/
inductive Failure where
 | scopeUnreadable
 | scopeNotObject
 | scopeKeys (unexpected : List Text)
 | scopeSchema
 | scopeVersion
 | includeNotArray
 | excludeNotArray
 | patternNotString
 | pathEmpty
 | pathUnsafe (path : Text)
 | pathNotCanonical (path : Text)
 | nestedStars (pattern : Text)
 | duplicatePatterns
 | rootNotDirectory
 | notRegular (path : Text)
 | zeroFiles
 | sameOutputs
 | outputSelected (path : Text)
 | notWritten
 | notEncodable
 | manifestNotText
 | manifestNotUtf8
 | malformedRecord (line : ℕ)
 | recordsNotSorted
 | duplicatePaths
 | manifestNotCanonical
 | metadataNotObject
 | metadataKeys
 | metadataSchema
 | metadataDigest
 | metadataCount
 | metadataContentHash
 | metadataRecordFormat
 | metadataPathOrder
 | scopeVersionMismatch
 | scopeHashMismatch
 | digestMismatch
 | countMismatch
 | treeMismatch (missing extra tampered : List Text)
 | treeDigestMismatch
deriving DecidableEq,Repr

/-- `encode("utf-8")`, which has no encoding for a surrogate. -/
def encodeUtf8 (text : Text) : Option (List UInt8) :=
 if text.all fun code=>decide code.isValidChar then some (utf8 (text.map Char.ofNat)) else none

def decodeUtf8 (bytes : List UInt8) : Option Text := (ofUtf8 bytes).map (·.map Char.toNat)

/-- The components that `PurePosixPath` keeps. -/
def pureParts (path : Text) : Components :=
 (split path).filter fun part=>part≠[] ∧ part≠ascii ['.']

def pureAsPosix (path : Text) : Text :=
 if pureParts path=[] then ascii ['.'] else posix (pureParts path)

def validateRelativePath (path : Text) : Except Failure Unit := do
 require (path≠[]) .pathEmpty
 require (backslash ∉ path ∧ carriageReturn ∉ path ∧ lineFeed ∉ path ∧ 0 ∉ path)
  (.pathUnsafe path)
 require (path.head?≠some slash ∧ ascii ['.','.'] ∉ pureParts path) (.pathUnsafe path)
 require (pureAsPosix path=path) (.pathNotCanonical path)

def stars : Text := ascii ['*','*']

/-- Whether two stars follow each other in a component. -/
def hasStars : Text→Bool
 | first::second::rest =>
  (first == 0x2A && second == 0x2A) || hasStars (second::rest)
 | _ => false

def validatePattern (pattern : Text) : Except Failure Unit := do
 validateRelativePath pattern
 require (∀ part∈split pattern,hasStars part=true → part=stars) (.nestedStars pattern)

structure ScopeConfig where
 version : Text
 includes : List Text
 excludes : List Text
 sha256 : Text
deriving DecidableEq,Repr

section Matching
variable (fnmatchcase:Text→Text→Bool)

/-- The recursion of `_glob_matches` over the components of the pattern. -/
def matchParts : Components → Components→Bool
 | [],path => path.isEmpty
 | part::parts,path =>
  if part=stars then
   if parts=[] then true else path.tails.any (matchParts parts)
  else match path with
   | [] => false
   | name::path => fnmatchcase name part && matchParts parts path

def globMatches (pattern relative : Text) : Bool :=
 matchParts fnmatchcase (split pattern) (split relative)

/-- What a component of a pattern stands for: two stars for any components, another one for a
 single component that it matches. -/
def Fills (part : Text) (piece : Components) : Prop :=
 part=stars ∨ ∃ name,piece=[name] ∧ fnmatchcase name part=true

lemma matchParts_iff (parts path:Components) :
 matchParts fnmatchcase parts path=true ↔
  ∃ pieces,List.Forall₂ (Fills fnmatchcase) parts pieces ∧ path=pieces.flatten := by
 induction parts generalizing path with
 | nil => simp [matchParts]
 | cons part parts ih =>
  simp only [List.forall₂_cons_left_iff]
  rw [matchParts.eq_def]
  dsimp only
  by_cases star:part=stars
  · have filled (piece:Components) : Fills fnmatchcase part piece := .inl star
    rw [if_pos star]
    by_cases last:parts=[]
    · rw [if_pos last,last]
      exact iff_of_true rfl ⟨[path],⟨path,[],filled path, .nil,rfl⟩,by simp⟩
    · simp only [if_neg last,List.any_eq_true,List.mem_tails,ih]
      constructor
      · rintro ⟨_,⟨piece,rfl⟩,pieces,fills,rfl⟩
        exact ⟨piece::pieces,⟨piece,pieces,filled piece,fills,rfl⟩,rfl⟩
      · rintro ⟨_,⟨piece,pieces,-,fills,rfl⟩,rfl⟩
        exact ⟨_,⟨piece,rfl⟩,pieces,fills,rfl⟩
  · rw [if_neg star]
    constructor
    · intro matched
      cases path with
      | nil => cases matched
      | cons name path =>
       rw [Bool.and_eq_true,ih] at matched
       obtain ⟨one,pieces,fills,rfl⟩:=matched
       exact ⟨[name]::pieces,⟨_,_, .inr ⟨name,rfl,one⟩,fills,rfl⟩,rfl⟩
    · rintro ⟨_,⟨_,pieces,every | ⟨name,rfl,one⟩,fills,rfl⟩,rfl⟩
      · exact absurd every star
      · exact Bool.and_eq_true_iff.2 ⟨one,(ih _).2 ⟨pieces,fills,rfl⟩⟩

/-- A path matches a pattern exactly when it is made of one piece for each component. -/
theorem glob_matches_iff (pattern relative : Text) :
 globMatches fnmatchcase pattern relative=true ↔
  ∃ pieces,List.Forall₂ (Fills fnmatchcase) (split pattern) pieces ∧
   split relative=pieces.flatten :=
 matchParts_iff fnmatchcase (split pattern) (split relative)

def selected (scope : ScopeConfig) (relative : Text) : Bool :=
 scope.includes.any (globMatches fnmatchcase · relative) &&
  !scope.excludes.any (globMatches fnmatchcase · relative)

def literalPrefix (pattern : Text) : Components :=
 (split pattern).takeWhile fun part =>
  part≠stars ∧ 0x2A ∉ part ∧ 0x3F ∉ part ∧ 0x5B ∉ part

/-- A node of a directory tree without symbolic links. A special file is neither a regular file nor
 a directory. -/
inductive Node where
 | file (content : List UInt8)
 | special
 | directory (names : List Text) (child : Text→Node)

def Node.isDirectory : Node→Bool
 | .directory .. => true
 | _ => false

def Node.find : Node → Components→Option Node
 | node,[] => some node
 | .directory names child,name::path => if name∈names then (child name).find path else none
 | _,_::_ => none

def sortTexts (texts : List Text) : List Text := texts.mergeSort (· ≤ ·)

def probeName : Text :=
 ascii ['_','_','k','d','b','g','_','s','c','o','p','e','_','p','r','o','b','e',
  '_','_']

/-- A directory that the walk does not enter: its probe is excluded. -/
def pruned (scope : ScopeConfig) (directory : Components) : Bool :=
 scope.excludes.any (globMatches fnmatchcase · (posix (directory++[probeName])))

/-- The files that `os.walk` reaches from a directory, with the directories that are kept. -/
def walk (scope : ScopeConfig) (base : Components) : Node→List Components
 | .directory names child =>
  let files := sortTexts (names.filter fun name => !(child name).isDirectory)
  let directories := (sortTexts (names.filter fun name=>(child name).isDirectory)).filter
   fun name => !pruned fnmatchcase scope (base++[name])
  files.map (base++[·]) ++
   directories.flatMap fun name=>walk scope (base++[name]) (child name)
 | _ => []

def searchRoots (scope : ScopeConfig) : List Components :=
 (scope.includes.map literalPrefix).dedup.mergeSort fun a b=>posix a ≤ posix b

def rootCandidates (scope : ScopeConfig) (root : Node) (base : Components) : List Components :=
 match root.find base with
 | some (.file _) => [base]
 | some (.directory names child) => walk fnmatchcase scope base (.directory names child)
 | _ => []

/-- The loop over the candidates: what was seen before or is not selected is left out. -/
def collect (scope : ScopeConfig) (root : Node) (yielded : List Components) :
 List Components→Except Failure (List Components)
 | [] => .ok []
 | candidate::candidates =>
  if candidate∈yielded ∨ selected fnmatchcase scope (posix candidate)=false then
   collect scope root yielded candidates
  else match root.find candidate with
   | some (.file _) =>
    (collect scope root (candidate::yielded) candidates).map (candidate :: ·)
   | _ => .error (.notRegular (posix candidate))

def candidatePaths (scope : ScopeConfig) (root : Node) : Except Failure (List Components) :=
 collect fnmatchcase scope root []
  ((searchRoots scope).flatMap (rootCandidates fnmatchcase scope root))

end Matching

structure Record where
 path : Text
 sha256 : Text
deriving DecidableEq,Repr

def isLowerHex (code : ℕ) : Bool :=
 (0x30 ≤ code && code≤0x39) || (0x61 ≤ code && code≤0x66)

def IsDigest (text : Text) : Prop := text.length=64 ∧ text.all isLowerHex=true

instance (text : Text) : Decidable (IsDigest text) := inferInstanceAs (Decidable (_ ∧ _))

/-- `hexdigest` of some hash function. -/
structure Hash where
 hexdigest : List UInt8→Text
 isDigest : ∀ data,IsDigest (hexdigest data)

def contentOf : Option Node→List UInt8
 | some (.file content) => content
 | _ => []

section Snapshots
variable (fnmatchcase:Text→Text→Bool) (hash:Hash)

def sortRecords (records : List Record) : List Record :=
 records.mergeSort fun a b=>a.path ≤ b.path

def captureTree (root : Node) (scope : ScopeConfig) : Except Failure (List Record) := do
 require (root.isDirectory=true) .rootNotDirectory
 let paths ← candidatePaths fnmatchcase scope root
 let records := sortRecords (paths.map fun path =>
  ⟨posix path,hash.hexdigest (contentOf (root.find path))⟩)
 require (records≠[]) .zeroFiles
 return records

def recordLine (record : Record) : Text :=
 record.sha256++[space,space]++record.path++[lineFeed]

def manifestText (records : List Record) : Text := records.flatMap recordLine

def manifestBytes (records : List Record) : Except Failure (List UInt8) :=
 match encodeUtf8 (manifestText records) with
 | none => .error .notEncodable
 | some bytes => .ok bytes

/-- The line boundaries of `str.splitlines`. -/
def breaks : List ℕ := [0x0A,0x0B,0x0C,0x0D,0x1C,0x1D,0x1E,0x85,0x2028,0x2029]

def splitlines : Text→List Text
 | [] => []
 | code::rest =>
  if code∈breaks then
   match rest with
   | next::rest' =>
    if code=carriageReturn ∧ next=lineFeed then []::splitlines rest'
    else []::splitlines (next::rest')
   | [] => [[]]
  else match splitlines rest with
   | [] => [[code]]
   | line::lines => (code::line)::lines

def matchRecord (line : Text) : Option Record :=
 if IsDigest (line.take 64) ∧ (line.drop 64).take 2=[space,space] ∧ line.drop 66≠[] ∧
  carriageReturn ∉ line.drop 66 ∧ lineFeed ∉ line.drop 66 then
  some ⟨line.drop 66,line.take 64⟩
 else none

def parseLines (number : ℕ) : List Text→Except Failure (List Record)
 | [] => .ok []
 | line::lines =>
  match matchRecord line with
  | none => .error (.malformedRecord number)
  | some record => do
   validateRelativePath record.path
   let records ← parseLines (number+1) lines
   return record::records

def parseManifest (data : List UInt8) : Except Failure (List Record) := do
 require (data.getLast?=some 0x0A ∧ 0x0D ∉ data) .manifestNotText
 match decodeUtf8 data with
 | none => throw .manifestNotUtf8
 | some text =>
  let records ← parseLines 1 (splitlines text)
  require (records.map (·.path)=sortTexts (records.map (·.path))) .recordsNotSorted
  require (records.map (·.path)).Nodup .duplicatePaths
  let bytes ← manifestBytes records
  require (bytes=data) .manifestNotCanonical
  return records

/-- A value of a JSON text. -/
inductive Json where
 | null
 | bool (value : Bool)
 | number (value : ℤ)
 | fraction
 | string (text : Text)
 | array (items : List Json)
 | object (fields : List (Text×Json))

def Json.field (fields : List (Text×Json)) (name : Text) : Option Json := fields.lookup name

/-- A file that holds a JSON text: its bytes, and the value of the text if it is one. -/
structure JsonFile where
 bytes : List UInt8
 value : Option Json

/-- The white space of `str.strip`. -/
def isSpace (code : ℕ) : Bool :=
 (0x09 ≤ code && code≤0x0D) || (0x1C ≤ code && code≤0x20) || code == 0x85 || code == 0xA0 ||
  code == 0x1680 || (0x2000 ≤ code && code≤0x200A) || code == 0x2028 || code == 0x2029 ||
  code == 0x202F || code == 0x205F || code == 0x3000

def schemaKey : Text := ascii ['s','c','h','e','m','a']
def versionKey : Text :=
 ascii ['s','c','o','p','e','_','v','e','r','s','i','o','n']
def includeKey : Text := ascii ['i','n','c','l','u','d','e']
def excludeKey : Text := ascii ['e','x','c','l','u','d','e']

def scopeSchema : Text :=
 ascii ['k','d','b','g','.','s','o','u','r','c','e','-','s','c','o','p','e','.',
  'v','1']

def loadPatterns : List Json→Except Failure (List Text)
 | [] => .ok []
 | .string pattern::items => do
  validatePattern pattern
  let patterns ← loadPatterns items
  return pattern::patterns
 | _::_ => .error .patternNotString

def loadFields (fields : List (Text×Json)) (digest : Text) : Except Failure ScopeConfig := do
 let unexpected := (fields.map (·.1)).filter
  (· ∉ [schemaKey,versionKey,includeKey,excludeKey])
 require (unexpected=[]) (.scopeKeys (sortTexts unexpected))
 match Json.field fields schemaKey with
 | some (.string schema) => require (schema=scopeSchema) .scopeSchema
 | _ => throw .scopeSchema
 match Json.field fields versionKey with
 | some (.string version) =>
  require (version.all isSpace=false) .scopeVersion
  match Json.field fields includeKey with
  | some (.array includes) =>
   require (includes.isEmpty=false) .includeNotArray
   match (Json.field fields excludeKey).getD (.array []) with
   | .array excludes =>
    let includes ← loadPatterns includes
    let excludes ← loadPatterns excludes
    require (includes.Nodup ∧ excludes.Nodup) .duplicatePatterns
    return { version,includes,excludes,sha256 := digest }
   | _ => throw .excludeNotArray
  | _ => throw .includeNotArray
 | _ => throw .scopeVersion

def loadScope (file : JsonFile) : Except Failure ScopeConfig :=
 match file.value with
 | none => .error .scopeUnreadable
 | some (.object fields) => loadFields fields (hash.hexdigest file.bytes)
 | some _ => .error .scopeNotObject

def metadataSchema : Text :=
 ascii ['k','d','b','g','.','s','o','u','r','c','e','-','m','a','n','i','f','e',
  's','t','-','m','e','t','a','d','a','t','a','.','v','1']

def digestKey : Text := ascii ['d','i','g','e','s','t']
def countKey : Text := ascii ['c','o','u','n','t']
def scopeHashKey : Text := ascii ['s','c','o','p','e','_','s','h','a','2','5','6']
def contentHashKey : Text :=
 ascii ['c','o','n','t','e','n','t','_','h','a','s','h']
def recordFormatKey : Text :=
 ascii ['r','e','c','o','r','d','_','f','o','r','m','a','t']
def pathOrderKey : Text := ascii ['p','a','t','h','_','o','r','d','e','r']

def contentHash : Text := ascii ['s','h','a','2','5','6']

/-- `sha256  relative/path`. -/
def recordFormat : Text :=
 contentHash++[space,space]++ascii ['r','e','l','a','t','i','v','e','/','p','a',
  't','h']

def pathOrder : Text :=
 ascii ['o','r','d','i','n','a','l','-','p','o','s','i','x','-','r','e','l','a',
  't','i','v','e','-','p','a','t','h']

/-- The metadata of a snapshot, as the JSON object that is written. -/
structure Metadata where
 digest : Text
 count : ℤ
 scopeVersion : Text
 scopeSha256 : Text
deriving DecidableEq,Repr

def Metadata.json (metadata : Metadata) : Json :=
 .object [(contentHashKey, .string contentHash),(countKey, .number metadata.count),
  (digestKey, .string metadata.digest),(pathOrderKey, .string pathOrder),
  (recordFormatKey, .string recordFormat),(schemaKey, .string metadataSchema),
  (scopeHashKey, .string metadata.scopeSha256),(versionKey, .string metadata.scopeVersion)]

def metadataKeys : List Text :=
 [contentHashKey,countKey,digestKey,pathOrderKey,recordFormatKey,schemaKey,scopeHashKey,
  versionKey]

def requireText (value : Option Json) (expected : Text) (failure : Failure) :
 Except Failure Unit :=
 match value with
 | some (.string text) => require (text=expected) failure
 | _ => .error failure

/-- `_load_metadata`, on the value of the text of the file: the digest and the count, and the two
 fields that describe the scope, whatever they are. -/
def loadMetadata (value : Json) : Except Failure (Text×ℤ×Option Json×Option Json) := do
 match value with
 | .object fields =>
  require ((∀ field∈fields,field.1∈metadataKeys) ∧
   ∀ key∈metadataKeys,key∈fields.map (·.1)) .metadataKeys
  requireText (Json.field fields schemaKey) metadataSchema .metadataSchema
  match Json.field fields digestKey with
  | some (.string digest) =>
   require (IsDigest digest) .metadataDigest
   match Json.field fields countKey with
   | some (.number count) =>
    require (1 ≤ count) .metadataCount
    requireText (Json.field fields contentHashKey) contentHash .metadataContentHash
    requireText (Json.field fields recordFormatKey) recordFormat .metadataRecordFormat
    requireText (Json.field fields pathOrderKey) pathOrder .metadataPathOrder
    return (digest,count,Json.field fields versionKey,Json.field fields scopeHashKey)
   | _ => throw .metadataCount
  | _ => throw .metadataDigest
 | _ => throw .metadataNotObject

/-- Where an output goes: below the root, or elsewhere. -/
inductive Output where
 | inside (path : Components)
 | outside (path : Text)
deriving DecidableEq,Repr

def requireUnselected (scope : ScopeConfig) : Output→Except Failure Unit
 | .inside path =>
  require (selected fnmatchcase scope (posix path)=false) (.outputSelected (posix path))
 | .outside _ => .ok ()

structure Written where
 records : List Record
 manifest : List UInt8
 metadata : Metadata

/-- `write_snapshot`; `stored` says of each output whether the file system takes it. -/
def writeSnapshot (root : Node) (scopeFile : JsonFile) (manifest metadata : Output)
 (stored : Output→Bool) : Except Failure Written := do
 let scope ← loadScope hash scopeFile
 let records ← captureTree fnmatchcase hash root scope
 require (manifest≠metadata) .sameOutputs
 requireUnselected fnmatchcase scope manifest
 requireUnselected fnmatchcase scope metadata
 let bytes ← manifestBytes records
 require (stored manifest=true) .notWritten
 let description : Metadata := {
  digest := hash.hexdigest bytes,count := records.length
  scopeVersion := scope.version,scopeSha256 := scope.sha256 }
 -- every other field of the object is ASCII
 require ((encodeUtf8 scope.version).isSome=true) .notEncodable
 require (stored metadata=true) .notWritten
 return { records,manifest := bytes,metadata := description }

def shaOf (records : List Record) (path : Text) : Option Text :=
 (records.reverse.find? (·.path=path)).map (·.sha256)

def missingFrom (before after : List Record) : List Text :=
 (before.map (·.path)).filter fun path=>(shaOf after path).isNone

def changedIn (before after : List Record) : List Text :=
 (before.map (·.path)).filter fun path =>
  (shaOf after path).isSome && shaOf before path != shaOf after path

def verifySnapshot (root : Node) (scopeFile : JsonFile) (manifest : List UInt8)
 (metadata : Json) : Except Failure (List Record) := do
 let scope ← loadScope hash scopeFile
 let expected ← parseManifest manifest
 let (digest,count,version,scopeHash) ← loadMetadata metadata
 requireText version scope.version .scopeVersionMismatch
 requireText scopeHash scope.sha256 .scopeHashMismatch
 let expectedBytes ← manifestBytes expected
 require (digest=hash.hexdigest expectedBytes) .digestMismatch
 require (count=expected.length) .countMismatch
 let actual ← captureTree fnmatchcase hash root scope
 let missing := missingFrom expected actual
 let extra := missingFrom actual expected
 let changed := changedIn expected actual
 require (missing=[] ∧ extra=[] ∧ changed=[])
  (.treeMismatch (sortTexts missing) (sortTexts extra) (sortTexts changed))
 let actualBytes ← manifestBytes actual
 require (hash.hexdigest actualBytes=hash.hexdigest expectedBytes) .treeDigestMismatch
 return actual

end Snapshots
end KDbg.SourceSnapshot
