import KDbg.PhysicalPage
set_option autoImplicit false
/-!
# Headers of kernel images

`ParsePe64ImageMetadata` reads the fields of a PE32+ header out of the bytes it is given, and
`ReadImageMetadata` gives it no more of a file than the headers can take.
-/
namespace KDbg.KernelImage

structure PeImageMetadata where
 machine : UInt16 := 0
 sectionCount : UInt16 := 0
 timestamp : UInt32 := 0
 imageSize : UInt32 := 0
 checksum : UInt32 := 0
deriving DecidableEq,Repr

def readLittleEndian (bytes : List UInt8) (offset size : ℕ) : Option ℕ :=
 if bytes.length < offset ∨ bytes.length-offset < size then none
 else some (ofLittleEndian ((bytes.drop offset).take size))

def readUInt16 (bytes : List UInt8) (offset : ℕ) : Option UInt16 :=
 (readLittleEndian bytes offset 2).map UInt16.ofNat

def readUInt32 (bytes : List UInt8) (offset : ℕ) : Option UInt32 :=
 (readLittleEndian bytes offset 4).map UInt32.ofNat

def kDosMagic : UInt16 := 0x5A4D
def kPeSignature : UInt32 := 0x00004550
def kAmd64Machine : UInt16 := 0x8664
def kPe32PlusMagic : UInt16 := 0x020B
def kDosPeOffset : ℕ := 0x3C
def kCoffHeaderBytes : ℕ := 20
def kOptionalImageSizeOffset : ℕ := 56
def kOptionalChecksumOffset : ℕ := 64
def kMaximumSections : UInt16 := 96

/-- The PE offset, if the DOS header is complete. -/
def dosHeader (bytes : List UInt8) : Option UInt32 := do
 let magic ← readUInt16 bytes 0
 guard (magic=kDosMagic)
 readUInt32 bytes kDosPeOffset

structure CoffHeader where
 machine : UInt16
 sectionCount : UInt16
 timestamp : UInt32
 optionalSize : UInt16

def coffHeader (bytes : List UInt8) (pe : ℕ) : Option CoffHeader := do
 let signature ← readUInt32 bytes pe
 guard (signature=kPeSignature)
 let machine ← readUInt16 bytes (pe+4)
 let sectionCount ← readUInt16 bytes (pe+4+2)
 let timestamp ← readUInt32 bytes (pe+4+4)
 let optionalSize ← readUInt16 bytes (pe+4+16)
 return { machine,sectionCount,timestamp,optionalSize }

/-- The image size and the checksum of a PE32+ optional header. -/
def optionalHeader (bytes : List UInt8) (optional : ℕ) : Option (UInt32×UInt32) := do
 let magic ← readUInt16 bytes optional
 guard (magic=kPe32PlusMagic)
 let imageSize ← readUInt32 bytes (optional+kOptionalImageSizeOffset)
 let checksum ← readUInt32 bytes (optional+kOptionalChecksumOffset)
 return (imageSize,checksum)

/-- What `ParsePe64ImageMetadata` checks from the COFF header on. -/
def parseHeaders (bytes : List UInt8) (optional : ℕ) (coff : CoffHeader) :
 Result PeImageMetadata :=
 if coff.machine≠kAmd64Machine then
  .error (makeError .unsupported "Kernel image is not AMD64" "ParsePe64ImageMetadata"
   coff.machine.toUInt64)
 else if coff.sectionCount=0 ∨ kMaximumSections < coff.sectionCount then
  .error (makeError .limitReached "PE section count is zero or exceeds the parser limit"
   "ParsePe64ImageMetadata" 0 kMaximumSections.toUInt64 coff.sectionCount.toUInt64)
 else if coff.optionalSize.toNat < kOptionalChecksumOffset+4 ∨ bytes.length < optional ∨
  bytes.length-optional < coff.optionalSize.toNat then
  .error (makeError .parseError "PE32+ optional header is incomplete" "ParsePe64ImageMetadata")
 else match optionalHeader bytes optional with
  | none =>
   .error (makeError .parseError "Image does not contain a valid PE32+ optional header"
    "ParsePe64ImageMetadata")
  | some (imageSize,checksum) =>
   if imageSize=0 then
    .error (makeError .parseError "PE image size is zero" "ParsePe64ImageMetadata")
   else
    .ok { machine := coff.machine,sectionCount := coff.sectionCount,timestamp := coff.timestamp,
          imageSize,checksum }

def parsePe64ImageMetadata (bytes : List UInt8) : Result PeImageMetadata :=
 match dosHeader bytes with
 | none =>
  .error (makeError .parseError "File does not contain a complete DOS header"
   "ParsePe64ImageMetadata")
 | some peOffset =>
  let pe := peOffset.toNat
  if bytes.length < pe ∨ bytes.length-pe<4+kCoffHeaderBytes then
   .error (makeError .parseError "PE header offset is outside the bounded input"
    "ParsePe64ImageMetadata")
  else match coffHeader bytes pe with
   | none =>
    .error (makeError .parseError "File does not contain a complete PE/COFF header"
     "ParsePe64ImageMetadata")
   | some coff => parseHeaders bytes (pe+4+kCoffHeaderBytes) coff

def kInitialHeaderBytes : ℕ := 4096
def kMaximumHeaderBytes : ℕ := 1024*1024
def kMaximumBoundedPeHeaders : ℕ := 4096
def kPeAndCoffBytes : ℕ := 4+20

def shortHeader : Error :=
 makeError .shortRead "Local kernel image header could not be read"
  "EnumerateKernelModules.ReadImageMetadata"

/-- `ReadImageMetadata`. There is no content if the file cannot be opened. -/
def readImageMetadata (file : Option (List UInt8)) : Result PeImageMetadata :=
 match file with
 | none =>
  .error (makeError .ioFailure "Local kernel image could not be opened"
   "EnumerateKernelModules.ReadImageMetadata")
 | some content =>
  let bytes := content.take kInitialHeaderBytes
  if bytes.length=0 then .error shortHeader
  else match parsePe64ImageMetadata bytes with
   | .ok metadata => .ok metadata
   | .error error =>
    match dosHeader bytes with
    | none => .error error
    | some peOffset =>
     if kMaximumHeaderBytes-kPeAndCoffBytes < peOffset.toNat ∨
      kMaximumHeaderBytes-kMaximumBoundedPeHeaders < peOffset.toNat+kPeAndCoffBytes then
      .error (makeError .limitReached "Local PE header offset exceeds the bounded metadata read"
       "EnumerateKernelModules.ReadImageMetadata" 0 (UInt64.ofNat kMaximumHeaderBytes)
       peOffset.toUInt64)
     else
      let required := peOffset.toNat+kPeAndCoffBytes+kMaximumBoundedPeHeaders
      if required ≤ bytes.length then .error error
      else if (content.take required).length=0 then .error shortHeader
      else parsePe64ImageMetadata (content.take required)

/-- The bytes start with the headers of a PE32+ image for AMD64 with this PE offset, size of the
 optional header and metadata. -/
structure IsPe64 (bytes : List UInt8) (pe : UInt32) (size : UInt16)
 (metadata : PeImageMetadata) : Prop where
 dosMagic : readUInt16 bytes 0=some kDosMagic
 peOffset : readUInt32 bytes kDosPeOffset=some pe
 signature : readUInt32 bytes pe.toNat=some kPeSignature
 machine : readUInt16 bytes (pe.toNat+4)=some metadata.machine
 sectionCount : readUInt16 bytes (pe.toNat+4+2)=some metadata.sectionCount
 timestamp : readUInt32 bytes (pe.toNat+4+4)=some metadata.timestamp
 optionalSize : readUInt16 bytes (pe.toNat+4+16)=some size
 optionalMagic : readUInt16 bytes (pe.toNat+24)=some kPe32PlusMagic
 imageSize : readUInt32 bytes (pe.toNat+24+56)=some metadata.imageSize
 checksum : readUInt32 bytes (pe.toNat+24+64)=some metadata.checksum
 amd64 : metadata.machine=kAmd64Machine
 sections : metadata.sectionCount≠0 ∧ metadata.sectionCount ≤ kMaximumSections
 needed : 68 ≤ size.toNat
 complete : pe.toNat+24+size.toNat ≤ bytes.length
 filled : metadata.imageSize≠0

section Headers
variable {content bytes:List UInt8} {pe:UInt32} {size:UInt16} {metadata:PeImageMetadata}
 {coff:CoffHeader} {n offset width:ℕ}

lemma dosHeader_eq_some_iff : dosHeader bytes=some pe ↔
 readUInt16 bytes 0=some kDosMagic ∧ readUInt32 bytes kDosPeOffset=some pe := by
 simp [dosHeader,Option.bind_eq_some_iff,guard]

lemma coffHeader_eq_some_iff {pe:ℕ} : coffHeader bytes pe=some coff ↔
 readUInt32 bytes pe=some kPeSignature ∧ readUInt16 bytes (pe+4)=some coff.machine ∧
  readUInt16 bytes (pe+4+2)=some coff.sectionCount ∧
  readUInt32 bytes (pe+4+4)=some coff.timestamp ∧
  readUInt16 bytes (pe+4+16)=some coff.optionalSize := by
 cases coff
 simp only [coffHeader,bind,Option.bind_eq_some_iff,guard,pure,Option.some.injEq,
  CoffHeader.mk.injEq]
 constructor
 · rintro ⟨_,signature,_,same,machine,read,sections,read',stamp,read'',size,read3,rfl,rfl,rfl,rfl⟩
   split at same
   · rename_i found
     subst found
     exact ⟨signature,read,read',read'',read3⟩
   · cases same
 · rintro ⟨signature,machine,sections,stamp,size⟩
   exact ⟨_,signature,(),if_pos rfl,_,machine,_,sections,_,stamp,_,size,rfl,rfl,rfl,rfl⟩

lemma optionalHeader_eq_some_iff {optional:ℕ} {imageSize checksum:UInt32} :
 optionalHeader bytes optional=some (imageSize,checksum) ↔
  readUInt16 bytes optional=some kPe32PlusMagic ∧
   readUInt32 bytes (optional+kOptionalImageSizeOffset)=some imageSize ∧
   readUInt32 bytes (optional+kOptionalChecksumOffset)=some checksum := by
 simp [optionalHeader,Option.bind_eq_some_iff,guard]

lemma parseHeaders_ok_iff {optional:ℕ} : parseHeaders bytes optional coff=.ok metadata ↔
 coff.machine=kAmd64Machine ∧ (coff.sectionCount≠0 ∧ coff.sectionCount ≤ kMaximumSections) ∧
  (68 ≤ coff.optionalSize.toNat ∧ optional+coff.optionalSize.toNat ≤ bytes.length) ∧
  optionalHeader bytes optional=some (metadata.imageSize,metadata.checksum) ∧
  metadata.imageSize≠0 ∧ coff.machine=metadata.machine ∧
  coff.sectionCount=metadata.sectionCount ∧ coff.timestamp=metadata.timestamp := by
 constructor
 · intro parsed
   rw [parseHeaders] at parsed
   split at parsed
   · cases parsed
   split at parsed
   · cases parsed
   split at parsed
   · cases parsed
   rename_i amd64 sections complete
   rw [kOptionalChecksumOffset] at complete
   split at parsed
   · cases parsed
   split at parsed
   · cases parsed
   · rename_i header filled
     cases parsed
     push Not at amd64 sections complete
     exact ⟨amd64,⟨sections.1,UInt16.not_lt.1 sections.2⟩,⟨by omega,by omega⟩,header,filled,
      rfl,rfl,rfl⟩
 · rintro ⟨amd64,⟨some_section,sections⟩,⟨needed,complete⟩,header,filled,machine,count,stamp⟩
   rw [parseHeaders,if_neg (by simpa using amd64),if_neg (by simp [some_section,sections]),
    if_neg (by rw [kOptionalChecksumOffset];omega),header]
   simp only [if_neg filled,machine,count,stamp]

/-- The parser accepts the images it is for, and nothing else. -/
lemma parsePe64ImageMetadata_ok_iff : parsePe64ImageMetadata bytes=.ok metadata ↔
 ∃ pe size,IsPe64 bytes pe size metadata := by
 constructor
 · intro parsed
   rw [parsePe64ImageMetadata] at parsed
   split at parsed
   · cases parsed
   rename_i pe dos
   dsimp only at parsed
   split at parsed
   · cases parsed
   split at parsed
   · cases parsed
   rename_i coff found
   obtain ⟨dosMagic,peOffset⟩:=dosHeader_eq_some_iff.1 dos
   obtain ⟨signature,machine,sections,stamp,size⟩:=coffHeader_eq_some_iff.1 found
   obtain ⟨amd64,counts,⟨needed,complete⟩,header,filled,same,same',same''⟩ :=
    parseHeaders_ok_iff.1 parsed
   obtain ⟨optionalMagic,imageSize,checksum⟩:=optionalHeader_eq_some_iff.1 header
   rw [same] at machine amd64
   rw [same'] at sections counts
   rw [same''] at stamp
   exact ⟨pe,coff.optionalSize,dosMagic,peOffset,signature,machine,sections,stamp,size,
    optionalMagic,imageSize,checksum,amd64,counts,needed,complete,filled⟩
 · rintro ⟨pe,size,h⟩
   have dos:=dosHeader_eq_some_iff.2 ⟨h.dosMagic,h.peOffset⟩
   have coff : coffHeader bytes pe.toNat =
    some ⟨metadata.machine,metadata.sectionCount,metadata.timestamp,size⟩ :=
    coffHeader_eq_some_iff.2 ⟨h.signature,h.machine,h.sectionCount,h.timestamp,h.optionalSize⟩
   have inside:=h.complete
   rw [parsePe64ImageMetadata,dos]
   dsimp only
   rw [if_neg (by rw [kCoffHeaderBytes];omega),coff]
   exact parseHeaders_ok_iff.2 ⟨h.amd64,h.sections,⟨h.needed,h.complete⟩,
    optionalHeader_eq_some_iff.2 ⟨h.optionalMagic,h.imageSize,h.checksum⟩,h.filled,rfl,rfl,rfl⟩

lemma readLittleEndian_take : readLittleEndian (bytes.take n) offset width =
 if offset+width ≤ n then readLittleEndian bytes offset width else none := by
 simp only [readLittleEndian,List.length_take]
 by_cases inside:offset+width ≤ n
 · rw [if_pos inside]
   by_cases long:offset+width ≤ bytes.length
   · rw [if_neg (by omega),if_neg (by omega),List.drop_take,List.take_take,
      min_eq_left (by omega)]
   · rw [if_pos (by omega),if_pos (by omega)]
 · rw [if_pos (by omega),if_neg inside]

lemma readUInt16_take {value:UInt16} : readUInt16 (bytes.take n) offset=some value ↔
 readUInt16 bytes offset=some value ∧ offset+2 ≤ n := by
 rw [readUInt16,readLittleEndian_take,readUInt16]
 split <;> simp [*]

lemma readUInt32_take {value:UInt32} : readUInt32 (bytes.take n) offset=some value ↔
 readUInt32 bytes offset=some value ∧ offset+4 ≤ n := by
 rw [readUInt32,readLittleEndian_take,readUInt32]
 split <;> simp [*]

/-- A beginning of the bytes has the same headers, if it is long enough for them. -/
lemma isPe64_take_iff : IsPe64 (bytes.take n) pe size metadata ↔
 IsPe64 bytes pe size metadata ∧ pe.toNat+24+size.toNat ≤ n := by
 constructor
 · intro h
   have complete:=h.complete
   rw [List.length_take] at complete
   exact ⟨⟨(readUInt16_take.1 h.dosMagic).1,(readUInt32_take.1 h.peOffset).1,
    (readUInt32_take.1 h.signature).1,(readUInt16_take.1 h.machine).1,
    (readUInt16_take.1 h.sectionCount).1,(readUInt32_take.1 h.timestamp).1,
    (readUInt16_take.1 h.optionalSize).1,(readUInt16_take.1 h.optionalMagic).1,
    (readUInt32_take.1 h.imageSize).1,(readUInt32_take.1 h.checksum).1,h.amd64,h.sections,
    h.needed,by omega,h.filled⟩,by omega⟩
 · rintro ⟨h,long⟩
   have complete:=h.complete
   have needed:=h.needed
   refine ⟨readUInt16_take.2 ⟨h.dosMagic,?_⟩,readUInt32_take.2 ⟨h.peOffset,?_⟩,
    readUInt32_take.2 ⟨h.signature,?_⟩,readUInt16_take.2 ⟨h.machine,?_⟩,
    readUInt16_take.2 ⟨h.sectionCount,?_⟩,readUInt32_take.2 ⟨h.timestamp,?_⟩,
    readUInt16_take.2 ⟨h.optionalSize,?_⟩,readUInt16_take.2 ⟨h.optionalMagic,?_⟩,
    readUInt32_take.2 ⟨h.imageSize,?_⟩,readUInt32_take.2 ⟨h.checksum,?_⟩,h.amd64,h.sections,
    needed,?_,h.filled⟩
   all_goals try rw [kDosPeOffset]
   all_goals try rw [List.length_take]
   all_goals omega

lemma parse_of_readImageMetadata (read:readImageMetadata (some content)=.ok metadata) :
 parsePe64ImageMetadata content=.ok metadata := by
 have whole {n:ℕ} (parsed:parsePe64ImageMetadata (content.take n)=.ok metadata) :
  parsePe64ImageMetadata content=.ok metadata := by
  obtain ⟨pe,size,headers⟩:=parsePe64ImageMetadata_ok_iff.1 parsed
  exact parsePe64ImageMetadata_ok_iff.2 ⟨pe,size,(isPe64_take_iff.1 headers).1⟩
 rw [readImageMetadata] at read
 dsimp only at read
 split at read
 · cases read
 split at read
 · rename_i parsed
   cases read
   exact whole parsed
 · split at read
   · cases read
   split at read
   · cases read
   split at read
   · cases read
   split at read
   · cases read
   · exact whole read

lemma readImageMetadata_of_parse (headers:IsPe64 content pe size metadata)
 (optional:size.toNat≤4096) (near:pe.toNat+24+4096≤1024*1024) :
 readImageMetadata (some content)=.ok metadata := by
 have needed:=headers.needed
 have complete:=headers.complete
 have some_byte:¬(content.take kInitialHeaderBytes).length=0:=by
  rw [List.length_take,kInitialHeaderBytes]
  omega
 rw [readImageMetadata]
 dsimp only
 rw [if_neg some_byte]
 cases first:parsePe64ImageMetadata (content.take kInitialHeaderBytes) with
 | ok metadata' =>
  obtain ⟨pe',size',headers'⟩:=parsePe64ImageMetadata_ok_iff.1 first
  have whole:=parsePe64ImageMetadata_ok_iff.2 ⟨pe',size',(isPe64_take_iff.1 headers').1⟩
  have same:=parsePe64ImageMetadata_ok_iff.2 ⟨pe,size,headers⟩
  exact whole.symm.trans same
 | error error =>
  -- the DOS header is within the first read, so that the second one has the right length
  have dos : dosHeader (content.take kInitialHeaderBytes)=some pe :=
   dosHeader_eq_some_iff.2 ⟨readUInt16_take.2 ⟨headers.dosMagic,by decide⟩,
    readUInt32_take.2 ⟨headers.peOffset,by decide⟩⟩
  have second : parsePe64ImageMetadata
   (content.take (pe.toNat+kPeAndCoffBytes+kMaximumBoundedPeHeaders))=.ok metadata :=
   parsePe64ImageMetadata_ok_iff.2 ⟨pe,size,isPe64_take_iff.2 ⟨headers,by
    rw [kPeAndCoffBytes,kMaximumBoundedPeHeaders]
    omega⟩⟩
  simp only [dos]
  rw [if_neg,if_neg,if_neg,second]
  all_goals
   simp only [kMaximumHeaderBytes,kMaximumBoundedPeHeaders,kPeAndCoffBytes,kInitialHeaderBytes,
    List.length_take]
   omega

end Headers

/-- What the bounded read accepts is accepted of the whole file with the same metadata, and
 headers within its bounds are read as those of the whole file. -/
theorem bounded_header_read_exact :
 (∀ (content : List UInt8) (metadata : PeImageMetadata),
  readImageMetadata (some content)=.ok metadata →
   parsePe64ImageMetadata content=.ok metadata) ∧
 (∀ (content : List UInt8) (metadata : PeImageMetadata) (pe : UInt32) (size : UInt16),
  parsePe64ImageMetadata content=.ok metadata → dosHeader content=some pe →
   readUInt16 content (pe.toNat+4+16)=some size → size.toNat≤4096 →
    pe.toNat+24+4096≤1024*1024 → readImageMetadata (some content)=.ok metadata) := by
 refine ⟨fun _ _=>parse_of_readImageMetadata,?_⟩
 intro content metadata pe size parsed dos optional small near
 obtain ⟨pe',size',headers⟩ := parsePe64ImageMetadata_ok_iff.1 parsed
 have same : pe'=pe :=
  Option.some.inj (headers.peOffset.symm.trans (dosHeader_eq_some_iff.1 dos).2)
 subst same
 have same : size'=size := Option.some.inj (headers.optionalSize.symm.trans optional)
 subst same
 exact readImageMetadata_of_parse headers small near

/-- A file whose PE header begins six bytes before the end of the first read. -/
def sampleImage : List UInt8 :=
 [0x4D,0x5A]++List.replicate 58 0++[0xFA,0x0F,0,0]++List.replicate (0xFFA-64) 0 ++
 [0x50,0x45,0,0]++[0x64,0x86,1,0]++[0x78,0x56,0x34,0x12]++List.replicate 8 0++[68,0,0,0] ++
 [0x0B,0x02]++List.replicate 54 0++[0,0x10,0,0]++List.replicate 4 0++[0xEF,0xBE,0,0]

def sampleMetadata : PeImageMetadata where
 machine := 0x8664
 sectionCount := 1
 timestamp := 0x12345678
 imageSize := 0x1000
 checksum := 0xBEEF

/-- The second read is needed, and gives what the whole file does. -/
theorem sampleImage_read :
 (parsePe64ImageMetadata (sampleImage.take kInitialHeaderBytes)).isOk=false ∧
 readImageMetadata (some sampleImage)=.ok sampleMetadata ∧
 parsePe64ImageMetadata sampleImage=.ok sampleMetadata := by
 have parsed : parsePe64ImageMetadata sampleImage=.ok sampleMetadata := by decide +kernel
 have read := bounded_header_read_exact.2 _ _ 0xFFA 68 parsed (by decide +kernel)
  (by decide +kernel) (by decide) (by decide)
 exact ⟨by decide +kernel,read,bounded_header_read_exact.1 _ _ read⟩

end KDbg.KernelImage
