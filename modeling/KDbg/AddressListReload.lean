import KDbg.AddressListInvariant
set_option autoImplicit false
/-! An address list that was saved is loaded again as it was, unfrozen, unless a description holds
a null byte or a row is longer than the rows that `Load` takes. -/
namespace KDbg
open Interaction TextStream ListFile Prog

namespace AddressList

section Fields
variable {fields:List (List UInt8)} {field:List UInt8}

lemma tabbed_cons (field:List UInt8) (fields:List (List UInt8)) :
 tabbed (field::fields)=[tab]++(field++tabbed fields) := by
 simp [tabbed]

lemma tab_blank : ∀byte∈[tab],isBlank byte=true := by
 intro _ member
 rw [List.mem_singleton.1 member]
 rfl

lemma stops_tabbed {p:UInt8→Bool} (h:p tab=false) (fields:List (List UInt8)) :
 Stops p (tabbed fields) := by
 cases fields with
 | nil => exact stops_nil p
 | cons => exact stops_cons h

lemma unsigned_field {width n:ℕ} (fits:n<2^width) :
 unsigned width (.ahead (tabbed (decimal n::fields)))=some (n, .ahead (tabbed fields)) := by
 rw [tabbed_cons]
 exact unsigned_run tab_blank (stops_tabbed rfl fields) fits

lemma signed_field {width:ℕ} {n:ℤ} (low:-2^(width-1) ≤ n) (high:n<2^(width-1)) :
 signed width (.ahead (tabbed (decimalInt n::fields)))=some (n, .ahead (tabbed fields)) := by
 exact signed_run tab_blank (stops_tabbed rfl fields) low high

lemma signed_small {n:ℕ} (small:n<2^31) :
 signed 32 (.ahead (tabbed (decimal n::fields)))=some ((n:ℤ), .ahead (tabbed fields)) := by
 have written:decimal n=decimalInt n:=rfl
 rw [written]
 exact signed_field (by omega) (by omega)

lemma quoted_field (text:List UInt8) :
 quotedText (.ahead (tabbed (quoted text::fields)))=some (text,{ rest := tabbed fields }) := by
 exact quotedText_run text tab_blank

lemma word_field (filled:field≠[]) (solid:∀byte∈field,isBlank byte=false) :
 word (.ahead (tabbed (field::fields)))=some (field, .ahead (tabbed fields)) := by
 exact word_run tab_blank filled solid (stops_tabbed rfl fields)

end Fields

lemma nibble_hexDigit {value:ℕ} (h:value<16) : nibble (hexDigit value)=some value := by
 interval_cases value <;> rfl

lemma hexDigit_plain {value:ℕ} (h:value<16) :
 isBlank (hexDigit value)=false ∧ hexDigit value≠0 := by
 interval_cases value <;> decide

lemma unhexPairs_hex (bytes:List UInt8) : unhexPairs (hex bytes)=some bytes := by
 induction bytes with
 | nil => rfl
 | cons byte bytes ih =>
  have small:=byte.toNat_lt
  have joined:UInt8.ofNat (16*(byte.toNat/16)+byte.toNat%16)=byte:=by
   rw [Nat.div_add_mod,UInt8.ofNat_toNat]
  change unhexPairs (hexDigit (byte.toNat/16)::hexDigit (byte.toNat%16)::hex bytes)=_
  rw [unhexPairs,nibble_hexDigit (by omega),nibble_hexDigit (by omega),ih]
  simp only [Option.bind_some,Option.map_some,joined]

lemma length_hex (bytes:List UInt8) : (hex bytes).length=2*bytes.length := by
 induction bytes with
 | nil => rfl
 | cons _ bytes ih =>
  change (hex bytes).length+1+1=_
  rw [List.length_cons]
  omega

lemma unhex_hex (bytes:List UInt8) : unhex (hex bytes)=.ok bytes := by
 rw [unhex,if_neg (by rw [length_hex];omega),unhexPairs_hex]

variable {byte:UInt8} {entry:AddressEntry}

lemma hex_plain {bytes:List UInt8} (h:byte∈hex bytes) :
 isBlank byte=false ∧ byte≠0 := by
 obtain ⟨source,-,member⟩:=List.mem_flatMap.1 h
 have small:=source.toNat_lt
 rcases List.mem_pair.1 member with rfl|rfl
 · exact hexDigit_plain (by omega)
 · exact hexDigit_plain (by omega)

def freezeField (value : List UInt8) : List UInt8 := if value=[] then [0x2D] else hex value

lemma freezePayload_freezeField (value:List UInt8) :
 freezePayload (freezeField value)=.ok value := by
 unfold freezeField freezePayload
 split
 · rename_i empty
   rw [if_pos (by simp),empty]
 · rename_i filled
   have long:2≤(hex value).length:=by
    have := List.length_pos_iff.2 filled
    rw [length_hex]
    omega
   rw [if_neg,unhex_hex]
   rintro (short | short)
   · simp [short] at long
   · simp [short] at long

lemma freezeField_plain (value:List UInt8) :
 freezeField value≠[] ∧ ∀byte∈freezeField value,isBlank byte=false ∧ byte≠0 := by
 unfold freezeField
 split
 · simp
   decide
 · rename_i filled
   refine ⟨fun empty=>filled ?_,fun _=>hex_plain⟩
   rw [←List.length_eq_zero_iff,length_hex] at empty
   exact List.length_eq_zero_iff.1 (by omega)

lemma kindOf_kindCode (kind:MemorySpaceKind) : kindOf (kindCode kind)=some kind := by
 cases kind <;> rfl

lemma kindCode_lt (kind:MemorySpaceKind) : kindCode kind<2^31 := by
 cases kind <;> decide

lemma typeOf_typeCode (type:ScanValueType) : typeOf (typeCode type)=some type :=
 typeOfCode_typeCode type

lemma typeCode_lt (type:ScanValueType) : typeCode type<2^31 :=
 (ListFile.typeCode_lt type).trans (by decide)

/-- What of a memory space is persisted. -/
def persistedSpace (space : MemorySpace) : MemorySpace := { kind := space.kind,pid := space.pid }

def persistedPath (path : AddressPointerPath) : AddressPointerPath :=
 { path with space := persistedSpace path.space }

/-- What of an entry is persisted. -/
def persisted (entry : AddressEntry) : AddressEntry :=
 { id := entry.id,description := entry.description,space := persistedSpace entry.space,
   address := entry.address,type := entry.type,width := entry.width,
   pointerPath := entry.pointerPath.map persistedPath,frozen := entry.frozen,
   freezeValue := entry.freezeValue }

lemma persisted_valid (valid:Valid entry) : Valid (persisted entry) :=
 { valid with
   current := fun filled=>absurd rfl filled
   pointer := by
    intro _ member
    obtain ⟨source,named,rfl⟩:=Option.mem_map.1 member
    exact { valid.pointer source named with } }

def headOf (entry : AddressEntry) : RowHead :=
 { id := entry.id,kind := kindCode entry.space.kind,pid := entry.space.pid,
   address := entry.address,type := typeCode entry.type,width := entry.width,
   frozen := if entry.frozen then 1 else 0,description := entry.description }

def tailFields (entry : AddressEntry) : List (List UInt8) :=
 freezeField entry.freezeValue::decimal (if entry.pointerPath.isSome then 1 else 0) ::
  (entry.pointerPath.map pointerFields).getD []

lemma rowHead_row (entry:AddressEntry) :
 rowHead { rest := row entry } =
  some (headOf entry,{ rest := tabbed (tailFields entry) }) := by
 have fields : rowFields entry=decimal (kindCode entry.space.kind) ::
  decimal entry.space.pid.toNat::decimal entry.address.toNat ::
  decimal (ListFile.typeCode entry.type)::decimal entry.width.toNat ::
  decimal (if entry.frozen then 1 else 0)::quoted entry.description ::
  tailFields entry := rfl
 have first : unsigned 64 { rest := row entry } =
  some (entry.id.toNat, .ahead (tabbed (rowFields entry))) := by
  have unindented:∀byte∈([] : List UInt8),isBlank byte=true:=by simp
  exact unsigned_run unindented (stops_tabbed rfl _) entry.id.toNat_lt
 have bit:(if entry.frozen then 1 else 0)<2^31:=by split <;> decide
 have frozen:(((if entry.frozen then 1 else 0 : ℕ)) : ℤ)=if entry.frozen then 1 else 0:=by
  split <;> rfl
 rw [rowHead,first,fields]
 simp only [Option.bind_some,signed_small (kindCode_lt _),unsigned_field entry.space.pid.toNat_lt,
  unsigned_field entry.address.toNat_lt,signed_small (typeCode_lt _),
  unsigned_field entry.width.toNat_lt,signed_small bit,quoted_field,Option.map_some,frozen,
  UInt64.ofNat_toNat,UInt32.ofNat_toNat,headOf]

lemma pointerOffsets_tabbed (offsets:List Int64) :
 pointerOffsets offsets.length
  (.ahead (tabbed (offsets.map fun offset=>decimalInt offset.toInt))) =
  some (offsets, .ahead []) := by
 induction offsets with
 | nil => rfl
 | cons offset _ ih =>
  have low : -2^(64-1) ≤ offset.toInt := Int64.le_toInt offset
  have high:offset.toInt<2^(64-1):=Int64.toInt_lt offset
  rw [List.length_cons,List.map_cons,pointerOffsets,signed_field low high]
  simp only [Option.bind_some,ih,Option.map_some,Int64.ofInt_toInt]

lemma pointerHead_pointerFields (path:AddressPointerPath)
 (depth:path.offsets.length ≤ PointerResolver.kMaxDepth) :
 pointerHead (.ahead (tabbed (pointerFields path))) =
  some (((kindCode path.space.kind : ℤ),
   { space := { pid := path.space.pid },baseAddress := path.baseAddress,
     pointerSize := path.pointerSize },path.offsets.length),
   .ahead (tabbed (path.offsets.map fun offset=>decimalInt offset.toInt))) := by
 have short:path.offsets.length<2^64:=lt_of_le_of_lt depth (by decide)
 have fields : pointerFields path=decimal (kindCode path.space.kind) ::
  decimal path.space.pid.toNat::decimal path.baseAddress.toNat ::
  decimal path.pointerSize.toNat::decimal path.offsets.length ::
  path.offsets.map fun offset=>decimalInt offset.toInt := rfl
 rw [pointerHead,fields]
 simp only [Option.bind_some,signed_small (kindCode_lt _),unsigned_field path.space.pid.toNat_lt,
  unsigned_field path.baseAddress.toNat_lt,unsigned_field path.pointerSize.toNat_lt,
  unsigned_field short,Option.map_some,UInt64.ofNat_toNat,UInt32.ofNat_toNat]

lemma rowPointer_pointerFields (path:AddressPointerPath)
 (depth:path.offsets.length ≤ PointerResolver.kMaxDepth) :
 rowPointer (.ahead (tabbed (pointerFields path)))=.ok (persistedPath path, .ahead []) := by
 rw [rowPointer,pointerHead_pointerFields path depth]
 simp only [kindOf_kindCode,Nat.not_lt.2 depth,if_false,pointerOffsets_tabbed]
 rfl

lemma rowTail_tailFields (valid:Valid entry) :
 rowTail kAddressListVersion (ws { rest := tabbed (tailFields entry) }) =
  .ok ((freezeField entry.freezeValue,entry.pointerPath.map persistedPath), .ahead []) := by
 obtain ⟨filled,plain⟩:=freezeField_plain entry.freezeValue
 have freeze : word { rest := tabbed (tailFields entry) } =
  some (freezeField entry.freezeValue, .ahead (tabbed
   (decimal (if entry.pointerPath.isSome then 1 else 0) ::
    (entry.pointerPath.map pointerFields).getD []))) :=
  word_field filled fun byte member=>(plain byte member).1
 have current:kAddressListVersion≠kLegacyAddressListVersion:=by decide
 rw [rowTail,word_ws,freeze]
 cases named:entry.pointerPath with
 | none =>
  rfl
 | some path =>
  have depth:=(valid.pointer path named).depth
  simp only [Option.isSome_some,if_true,Option.bind_some,signed_small (n := 1) (by decide),
   Option.map_some,Option.getD_some,rowPointer_pointerFields path depth]
  rfl

lemma rowEntry_headOf (valid:Valid entry) (nonzero:entry.id≠0)
 (bounded:entry.id≠maxUInt64) :
 rowEntry (headOf entry) (freezeField entry.freezeValue)
  (entry.pointerPath.map persistedPath)=.ok (persisted entry) := by
 have checked : validateEntry (persisted entry) "AddressList::Load" = .ok () :=
  validateEntry_eq_ok.2 (persisted_valid valid)
 have bit:(headOf entry).frozen=0 ∨ (headOf entry).frozen=1:=by
  cases h:entry.frozen <;> simp [headOf,h]
 have frozen:((headOf entry).frozen != 0)=entry.frozen:=by
  cases h:entry.frozen <;> simp [headOf,h]
 have kind:kindOf (headOf entry).kind=some entry.space.kind:=kindOf_kindCode _
 have type:typeOf (headOf entry).type=some entry.type:=typeOf_typeCode _
 have same :
  ({ id := (headOf entry).id,description := (headOf entry).description,
     space := { kind := entry.space.kind,pid := (headOf entry).pid },
     address := (headOf entry).address,type := entry.type,width := (headOf entry).width,
     pointerPath := entry.pointerPath.map persistedPath,
     frozen := (headOf entry).frozen != 0,
     freezeValue := entry.freezeValue } : AddressEntry)=persisted entry := by
  rw [frozen]
  rfl
 simp only [rowEntry,kind,type,freezePayload_freezeField,same,checked]
 rw [if_neg,if_neg,if_neg]
 · rintro ⟨off,filled⟩
   rw [frozen] at off
   exact filled (valid.unfrozen (by simpa using off))
 · rintro ⟨on,other⟩
   rw [frozen] at on
   exact other (valid.frozen on)
 · rintro (zero | most | neither)
   · exact nonzero zero
   · exact bounded most
   · rcases bit with bit|bit
     · exact neither.1 bit
     · exact neither.2 bit

lemma parseRow_row (valid:Valid entry) (nonzero:entry.id≠0)
 (bounded:entry.id≠maxUInt64) :
 parseRow kAddressListVersion (row entry)=.ok (persisted entry) := by
 rw [parseRow,rowHead_row]
 simp only [rowTail_tailFields valid]
 exact rowEntry_headOf valid nonzero bounded

lemma decimal_plain {n:ℕ} (h:byte∈decimal n) : byte≠0 ∧ byte≠newline := by
 have digit:=isDigit_of_mem_decimal h
 constructor
 · rintro rfl
   exact absurd digit (by decide)
 · rintro rfl
   exact absurd digit (by decide)

lemma decimalInt_plain {n:ℤ} (h:byte∈decimalInt n) : byte≠0 ∧ byte≠newline := by
 cases n with
 | ofNat => exact decimal_plain h
 | negSucc =>
  rcases List.mem_cons.1 h with rfl|h
  · decide
  · exact decimal_plain h

lemma pointerFields_plain {path:AddressPointerPath} {field:List UInt8}
 (h:field∈pointerFields path) (member:byte∈field) : byte≠0 ∧ byte≠newline := by
 rcases List.mem_append.1 h with h|h
 · simp only [List.mem_cons,List.not_mem_nil,or_false] at h
   rcases h with rfl|rfl|rfl|rfl|rfl <;> exact decimal_plain member
 · obtain ⟨_,-,rfl⟩:=List.mem_map.1 h
   exact decimalInt_plain member

lemma mem_tabbed {fields:List (List UInt8)} (other:byte≠tab) :
 byte∈tabbed fields ↔ ∃ field∈fields,byte∈field := by
 simp [tabbed,List.mem_flatMap,other]

lemma freezeField_unbroken {value:List UInt8} (h:byte∈freezeField value) :
 byte≠0 ∧ byte≠newline := by
 obtain ⟨unblank,nonzero⟩:=(freezeField_plain value).2 byte h
 refine ⟨nonzero,?_⟩
 rintro rfl
 exact absurd unblank (by decide)

/-- Every field of a row but the description is free of null bytes and line breaks. -/
lemma rowFields_plain {field:List UInt8} (h:field∈rowFields entry)
 (other:field≠quoted entry.description) (member:byte∈field) :
 byte≠0 ∧ byte≠newline := by
 rcases List.mem_append.1 h with h|h
 · simp only [List.mem_cons,List.not_mem_nil,or_false] at h
   rcases h with rfl|rfl|rfl|rfl|rfl|rfl|rfl|rfl|rfl
   · exact decimal_plain member
   · exact decimal_plain member
   · exact decimal_plain member
   · exact decimal_plain member
   · exact decimal_plain member
   · exact decimal_plain member
   · exact absurd rfl other
   · exact freezeField_unbroken member
   · exact decimal_plain member
 · cases named:entry.pointerPath with
   | none => simp [named] at h
   | some =>
    rw [named] at h
    exact pointerFields_plain h member

lemma row_special (special:byte=0 ∨ byte=newline) :
 byte∈row entry ↔ byte∈entry.description := by
 have distinct:byte≠tab ∧ byte≠quote ∧ byte≠backslash:=by
  rcases special with rfl|rfl <;> decide
 obtain ⟨blank,plain,solid⟩:=distinct
 have plainly:¬(byte≠0 ∧ byte≠newline):=by
  rcases special with rfl|rfl <;> simp
 rw [row,List.mem_append,mem_tabbed blank]
 constructor
 · rintro (member | ⟨field,among,member⟩)
   · exact absurd (decimal_plain member) plainly
   · by_cases same:field=quoted entry.description
     · rwa [same,mem_quoted plain solid] at member
     · exact absurd (rowFields_plain among same member) plainly
 · intro member
   exact .inr ⟨quoted entry.description,by simp [rowFields],(mem_quoted plain solid).2 member⟩

def rowNumbers (entry : AddressEntry) : List ℤ :=
 [(entry.id.toNat : ℤ),kindCode entry.space.kind,entry.space.pid.toNat,entry.address.toNat,
  ListFile.typeCode entry.type,entry.width.toNat,if entry.frozen then 1 else 0,
  if entry.pointerPath.isSome then 1 else 0] ++
 (entry.pointerPath.map fun path =>
  [(kindCode path.space.kind : ℤ),path.space.pid.toNat,path.baseAddress.toNat,
   path.pointerSize.toNat,path.offsets.length]++path.offsets.map (·.toInt)).getD []

/-- The length of a row: its numbers in decimal, each with a tab, the description with a second
 byte for each quote and backslash, and two digits for each frozen byte. -/
def rowBytes (entry : AddressEntry) : ℕ :=
 ((rowNumbers entry).map fun n=>(decimalInt n).length+1).sum +
  (entry.description.length +
   entry.description.countP (fun byte=>byte=quote ∨ byte=backslash)+2) +
  max 1 (2*entry.freezeValue.length)+1

lemma length_tabbed (fields:List (List UInt8)) :
 (tabbed fields).length=(fields.map fun field=>field.length+1).sum := by
 induction fields with
 | nil => rfl
 | cons _ _ ih =>
  rw [tabbed_cons,List.length_append,List.length_append,ih]
  simp
  omega

lemma length_freezeField (value:List UInt8) :
 (freezeField value).length=max 1 (2*value.length) := by
 unfold freezeField
 split
 · rename_i empty
   simp [empty]
 · rename_i filled
   have := List.length_pos_iff.2 filled
   rw [length_hex]
   omega

lemma rowFields_perm (entry:AddressEntry) :
 (decimal entry.id.toNat::rowFields entry).Perm
  (quoted entry.description::freezeField entry.freezeValue ::
   (rowNumbers entry).map decimalInt) := by
 have frozen : decimal (if entry.frozen then 1 else 0) =
  decimalInt (if entry.frozen then 1 else 0) := by
  split <;> rfl
 have pointed : decimal (if entry.pointerPath.isSome then 1 else 0) =
  decimalInt (if entry.pointerPath.isSome then 1 else 0) := by
  split <;> rfl
 have path : (entry.pointerPath.map pointerFields).getD [] =
  ((entry.pointerPath.map fun path =>
   [(kindCode path.space.kind : ℤ),path.space.pid.toNat,path.baseAddress.toNat,
    path.pointerSize.toNat,path.offsets.length] ++
    path.offsets.map (·.toInt)).getD []).map decimalInt := by
  cases entry.pointerPath with
  | none => rfl
  | some =>
   simp only [Option.map_some,Option.getD_some,pointerFields,List.map_append,List.map_map]
   rfl
 rw [rowFields,rowNumbers,List.map_append,←path,frozen,pointed]
 exact List.perm_append_comm_assoc
  [decimal entry.id.toNat,decimal (kindCode entry.space.kind),decimal entry.space.pid.toNat,
   decimal entry.address.toNat,decimal (ListFile.typeCode entry.type),decimal entry.width.toNat,
   decimalInt (if entry.frozen then 1 else 0)]
  [quoted entry.description,freezeField entry.freezeValue]
  (decimalInt (if entry.pointerPath.isSome then 1 else 0) ::
   (entry.pointerPath.map pointerFields).getD [])

lemma length_row (entry:AddressEntry) : (row entry).length=rowBytes entry := by
 have whole : (row entry).length+1 =
  ((decimal entry.id.toNat::rowFields entry).map fun field=>field.length+1).sum := by
  rw [row,List.length_append,length_tabbed,List.map_cons,List.sum_cons]
  omega
 have parts:=((rowFields_perm entry).map fun field=>field.length+1).sum_eq
 rw [parts,List.map_cons,List.map_cons,List.sum_cons,List.sum_cons,List.map_map,
  length_quoted,length_freezeField] at whole
 have numbers : ((rowNumbers entry).map ((fun field=>field.length+1) ∘ decimalInt)).sum =
  ((rowNumbers entry).map fun n=>(decimalInt n).length+1).sum := rfl
 rw [rowBytes]
 omega

def reloaded (entry : AddressEntry) : AddressEntry := disarmed (persisted entry)

def Loadable (entry : AddressEntry) : Prop :=
 0 ∉ entry.description ∧ rowBytes entry ≤ kMaxRowBytes

instance (entry : AddressEntry) : Decidable (Loadable entry) :=
 inferInstanceAs (Decidable (_ ∧ _))

/-- The entries that pass the checks of `Save`, after those with the ids `seen`. -/
structure Savable (seen : List UInt64) (entries : List AddressEntry) : Prop where
 valid : ∀ entry∈entries,Valid entry
 named : ∀ entry∈entries,entry.id≠0 ∧ entry.id≠maxUInt64
 distinct : (entries.map (·.id)).Nodup
 fresh : ∀ entry∈entries,entry.id ∉ seen

lemma savable_of_checkEntries {seen:List UInt64} {entries:List AddressEntry}
 (h:checkEntries seen entries=.ok ()) : Savable seen entries := by
 induction entries generalizing seen with
 | nil => exact ⟨by simp,by simp,by simp,by simp⟩
 | cons _ _ ih =>
  rw [checkEntries,Result.seq_eq_ok,Result.seq_eq_ok,Result.check_eq_ok] at h
  obtain ⟨valid,named,rest⟩:=h
  simp only [not_or] at named
  have rest:=ih rest
  refine ⟨?_,?_,?_,?_⟩
  · simpa using ⟨validateEntry_eq_ok.1 valid,rest.valid⟩
  · simpa using ⟨⟨named.1,named.2.1⟩,rest.named⟩
  · rw [List.map_cons,List.nodup_cons]
    refine ⟨fun member => ?_,rest.distinct⟩
    obtain ⟨other,among,same⟩:=List.mem_map.1 member
    exact rest.fresh other among (by simp [same])
  · rw [List.forall_mem_cons]
    exact ⟨named.2.2,fun other member seen=>rest.fresh other member (by simp [seen])⟩

lemma Savable.tail {seen:List UInt64} {entries:List AddressEntry}
 (h:Savable seen (entry::entries)) : Savable (seen++[entry.id]) entries where
 valid other member := h.valid other (by simp [member])
 named other member := h.named other (by simp [member])
 distinct := (List.nodup_cons.1 h.distinct).2
 fresh other member := by
  rw [List.mem_append,List.mem_singleton,not_or]
  exact ⟨h.fresh other (by simp [member]),fun same =>
   (List.nodup_cons.1 h.distinct).1 (List.mem_map.2 ⟨other,member,same⟩)⟩

lemma loadRow_row {loaded:List AddressEntry} (valid:Valid entry)
 (nonzero:entry.id≠0) (bounded:entry.id≠maxUInt64)
 (room:loaded.length < kMaxEntries) (fresh:entry.id ∉ loaded.map (·.id)) :
 if Loadable entry then
  loadRow kAddressListVersion loaded (row entry)=.ok (loaded++[reloaded entry])
 else ∃ error,loadRow kAddressListVersion loaded (row entry)=.error error := by
 have filled:row entry≠[]:=by simp [row,decimal_ne_nil]
 have null:0∈row entry ↔ 0∈entry.description:=row_special (.inl rfl)
 have parsed:=parseRow_row valid nonzero bounded
 have fresh' : (persisted entry).id ∉ loaded.map (·.id) := fresh
 unfold loadRow
 rw [length_row]
 split
 · rename_i taken
   rw [if_neg (Nat.not_lt.2 taken.2),if_neg (fun member=>taken.1 (null.1 member)),
    if_neg (Nat.not_le.2 room),parsed]
   simp only [fresh',if_false]
   rfl
 · rename_i refused
   split
   · exact ⟨_,rfl⟩
   · rename_i short
     have inside:0∈row entry:=by
      rw [null]
      by_contra clear
      exact refused ⟨clear,Nat.not_lt.1 short⟩
     rw [if_pos inside]
     exact ⟨_,rfl⟩

/-- The rows of a file, each with its line break. -/
def fileRows (entries : List AddressEntry) : List UInt8 :=
 entries.flatMap fun entry=>row entry++[newline]

section LoadRows
variable {version:ℤ} {loaded:List AddressEntry} {bytes:List UInt8}

lemma loadRows_none (h:getline (kMaxRowBytes+1) false bytes=.none) :
 loadRows version false loaded bytes=.ok loaded := by
 unfold loadRows
 split <;> simp_all

lemma loadRows_long (h:getline (kMaxRowBytes+1) false bytes=.long) :
 loadRows version false loaded bytes=.error rowLimit := by
 unfold loadRows
 split <;> simp_all

lemma loadRows_read {text rest:List UInt8} {ended:Bool}
 (h:getline (kMaxRowBytes+1) false bytes=.read text ended rest) :
 loadRows version false loaded bytes =
  (loadRow version loaded (rawLine text ended)).bind fun loaded =>
   loadRows version false loaded rest := by
 rw [loadRows]
 split
 · rename_i other;rw [h] at other;cases other
 · rename_i other;rw [h] at other;cases other
 · rename_i other;rw [h] at other;cases other
 · rename_i same
   rw [h] at same
   cases same
   cases loadRow version loaded (rawLine text ended) <;> rfl

end LoadRows

lemma loadRows_fileRows {loaded entries:List AddressEntry}
 (savable:Savable (loaded.map (·.id)) entries)
 (room:loaded.length+entries.length ≤ kMaxEntries) :
 if ∀entry∈entries,Loadable entry then
  loadRows kAddressListVersion false loaded (fileRows entries) =
   .ok (loaded++entries.map reloaded)
 else ∃ error,
  loadRows kAddressListVersion false loaded (fileRows entries)=.error error := by
 induction entries generalizing loaded with
 | nil =>
  rw [List.map_nil,List.append_nil]
  exact loadRows_none getline_nil
 | cons entry entries ih =>
  have valid:=savable.valid entry (by simp)
  obtain ⟨nonzero,bounded⟩:=savable.named entry (by simp)
  rw [List.length_cons] at room
  have line : getline (kMaxRowBytes+1) false (fileRows (entry::entries)) =
   if kMaxRowBytes+1<(row entry).length then .long
   else .read (row entry) true (fileRows entries) := by
   have unbroken:newline ∉ row entry:=by
    rw [row_special (.inr rfl)]
    exact valid.unbroken
   have shape:fileRows (entry::entries)=row entry++newline::fileRows entries:=by
    simp [fileRows]
   rw [shape]
   exact getline_line unbroken
  by_cases long:kMaxRowBytes+1<(row entry).length
  · rw [if_pos long] at line
    rw [if_neg]
    · exact ⟨_,loadRows_long line⟩
    · intro all
      have := (all entry (by simp)).2
      rw [length_row] at long
      omega
  · rw [if_neg long] at line
    have raw:rawLine (row entry) true=row entry:=by simp [rawLine]
    have step:=loadRow_row valid nonzero bounded (by omega:loaded.length < kMaxEntries)
     (savable.fresh entry (by simp))
    rw [loadRows_read line,raw]
    by_cases first:Loadable entry
    · rw [if_pos first] at step
      rw [step]
      have savable' : Savable ((loaded++[reloaded entry]).map (·.id)) entries := by
       simpa [reloaded,disarmed,persisted] using savable.tail
      have rest:=ih savable' (by simp;omega)
      by_cases others:∀entry∈entries,Loadable entry
      · rw [if_pos others] at rest
        rw [if_pos (by simpa [first] using others)]
        change loadRows kAddressListVersion false (loaded++[reloaded entry]) _=_
        simpa using rest
      · rw [if_neg others] at rest
        rw [if_neg (by simpa [first] using others)]
        exact rest
    · rw [if_neg first] at step
      obtain ⟨error,step⟩:=step
      rw [if_neg (fun all=>first (all entry (by simp))),step]
      exact ⟨error,rfl⟩

def fileBytes (list : AddressList) : List UInt8 :=
 fileHeader++newline::fileRows list.entries

lemma headerVersion_fileHeader : headerVersion fileHeader=.ok kAddressListVersion := by
 decide

variable {list:AddressList}

lemma loadEntries_fileBytes (savable:Savable [] list.entries)
 (count:list.entries.length ≤ kMaxEntries) :
 if ∀entry∈list.entries,Loadable entry then
  loadEntries (.holding list.fileBytes) .grown=.ok (list.entries.map reloaded)
 else ∃ error,loadEntries (.holding list.fileBytes) .grown=.error error := by
 have header : getline 127 false list.fileBytes =
  .read fileHeader true (fileRows list.entries) :=
  getline_line (by decide)
 have fresh:Savable (([] : List AddressEntry).map (·.id)) list.entries:=savable
 have rows:=loadRows_fileRows fresh (by simpa using count)
 have same : loadEntries (.holding list.fileBytes) .grown =
  loadRows kAddressListVersion false [] (fileRows list.entries) := by
  simp only [loadEntries,InputFile.holding,Bool.not_true,Bool.false_eq_true,if_false,header,
   headerVersion_fileHeader,ListFile.allocationError]
 rw [same]
 simpa using rows

lemma writeRows_written {entries:List AddressEntry} {t:List ListFileEvent}
 (h:(writeRows entries).Exec t ()) : ListFile.written t=fileRows entries := by
 induction entries generalizing t with
 | nil =>
  obtain ⟨rfl,-⟩:=h.of_pure
  rfl
 | cons entry _ ih =>
  obtain ⟨⟨⟩,u,rfl,hu⟩:=h.of_ask
  have rest:=ih hu
  change (row entry++[newline])++ListFile.written u=_
  rw [rest]
  rfl

lemma writeFile_written {fault:ListSaveFault} {t:List ListFileEvent}
 (h:(list.writeFile fault).Exec t (.ok ())) : ListFile.written t=list.fileBytes := by
 obtain ⟨opened,u,rfl,hu⟩:=h.of_ask
 cases opened with
 | false => exact hu.of_error.elim
 | true =>
  obtain ⟨⟨⟩,v,rfl,hv⟩:=hu.of_ask
  obtain ⟨w,⟨⟩,x,rfl,hw,hx⟩:=hv.of_bind
  obtain ⟨good,y,rfl,hy⟩:=hx.of_ask
  cases good with
  | false => exact hy.of_error.elim
  | true =>
   have committed:=ListFile.commit_exec hy
   change (fileHeader++[newline])++ListFile.written (w++⟨.outputGood,true⟩::y)=_
   rw [ListFile.written_append,writeRows_written hw]
   change _++(_++ListFile.written y)=_
   rw [committed]
   simp [fileBytes]

lemma save_ok {path:ListFilePath} {fault:ListSaveFault} {t:List ListFileEvent}
 (h:(list.save path fault).Exec t (.ok ())) :
 list.entries.length ≤ kMaxEntries ∧ Savable [] list.entries ∧
  ListFile.written t=list.fileBytes := by
 unfold save at h
 split at h
 · exact h.of_error.elim
 rename_i counted
 rw [checkCount,Result.check_eq_ok,Nat.not_lt] at counted
 obtain ⟨_,u,rfl,hu⟩:=h.of_ask
 split at hu
 · exact hu.of_error.elim
 split at hu
 · exact hu.of_error.elim
 rename_i checked
 split at hu
 · exact hu.of_error.elim
 · refine ⟨counted,savable_of_checkEntries checked,?_⟩
   change ListFile.written u=_
   exact writeFile_written (ListFile.cleaned_ok hu)

/-- The entries agree in all that is persisted, and the second is not frozen. -/
structure SamePersisted (entry loaded : AddressEntry) : Prop where
 id : loaded.id=entry.id
 kind : loaded.space.kind=entry.space.kind
 pid : loaded.space.pid=entry.space.pid
 address : loaded.address=entry.address
 type : loaded.type=entry.type
 width : loaded.width=entry.width
 description : loaded.description=entry.description
 pointerPath : loaded.pointerPath.map persistedPath=entry.pointerPath.map persistedPath
 unfrozen : loaded.frozen=false

lemma samePersisted_reloaded (entry:AddressEntry) : SamePersisted entry (reloaded entry) where
 id := rfl
 kind := rfl
 pid := rfl
 address := rfl
 type := rfl
 width := rfl
 description := rfl
 pointerPath := by
  change (entry.pointerPath.map persistedPath).map persistedPath=_
  rw [Option.map_map]
  rfl
 unfrozen := rfl

/-- A list that was saved is loaded again with the same entries in the same order, none of them
 frozen, exactly if no description holds a null byte and no row is too long. -/
theorem saved_list_reloads_iff {list : AddressList} {path : ListFilePath} {fault : ListSaveFault}
 {t : List ListFileEvent} (saved : (list.save path fault).Exec t (.ok ()))
 (other : AddressList) :
 (∃ loaded,(other.load (.holding (ListFile.written t)) .grown).Exec [] (.ok (),loaded) ∧
  List.Forall₂ SamePersisted list.entries loaded.entries) ↔
  ∀ entry∈list.entries,0 ∉ entry.description ∧ rowBytes entry ≤ kMaxRowBytes := by
 obtain ⟨count,savable,written⟩ := save_ok saved
 have file := loadEntries_fileBytes savable count
 rw [written]
 constructor
 · rintro ⟨_,ran,-⟩
   by_contra refused
   have refused' : ¬∀ entry∈list.entries,Loadable entry := refused
   rw [if_neg refused'] at file
   obtain ⟨_,failed⟩ := file
   simp only [load,failed] at ran
   obtain ⟨-,impossible⟩ := ran.of_pure
   cases impossible
 · intro taken
   have taken' : ∀ entry∈list.entries,Loadable entry := taken
   rw [if_pos taken'] at file
   refine ⟨{ entries := list.entries.map reloaded,
             nextId := highestId (list.entries.map reloaded)+1 },?_,?_⟩
   · simp only [load,file]
     exact (exec_pure _ _ _).2 ⟨rfl,rfl⟩
   · rw [List.forall₂_map_right_iff]
     exact List.forall₂_same.2 fun entry _=>samePersisted_reloaded entry

def calmSave (list : AddressList) : List ListFileEvent :=
 [⟨.allocate,Allocation.grown⟩,⟨.openOutput,true⟩,⟨.write (fileHeader++[newline]),()⟩] ++
  (list.entries.map fun entry=>⟨.write (row entry++[newline]),()⟩) ++
  [⟨.outputGood,true⟩,⟨.flush,()⟩,⟨.outputGood,true⟩,⟨.close,()⟩,⟨.outputGood,true⟩,
   ⟨.flushFileToDisk, .ok ()⟩,⟨.replaceAtomically, .ok ()⟩]

lemma writeRows_exec (entries:List AddressEntry) :
 (writeRows entries).Exec (entries.map fun entry=>⟨.write (row entry++[newline]),()⟩) () := by
 induction entries with
 | nil => exact .ret _
 | cons _ _ ih => exact (exec_ask_bind _ _ _ _).2 ⟨(),_,rfl,ih⟩

lemma calmSave_exec (count:list.checkCount=.ok ())
 (checked:checkEntries [] list.entries=.ok ()) :
 (list.save { parent := "",filename := "a" } .none).Exec list.calmSave (.ok ()) := by
 unfold save
 rw [count]
 refine (exec_ask_bind _ _ _ _).2 ⟨Allocation.grown,_,rfl,?_⟩
 simp only [ListFile.allocationError,checked]
 refine ListFile.cleaned_of_ok ?_
 refine (exec_ask_bind _ _ _ _).2 ⟨true,_,rfl,?_⟩
 refine (exec_ask_bind _ _ _ _).2 ⟨(),_,rfl,?_⟩
 refine (exec_bind _ _ _ _).2 ⟨_,(),_,rfl,writeRows_exec _,?_⟩
 refine (exec_ask_bind _ _ _ _).2 ⟨true,_,rfl,?_⟩
 refine (exec_ask_bind _ _ _ _).2 ⟨(),_,rfl,?_⟩
 refine (exec_ask_bind _ _ _ _).2 ⟨true,_,rfl,?_⟩
 refine (exec_ask_bind _ _ _ _).2 ⟨(),_,rfl,?_⟩
 refine (exec_ask_bind _ _ _ _).2 ⟨true,_,rfl,?_⟩
 refine (exec_ask_bind _ _ _ _).2 ⟨.ok (),_,rfl,?_⟩
 exact (exec_call _ _ _ _).2 ⟨Except.ok (),[],rfl, .ret _⟩

def described (description : List UInt8) : AddressList :=
 { entries := [{ sampleEntry with id := 1,description,resolvedAddress := 0x1000 }],nextId := 2 }

lemma described_saved {description:List UInt8}
 (checked:checkEntries [] (described description).entries=.ok ()) :
 ((described description).save { parent := "",filename := "a" } .none).Exec
  (described description).calmSave (.ok ()) :=
 calmSave_exec (Result.check_eq_ok.2 (by change ¬kMaxEntries<1;decide)) checked

/-- A description with a quote and a backslash is saved and loaded again. -/
theorem described_quote_reloads : ∃ loaded,
 (({} : AddressList).load (.holding (ListFile.written (described [0x22,0x5C]).calmSave))
  .grown).Exec [] (.ok (),loaded) ∧
 List.Forall₂ SamePersisted (described [0x22,0x5C]).entries loaded.entries :=
 (saved_list_reloads_iff (described_saved (by decide)) {}).2 (by decide)

/-- A list whose only description is a null byte is saved, and `Load` refuses the file. -/
theorem described_null_refused :
 ((described [0]).save { parent := "",filename := "a" } .none).Exec (described [0]).calmSave
  (.ok ()) ∧
 ∃ error,∀ list : AddressList,
  (list.load (.holding (ListFile.written (described [0]).calmSave)) .grown).Exec []
   (.error error,list) := by
 have checked : checkEntries [] (described [0]).entries=.ok () := by decide
 have saved := described_saved checked
 obtain ⟨count,savable,written⟩ := save_ok saved
 have file := loadEntries_fileBytes savable count
 obtain ⟨error,failed⟩ := file
 refine ⟨saved,error,fun _ => ?_⟩
 rw [written]
 simp only [load,failed]
 exact (exec_pure _ _ _).2 ⟨rfl,rfl⟩

end AddressList
end KDbg
