import KDbg.WatchListFile
set_option autoImplicit false
/-! What `Load` of a watch list takes, and when it takes what `Save` has written: a list that was
saved is loaded again unless its file is larger than the files that `Load` opens. -/
namespace KDbg
open Interaction ByteCodec Prog

namespace WatchList

/-- An entry as `Load` leaves it: it has passed the checks of `Add`, and it is not frozen. -/
structure LoadedEntry (entry : WatchEntry) : Prop where
 address : entry.address≠0
 width : fixedValueWidth entry.type≠0
 inside : entry.address ≤ maxUInt64-UInt64.ofNat (fixedValueWidth entry.type)
 description : entry.description.length ≤ kMaxDescriptionBytes
 value : entry.value.length=fixedValueWidth entry.type
 unfrozen : entry.frozen=false
 empty : entry.frozenValue=[]

def Quiet (event : ProcessEvent) : Prop :=
 match event.call with
 | .processId | .read _ _ => True
 | _ => False

variable {bytes rest:List UInt8}

lemma take_ok {count:ℕ} {head:List UInt8} (h:take count bytes=some (head,rest)) :
 head.length=count := by
 unfold take at h
 split at h
 · cases h
 · cases h
   rw [List.length_take]
   omega

/-- A record that passes the checks of `Load`. -/
structure TakenItem (item : WatchFileEntryHeader) (type : ScanValueType)
 (description : List UInt8) : Prop where
 address : item.address≠0
 width : fixedValueWidth type≠0
 inside : item.address ≤ maxUInt64-UInt64.ofNat (fixedValueWidth type)
 description : description.length ≤ kMaxDescriptionBytes

lemma loadItem_ok {item:WatchFileEntryHeader} {type:ScanValueType} {description:List UInt8}
 (h:loadItem bytes=.ok ((item,type,description),rest)) :
 TakenItem item type description := by
 unfold loadItem at h
 split at h
 · cases h
 split at h
 · cases h
 rename_i short
 split at h
 · cases h
 split at h
 · cases h
 rename_i fields
 split at h
 · cases h
 rename_i payload
 cases h
 obtain ⟨⟨_,_⟩,first,second⟩:=Option.bind_eq_some_iff.1 payload
 obtain ⟨⟨_,_⟩,-,same⟩:=Option.map_eq_some_iff.1 second
 cases same
 simp only [InvalidItem,not_or,UInt64.not_lt] at fields
 exact ⟨fields.1,fields.2.1,fields.2.2.1,by rw [take_ok first];exact Nat.not_lt.1 short⟩

lemma loadEntry_loaded (unverified:Bool) (id:UInt64) (bytes:List UInt8) :
 (loadEntry unverified id bytes).Ensures fun t r =>
  (∀event∈t,Quiet event) ∧
   ∀entry rest,r=.ok (entry,rest)→LoadedEntry entry ∧ entry.id=id := by
 unfold loadEntry
 split
 · exact ensures_pure ⟨by simp,fun _ _ same=>(nomatch same)⟩
 rename_i item type description rest parsed
 have taken:=loadItem_ok parsed
 refine ensures_ask_bind fun answer => ?_
 cases answer with
 | error => exact ensures_pure ⟨by simp [Quiet],fun _ _ same=>(nomatch same)⟩
 | ok =>
  dsimp only
  split
  · exact ensures_pure ⟨by simp [Quiet],fun _ _ same=>(nomatch same)⟩
  · rename_i full
    refine ensures_pure ⟨by simp [Quiet],fun _ _ same => ?_⟩
    cases same
    exact ⟨⟨taken.address,taken.width,taken.inside,taken.description,not_not.1 full,rfl,
     rfl⟩,rfl⟩

structure LoadedTable (count : ℕ) (start : UInt64) (entries : List WatchEntry) (nextId : UInt64) :
 Prop where
 length : entries.length=count
 loaded : ∀ entry∈entries,LoadedEntry entry
 ids : entries.map (·.id)=(List.range count).map fun i=>start+UInt64.ofNat i
 next : nextId=start+UInt64.ofNat count

lemma next_id_add (start:UInt64) (i:ℕ) :
 start+1+UInt64.ofNat i=start+UInt64.ofNat (i+1) := by
 rw [UInt64.ofNat_add,UInt64.add_comm (UInt64.ofNat i),UInt64.add_assoc]
 rfl

lemma LoadedTable.cons {count:ℕ} {start nextId:UInt64} {entry:WatchEntry}
 {entries:List WatchEntry} (loaded:LoadedEntry entry) (id:entry.id=start)
 (rest:LoadedTable count (start+1) entries nextId) :
 LoadedTable (count+1) start (entry::entries) nextId where
 length := by rw [List.length_cons,rest.length]
 loaded := by simpa using ⟨loaded,rest.loaded⟩
 ids := by
  rw [List.range_succ_eq_map,List.map_cons,List.map_cons,id,rest.ids,List.map_map]
  congr 1
  · simp
  · exact List.map_congr_left fun i _=>next_id_add start i
 next := by rw [rest.next,next_id_add]

lemma loadEntries_loaded (unverified:Bool) (count:ℕ) (start:UInt64) (bytes:List UInt8) :
 (loadEntries unverified count start bytes).Ensures fun t r =>
  (∀event∈t,Quiet event) ∧ ∀entries nextId rest,r=.ok (entries,nextId,rest) →
   LoadedTable count start entries nextId := by
 induction count generalizing start bytes with
 | zero =>
  refine ensures_pure ⟨by simp,fun _ _ _ same => ?_⟩
  cases same
  exact ⟨rfl,by simp,rfl,by simp⟩
 | succ _ ih =>
  refine ensures_bind (loadEntry_loaded unverified start bytes) fun t first h => ?_
  obtain ⟨quiet,taken⟩:=h
  cases first with
  | error =>
   exact ensures_pure ⟨by simpa using quiet,fun _ _ _ same=>(nomatch same)⟩
  | ok first =>
   obtain ⟨entry,bytes⟩:=first
   obtain ⟨loaded,id⟩:=taken entry bytes rfl
   refine ensures_bind (ih (start+1) bytes) fun u rest h => ?_
   obtain ⟨quiet',table⟩:=h
   have all:∀event∈t++(u++[]),Quiet event:=by
    intro event member
    rw [List.append_nil] at member
    rcases List.mem_append.1 member with member|member
    · exact quiet event member
    · exact quiet' event member
   cases rest with
   | error => exact ensures_pure ⟨all,fun _ _ _ same=>(nomatch same)⟩
   | ok rest =>
    obtain ⟨entries,nextId,rest⟩:=rest
    refine ensures_pure ⟨all,fun _ _ _ same => ?_⟩
    cases same
    exact (table entries nextId rest rfl).cons loaded id

/-- What a successful `Load` has left, for the file and the process it was called on. -/
structure LoadedList (file : InputFile) (identity : UInt64) (t : List ProcessEvent)
 (list : WatchList) : Prop where
 count : list.entries.length ≤ kMaxPersistedEntries
 loaded : ∀ entry∈list.entries,LoadedEntry entry
 distinct : (list.entries.map (·.id)).Nodup
 nonzero : ∀ entry∈list.entries,entry.id≠0
 below : ∀ entry∈list.entries,entry.id < list.nextId
 table : ∃ table rest,loadHeader file.bytes=.ok (table,rest) ∧
  ⟨.processId,table.pid⟩∈t ∧
  (table.identity≠0 → identity≠0 → table.identity=identity)

lemma toNat_id {i:ℕ} (small:i ≤ kMaxPersistedEntries) : (1+UInt64.ofNat i).toNat=1+i := by
 have bound:kMaxPersistedEntries=100000:=rfl
 rw [UInt64.toNat_add,UInt64.toNat_ofNat',UInt64.toNat_one,Nat.mod_eq_of_lt (by omega),
  Nat.mod_eq_of_lt (by omega)]

/-- The ids of a table are the numbers from 1 on. -/
lemma LoadedTable.numbered {count:ℕ} {entries:List WatchEntry} {nextId:UInt64}
 (h:LoadedTable count 1 entries nextId) (small:count ≤ kMaxPersistedEntries) :
 (entries.map (·.id)).Nodup ∧ ∀entry∈entries,entry.id≠0 ∧ entry.id < nextId := by
 refine ⟨?_,fun entry member => ?_⟩
 · rw [h.ids]
   refine List.Nodup.map_on (fun i first j second same => ?_) List.nodup_range
   have first:=List.mem_range.1 first
   have second:=List.mem_range.1 second
   have equal:=congrArg UInt64.toNat same
   rw [toNat_id (by omega),toNat_id (by omega)] at equal
   omega
 · have among:entry.id∈(List.range count).map fun i=>(1 : UInt64)+UInt64.ofNat i:=by
    rw [←h.ids]
    exact List.mem_map.2 ⟨entry,member,rfl⟩
   obtain ⟨i,inside,id⟩:=List.mem_map.1 among
   have inside:=List.mem_range.1 inside
   have value:entry.id.toNat=1+i:=by rw [←id,toNat_id (by omega)]
   constructor
   · intro zero
     rw [zero] at value
     simp at value
     omega
   · rw [UInt64.lt_iff_toNat_lt,h.next,toNat_id small]
     omega

/-- On every file, `Load` makes no call but reads and queries of the process; it fails and leaves
 the list as it was, or leaves a list of entries that are numbered and not frozen. -/
def LoadOutcome (list : WatchList) (identity : UInt64) (file : InputFile) (t : List ProcessEvent)
 (r : Result Unit×WatchList) : Prop :=
 (∀ event∈t,Quiet event) ∧ (∀ error,r.1=.error error → r.2=list) ∧
  (r.1=.ok ()→LoadedList file identity t r.2)

variable {list:WatchList}

section
variable {identity:UInt64} {t:List ListFileEvent} {table:Persisted} {α:Type} {pid:UInt32}
 {fault:ListSaveFault}

lemma loadOutcome_failed {file:InputFile} {t:List ProcessEvent}
 (quiet:∀event∈t,Quiet event) (error:Error) :
 LoadOutcome list identity file t (.error error,list) :=
 ⟨quiet,fun _ _=>rfl,fun same=>(nomatch same)⟩

lemma loadTable_outcome (list:WatchList) (identity:UInt64) (file:InputFile)
 (parsed:loadHeader file.bytes=.ok (table,bytes))
 (small:table.entryCount.toNat ≤ kMaxPersistedEntries) :
 (loadTable list identity table bytes).Ensures (LoadOutcome list identity file) := by
 refine ensures_ask_bind fun (pid:UInt32) => ?_
 split
 · refine ensures_ask_bind fun _ => ?_
   exact ensures_pure (loadOutcome_failed (by simp [Quiet]) _)
 rename_i same
 split
 · exact ensures_pure (loadOutcome_failed (by simp [Quiet]) _)
 rename_i identified
 refine ensures_bind (loadEntries_loaded _ _ _ _) fun t r h => ?_
 obtain ⟨quiet,taken⟩:=h
 have all:∀event∈(⟨.processId,pid⟩::(t++[]) : List ProcessEvent),Quiet event:=by
  simpa [Quiet] using quiet
 cases r with
 | error => exact ensures_pure (loadOutcome_failed all _)
 | ok r =>
  obtain ⟨entries,nextId,rest⟩:=r
  dsimp only
  split
  · exact ensures_pure (loadOutcome_failed all _)
  · refine ensures_pure ⟨all,fun _ same=>(nomatch same),fun _ => ?_⟩
    have whole:=taken entries nextId rest rfl
    obtain ⟨distinct,numbered⟩:=whole.numbered small
    refine ⟨whole.length ▸ small,whole.loaded,distinct,fun entry member =>
     (numbered entry member).1,fun entry member=>(numbered entry member).2,table,bytes,
     parsed,?_,?_⟩
    · rw [not_not.1 same]
      simp
    · intro named named'
      by_contra other
      exact identified ⟨named,named',other⟩

lemma loadHeader_small (h:loadHeader bytes=.ok (table,rest)) :
 table.entryCount.toNat ≤ kMaxPersistedEntries := by
 unfold loadHeader at h
 split at h
 · cases h
 split at h
 · cases h
 split at h
 · cases h
 split at h
 · cases h
 · rename_i small
   cases h
   exact Nat.not_lt.1 small

lemma load_outcome (list:WatchList) (identity:UInt64) (file:InputFile) :
 (list.load identity file).Ensures (LoadOutcome list identity file) := by
 unfold load
 split
 · exact ensures_pure (loadOutcome_failed (by simp) _)
 split
 · exact ensures_pure (loadOutcome_failed (by simp) _)
 split
 · exact ensures_pure (loadOutcome_failed (by simp) _)
 split
 · exact ensures_pure (loadOutcome_failed (by simp) _)
 · rename_i parsed
   exact loadTable_outcome list identity file parsed (loadHeader_small parsed)

lemma take_append (head rest:List UInt8) : take head.length (head++rest)=some (head,rest) := by
 have long:¬(head++rest).length < head.length:=by simp
 rw [take,if_neg long,List.take_left,List.drop_left]

lemma extract_encode (codec:Codec α) (a:α) (rest:List UInt8) :
 extract codec (codec.encode a++rest)=some (a,rest) := by
 have taken:=take_append (codec.encode a) rest
 rw [codec.length_encode] at taken
 rw [extract,taken,Option.map_some]
 dsimp only
 rw [codec.decode_encode]

lemma extract_header (header:WatchFileHeader) (rest:List UInt8) : ∃ more,
 extract WatchFilePrefix.codec (WatchFileHeader.codec.encode header++rest) =
  some (⟨header.magic,header.version⟩,more) := by
 have split : WatchFileHeader.codec.encode header =
  WatchFilePrefix.codec.encode ⟨header.magic,header.version⟩ ++
   (u32Codec.encode header.pid++(u64Codec.encode header.processIdentityToken ++
    u64Codec.encode header.entryCount)) := by
  symm
  exact List.append_assoc _ _ _
 rw [split]
 exact ⟨_,extract_encode _ _ _⟩

lemma loadHeader_headerOf (pid:UInt32) (identity:UInt64)
 (count:list.entries.length ≤ kMaxPersistedEntries) (rest:List UInt8) :
 loadHeader (WatchFileHeader.codec.encode (list.headerOf pid identity)++rest) =
  .ok ({ pid,identity,entryCount := UInt64.ofNat list.entries.length },rest) := by
 have bound:kMaxPersistedEntries=100000:=rfl
 have small:(UInt64.ofNat list.entries.length).toNat=list.entries.length:=by
  rw [UInt64.toNat_ofNat',Nat.mod_eq_of_lt (by omega)]
 obtain ⟨_,start⟩:=extract_header (list.headerOf pid identity) rest
 have table : tableOf kWatchVersion
  (WatchFileHeader.codec.encode (list.headerOf pid identity)++rest) =
  some ({ pid,identity,entryCount := UInt64.ofNat list.entries.length },rest) := by
  rw [tableOf,extract_encode]
  rfl
 rw [loadHeader,start]
 dsimp only [headerOf]
 rw [if_neg (by simp)]
 simp only [headerOf] at table
 simp only [table,small,Nat.not_lt.2 count,if_false]

def record (entry : WatchEntry) : List UInt8 :=
 WatchFileEntryHeader.codec.encode (itemOf entry)++(entry.description++frozenPayload entry)

/-- The flags say whether the entry was frozen and how it is shown, and nothing else. -/
lemma itemOf_flags (entry:WatchEntry) :
 ((itemOf entry).flags &&& kWatchFlagWasFrozen≠0 ↔ entry.frozen=true) ∧
  ((itemOf entry).flags &&& kWatchFlagHexadecimal != 0)=entry.hexadecimal ∧
  (itemOf entry).flags &&& ~~~(kWatchFlagHexadecimal ||| kWatchFlagWasFrozen)=0 := by
 cases frozen:entry.frozen <;> cases shown : entry.hexadecimal <;>
  simp only [itemOf,frozen,shown] <;> decide

lemma fixedValueWidth_le (type:ScanValueType) : fixedValueWidth type≤8 := by
 cases type <;> decide

lemma loadItem_record {entry:WatchEntry} (persistable:¬Unpersistable entry)
 (rest:List UInt8) :
 loadItem (record entry++rest)=.ok ((itemOf entry,entry.type,entry.description),rest) := by
 obtain ⟨frozen,-,others⟩:=itemOf_flags entry
 simp only [Unpersistable,not_or,UInt64.not_lt,Nat.not_lt] at persistable
 obtain ⟨address,width,inside,description,-,value⟩:=persistable
 have narrow:=fixedValueWidth_le entry.type
 have bound:kMaxDescriptionBytes=4096:=rfl
 have payload : (frozenPayload entry).length =
  if entry.frozen then fixedValueWidth entry.type else 0 := by
  unfold frozenPayload
  split
  · rename_i on
    by_contra other
    exact value ⟨on,other⟩
  · rfl
 have sizes : (itemOf entry).descriptionSize.toNat=entry.description.length ∧
  (itemOf entry).frozenValueSize.toNat=(frozenPayload entry).length := by
  have small:(frozenPayload entry).length≤8:=by
   rw [payload]
   split <;> omega
  simp only [itemOf,UInt32.toNat_ofNat']
  omega
 have code:(itemOf entry).type.toNat=ListFile.typeCode entry.type:=by
  have := ListFile.typeCode_lt entry.type
  simp only [itemOf,UInt32.toNat_ofNat']
  omega
 have fields:¬InvalidItem (itemOf entry) entry.type:=by
  simp only [InvalidItem,not_or,UInt64.not_lt]
  refine ⟨address,width,inside,?_,?_,not_not.2 others⟩
  · rintro ⟨was,other⟩
    rw [sizes.2,payload,if_pos (frozen.1 was)] at other
    exact other rfl
  · rintro ⟨was,filled⟩
    refine filled (UInt32.toNat_inj.1 ?_)
    rw [sizes.2,payload,if_neg (fun on=>was (frozen.2 on))]
    rfl
 have shape : record entry++rest=WatchFileEntryHeader.codec.encode (itemOf entry) ++
  (entry.description++(frozenPayload entry++rest)) := by
  simp [record]
 rw [loadItem,shape,extract_encode]
 dsimp only
 rw [sizes.1,if_neg (Nat.not_lt.2 description),code,ListFile.typeOfCode_typeCode]
 dsimp only
 rw [if_neg fields,take_append,Option.bind_some,sizes.2]
 rw [take_append,Option.map_some]

def records (entries : List WatchEntry) : List UInt8 := entries.flatMap record

def fileBytes (list : WatchList) (pid : UInt32) (identity : UInt64) : List UInt8 :=
 WatchFileHeader.codec.encode (list.headerOf pid identity)++records list.entries

/-- The size of a list in a file: a header, and for each entry a record header, the description
 and the frozen value. -/
def fileSize (list : WatchList) : ℕ :=
 32+(list.entries.map fun entry=>24+entry.description.length +
  if entry.frozen then entry.frozenValue.length else 0).sum

lemma length_fileBytes (list:WatchList) (pid:UInt32) (identity:UInt64) :
 (list.fileBytes pid identity).length=list.fileSize := by
 have each : ∀entry,(record entry).length=24+entry.description.length +
  if entry.frozen then entry.frozenValue.length else 0 := by
  intro _
  rw [record,List.length_append,WatchFileEntryHeader.codec.length_encode,List.length_append,
   frozenPayload]
  have size:WatchFileEntryHeader.codec.size=24:=rfl
  rw [size]
  split
  · omega
  · simp
 rw [fileBytes,List.length_append,records,
  List.length_flatMap]
 have same : (fun entry=>(record entry).length)=fun entry : WatchEntry =>
  24+entry.description.length+if entry.frozen then entry.frozenValue.length else 0 :=
  funext each
 rw [same]
 rfl

/-- The entries agree in what is persisted, and the second is not frozen. -/
structure SameWatch (entry loaded : WatchEntry) : Prop where
 address : loaded.address=entry.address
 type : loaded.type=entry.type
 description : loaded.description=entry.description
 hexadecimal : loaded.hexadecimal=entry.hexadecimal
 unfrozen : loaded.frozen=false

/-- The process that a list is loaded on is the one with this identifier, and its memory can be
 read wherever `Load` reads it. -/
def Answered (pid : UInt32) (t : List ProcessEvent) : Prop :=
 (∀ answer,⟨.processId,answer⟩∈t → answer=pid) ∧
  ∀ address length answer,⟨.read address length,answer⟩∈t →
   ∃ bytes : List UInt8,answer=.ok bytes ∧ bytes.length=length.toNat

lemma Answered.of_sublist {t u:List ProcessEvent} (h:Answered pid t)
 (sub:∀event∈u,event∈t) : Answered pid u :=
 ⟨fun answer member=>h.1 answer (sub _ member),
  fun address length answer member=>h.2 address length answer (sub _ member)⟩

lemma loadEntry_record {entry:WatchEntry} (persistable:¬Unpersistable entry) (pid:UInt32)
 (unverified:Bool) (id:UInt64) (rest:List UInt8) :
 (loadEntry unverified id (record entry++rest)).Ensures fun t r=>Answered pid t →
  ∃ loaded,r=.ok (loaded,rest) ∧ SameWatch entry loaded := by
 have width:(UInt32.ofNat (fixedValueWidth entry.type)).toNat=fixedValueWidth entry.type:=by
  have := fixedValueWidth_le entry.type
  rw [UInt32.toNat_ofNat']
  omega
 unfold loadEntry
 rw [loadItem_record persistable]
 refine ensures_ask_bind fun answer => ?_
 cases answer with
 | error =>
  refine ensures_pure fun answered => ?_
  obtain ⟨_,impossible,-⟩:=answered.2 _ _ _ (List.mem_singleton.2 rfl)
  cases impossible
 | ok =>
  dsimp only
  split
  · rename_i short
    refine ensures_pure fun answered => ?_
    obtain ⟨_,same,full⟩:=answered.2 _ _ _ (List.mem_singleton.2 rfl)
    cases same
    exact absurd (full.trans width) short
  · exact ensures_pure fun _ =>
     ⟨_,rfl,⟨rfl,rfl,rfl,(itemOf_flags entry).2.1,rfl⟩⟩

lemma loadEntries_records {entries:List WatchEntry}
 (persistable:∀entry∈entries,¬Unpersistable entry) (pid:UInt32) (unverified:Bool)
 (start:UInt64) :
 (loadEntries unverified entries.length start (records entries)).Ensures fun t r =>
  Answered pid t → ∃ loaded nextId,r=.ok (loaded,nextId,[]) ∧
   List.Forall₂ SameWatch entries loaded := by
 induction entries generalizing start with
 | nil => exact ensures_pure fun _=>⟨[],start,rfl, .nil⟩
 | cons entry entries ih =>
  have first:=loadEntry_record (persistable entry (by simp)) pid unverified start
   (records entries)
  refine ensures_bind first fun t r taken => ?_
  cases r with
  | error =>
   refine ensures_pure fun answered => ?_
   obtain ⟨_,impossible,-⟩:=taken (answered.of_sublist (by simp))
   cases impossible
  | ok r =>
   obtain ⟨loaded,_⟩:=r
   intro u b ran answered
   obtain ⟨_,same,kept⟩:=taken (answered.of_sublist (by simp +contextual))
   cases same
   have rest:=ih (fun entry member=>persistable entry (by simp [member])) (start+1)
   obtain ⟨v,r,w,rfl,hv,hw⟩:=ran.of_bind
   obtain ⟨more,nextId,rfl,all⟩:=rest v r hv (answered.of_sublist (by simp +contextual))
   obtain ⟨rfl,rfl⟩:=hw.of_pure
   exact ⟨loaded::more,nextId,rfl, .cons kept all⟩

lemma writeEntries_written {entries:List WatchEntry}
 (h:(writeEntries entries).Exec t (.ok ())) : ListFile.written t=records entries := by
 induction entries generalizing t with
 | nil =>
  obtain ⟨rfl,-⟩:=h.of_pure
  rfl
 | cons entry entries ih =>
  obtain ⟨⟨⟩,u,rfl,hu⟩:=h.of_ask
  obtain ⟨⟨⟩,v,rfl,hv⟩:=hu.of_ask
  have tail : ∀w,(do
   if !(← ListFile.outputGood) then
    return saveError "Failed while writing address-list entries"
   else writeEntries entries : ListFileM (Result Unit)).Exec w (.ok ()) →
   ListFile.written w=records entries := by
   intro w hw
   obtain ⟨good,x,rfl,hx⟩:=hw.of_ask
   cases good with
   | false => exact hx.of_error.elim
   | true =>
    change ListFile.written x=_
    exact ih hx
  change WatchFileEntryHeader.codec.encode (itemOf entry) ++
   (entry.description++ListFile.written v)=_
  have rest:ListFile.written v=frozenPayload entry++records entries:=by
   by_cases filled:frozenPayload entry≠[]
   · simp only [if_pos filled] at hv
     obtain ⟨⟨⟩,w,rfl,hw⟩:=hv.of_ask
     change frozenPayload entry++ListFile.written w=_
     rw [tail w hw]
   · simp only [if_neg filled] at hv
     rw [tail v hv,not_not.1 filled]
     rfl
  rw [rest]
  simp [records,record]

lemma writeFile_written (h:(list.writeFile pid identity fault).Exec t (.ok ())) :
 ListFile.written t=list.fileBytes pid identity := by
 obtain ⟨opened,u,rfl,hu⟩:=h.of_ask
 cases opened with
 | false => exact hu.of_error.elim
 | true =>
  obtain ⟨⟨⟩,v,rfl,hv⟩:=hu.of_ask
  obtain ⟨good,w,rfl,hw⟩:=hv.of_ask
  cases good with
  | false => exact hw.of_error.elim
  | true =>
   obtain ⟨x,outcome,y,rfl,hx,hy⟩:=hw.of_bind
   cases outcome with
   | error => exact hy.of_error.elim
   | ok =>
    change WatchFileHeader.codec.encode (list.headerOf pid identity) ++
     ListFile.written (x++y)=_
    rw [ListFile.written_append,writeEntries_written hx,ListFile.commit_exec hy,
     List.append_nil]
    rfl

lemma save_ok {path:ListFilePath} (h:(list.save pid identity path fault).Exec t (.ok ())) :
 list.entries.length ≤ kMaxPersistedEntries ∧
  (∀entry∈list.entries,¬Unpersistable entry) ∧
  ListFile.written t=list.fileBytes pid identity := by
 unfold save at h
 split at h
 · exact h.of_error.elim
 rename_i count
 split at h
 · exact h.of_error.elim
 split at h
 · exact h.of_error.elim
 · rename_i persistable
   exact ⟨Nat.not_lt.1 count,fun entry member bad=>persistable ⟨entry,member,bad⟩,
    writeFile_written (ListFile.cleaned_ok h)⟩

lemma load_large (list:WatchList) (identity:UInt64)
 (large:kMaxWatchFileBytes < bytes.length) :
 ∃ error,list.load identity (.holding bytes)=pure (.error error,list) := by
 simp only [load,InputFile.holding]
 rw [if_pos (.inr large)]
 exact ⟨_,rfl⟩

lemma load_fileBytes (pid:UInt32) (identity:UInt64)
 (count:list.entries.length ≤ kMaxPersistedEntries)
 (persistable:∀entry∈list.entries,¬Unpersistable entry)
 (fits:list.fileSize ≤ kMaxWatchFileBytes) (other:WatchList) :
 (other.load identity (.holding (list.fileBytes pid identity))).Ensures fun t r =>
  Answered pid t → r.1=.ok () ∧ List.Forall₂ SameWatch list.entries r.2.entries := by
 have bound:kMaxPersistedEntries=100000:=rfl
 have small:(UInt64.ofNat list.entries.length).toNat=list.entries.length:=by
  rw [UInt64.toNat_ofNat',Nat.mod_eq_of_lt (by omega)]
 have size : ¬((list.fileBytes pid identity).length < LegacyWatchFileHeader.codec.size ∨
  kMaxWatchFileBytes<(list.fileBytes pid identity).length) := by
  have least:32 ≤ list.fileSize:=Nat.le_add_right _ _
  have legacy:LegacyWatchFileHeader.codec.size=24:=rfl
  rw [length_fileBytes]
  omega
 have header : loadHeader (list.fileBytes pid identity)=_ :=
  loadHeader_headerOf pid identity count (records list.entries)
 simp only [load,InputFile.holding,if_neg size,Bool.not_true,Bool.false_eq_true,if_false,
  header]
 refine ensures_ask_bind fun (answer:UInt32) => ?_
 split
 · rename_i different
   intro t r _ answered
   exact absurd (answered.1 answer (by simp)).symm different
 rw [if_neg (by simp)]
 have entries:=loadEntries_records persistable pid (identity == 0 || identity == 0) 1
 rw [←small] at entries
 refine ensures_bind entries fun t r loaded => ?_
 intro u b ran answered
 obtain ⟨_,_,rfl,same⟩:=loaded (answered.of_sublist (by simp +contextual))
 obtain ⟨-,rfl⟩:=ran.of_pure
 exact ⟨rfl,same⟩

def readableProcess (pid : UInt32) : (c : ProcessCall)→ProcessAnswer c
 | .processId => pid
 | .isOpen => true
 | .writesArmed => false
 | .setWritesArmed _ => .ok ()
 | .read _ length => .ok (List.replicate length.toNat 0)
 | .write _ data => .ok (UInt32.ofNat data.length)

lemma exists_answered (p:ProcessM α) (pid:UInt32) : ∃ t a,p.Exec t a ∧ Answered pid t := by
 obtain ⟨t,ran,answers⟩:=exec_run (readableProcess pid) p
 refine ⟨t,_,ran,fun _ member=>answers _ member,fun _ length _ member => ?_⟩
 exact ⟨List.replicate length.toNat 0,answers _ member,List.length_replicate⟩

end

/-- A list that was saved is loaded again, by the same process with its memory readable, with the
 same entries in the same order and none of them frozen, exactly if its file is not larger than
 the files that `Load` opens. -/
theorem saved_watch_list_reloads_iff {list : WatchList} {pid : UInt32} {identity : UInt64}
 {path : ListFilePath} {fault : ListSaveFault} {t : List ListFileEvent}
 (saved : (list.save pid identity path fault).Exec t (.ok ())) (other : WatchList) :
 ((∃ u r,(other.load identity (.holding (ListFile.written t))).Exec u r ∧ Answered pid u) ∧
  ∀ u r,(other.load identity (.holding (ListFile.written t))).Exec u r→Answered pid u →
   r.1=.ok () ∧ List.Forall₂ SameWatch list.entries r.2.entries) ↔
  list.fileSize ≤ kMaxWatchFileBytes := by
 obtain ⟨count,persistable,written⟩ := save_ok saved
 rw [written]
 constructor
 · rintro ⟨-,loads⟩
   by_contra large
   rw [← length_fileBytes list pid identity,Nat.not_le] at large
   obtain ⟨error,refused⟩ := load_large other identity large
   have failed := loads [] (.error error,other) (refused ▸ .ret _) ⟨by simp,by simp⟩
   cases failed.1
 · intro fits
   exact ⟨exists_answered _ pid,load_fileBytes pid identity count persistable fits other⟩

inductive Op where
 | add (address : UInt64) (type : ScanValueType) (description : List UInt8) (hexadecimal : Bool)
 | remove (id : UInt64)
 | clear
 | refresh
 | setFrozen (id : UInt64) (frozen : Bool)
 | writeValue (id : UInt64) (text : List UInt8)
 | freezeTick
 | load (identity : UInt64) (file : InputFile)

inductive Returned where
 | id (result : Result UInt64)
 | done (result : Result Unit)
 | cleared

def exec (library : FloatingText) : Op→WatchList→ProcessM (Returned×WatchList)
 | .add address type description hexadecimal,list => do
  let (result,list) ← list.add address type description hexadecimal
  return (.id result,list)
 | .remove id,list => return (.done (list.remove id).1,(list.remove id).2)
 | .clear,list => return (.cleared,list.clear)
 | .refresh,list => do
  let (result,list) ← list.refresh
  return (.done result,list)
 | .setFrozen id frozen,list => do
  let (result,list) ← list.setFrozen id frozen
  return (.done result,list)
 | .writeValue id text,list => do
  let (result,list) ← list.writeValue library id text
  return (.done result,list)
 | .freezeTick,list => do
  let (result,list) ← list.freezeTick
  return (.done result,list)
 | .load identity file,list => do
  let (result,list) ← list.load identity file
  return (.done result,list)

def machine (library : FloatingText) :
 Machine ProcessCall ProcessAnswer Op WatchList Returned where
 init := {}
 exec := exec library

def crowded (count : ℕ) : WatchList where
 entries := (List.range count).map fun i =>
  { id := 1+UInt64.ofNat i,address := 0x1000,type := .int32,
    description := List.replicate kMaxDescriptionBytes 0x61,value := [0,0,0,0] }
 nextId := 1+UInt64.ofNat count

lemma add_crowded {count:ℕ} (room:count < kMaxPersistedEntries) :
 ((crowded count).add 0x1000 .int32 (List.replicate kMaxDescriptionBytes 0x61) false).Exec
  [⟨.read 0x1000 4, .ok [0,0,0,0]⟩]
  (.ok (1+UInt64.ofNat count),crowded (count+1)) := by
 unfold add
 rw [if_neg (by decide),if_neg]
 · refine (exec_ask_bind _ _ _ _).2 ⟨.ok [0,0,0,0],[],rfl,?_⟩
   refine (exec_pure _ _ _).2 ⟨rfl,?_⟩
   simp only [crowded,List.range_succ,List.map_append,List.map_singleton]
   have next:1+UInt64.ofNat count+1=1+UInt64.ofNat (count+1):=by
    rw [UInt64.ofNat_add,←UInt64.add_assoc]
    rfl
   rw [next]
 · simp only [crowded,List.length_map,List.length_range,List.length_replicate,not_or]
   omega

lemma crowded_run (library:FloatingText) {count:ℕ} (room:count ≤ kMaxPersistedEntries) :
 ∃ history,(machine library).Run history (crowded count) := by
 induction count with
 | zero => exact ⟨[], .nil⟩
 | succ count ih =>
  obtain ⟨_,run⟩:=ih (by omega)
  have added:=add_crowded (by omega:count < kMaxPersistedEntries)
  refine ⟨_, .snoc run
   { op := .add 0x1000 .int32 (List.replicate kMaxDescriptionBytes 0x61) false
     before := crowded count
     trace := [⟨.read 0x1000 4, .ok [0,0,0,0]⟩]
     result := .id (.ok (1+UInt64.ofNat count))
     after := crowded (count+1) } rfl ?_⟩
  exact (exec_bind _ _ _ _).2 ⟨_,_,[],by simp,added, .ret _⟩

def goodDisk : (c : ListFileCall)→ListFileAnswer c
 | .allocate => .grown
 | .openOutput | .outputGood => true
 | .write _ | .flush | .close | .removeTemporary => ()
 | .flushFileToDisk | .replaceAtomically => .ok ()

lemma writeEntries_goodDisk (entries:List WatchEntry) :
 (writeEntries entries).run goodDisk=.ok () := by
 induction entries with
 | nil => rfl
 | cons entry _ ih =>
  by_cases filled:frozenPayload entry≠[]
  · simp only [writeEntries,run_bind,if_pos filled]
    exact ih
  · simp only [writeEntries,run_bind,if_neg filled]
    exact ih

/-- On a disk on which nothing fails, a list that passes the checks is saved. -/
lemma exists_saved (pid:UInt32) (identity:UInt64)
 (count:list.entries.length ≤ kMaxPersistedEntries)
 (persistable:∀entry∈list.entries,¬Unpersistable entry) :
 ∃ t,(list.save pid identity { parent := "",filename := "a" } .none).Exec t (.ok ()) := by
 have unrefused:¬∃ entry∈list.entries,Unpersistable entry:=by
  rintro ⟨entry,member,bad⟩
  exact persistable entry member bad
 have opened:ListFile.openOutput.run goodDisk=true:=rfl
 have good:ListFile.outputGood.run goodDisk=true:=rfl
 have file:(list.writeFile pid identity .none).run goodDisk=.ok ():=by
  simp only [writeFile,run_bind,opened,good,Bool.not_true,Bool.false_eq_true,if_false,
   writeEntries_goodDisk]
  rfl
 have run : (list.save pid identity { parent := "",filename := "a" } .none).run goodDisk =
  .ok () := by
  rw [save,if_neg (Nat.not_lt.2 count),if_neg (by decide),if_neg unrefused]
  simp only [ListFile.cleaned,run_bind,file]
  rfl
 obtain ⟨t,ran,-⟩:=exec_run goodDisk
  (list.save pid identity { parent := "",filename := "a" } .none)
 exact ⟨t,run ▸ ran⟩

lemma crowded_persistable {count:ℕ} :
 ∀entry∈(crowded count).entries,¬Unpersistable entry := by
 intro _ member
 obtain ⟨i,-,rfl⟩:=List.mem_map.1 member
 simp only [Unpersistable,List.length_replicate]
 decide

lemma fileSize_crowded (count:ℕ) : (crowded count).fileSize=32+count*4120 := by
 simp only [fileSize,crowded,List.map_map,Function.comp_def,List.length_replicate,
  List.map_const',List.length_range,List.sum_replicate,smul_eq_mul]
 rfl

/-- A list of one entry is saved and loaded again. -/
theorem crowded_one_reloads : ∃ t,
 ((crowded 1).save 4 7 { parent := "",filename := "a" } .none).Exec t (.ok ()) ∧
  ∃ u r,(({} : WatchList).load 7 (.holding (ListFile.written t))).Exec u r ∧
   r.1=.ok () ∧ List.Forall₂ SameWatch (crowded 1).entries r.2.entries := by
 obtain ⟨t,saved⟩ := exists_saved 4 7 (by decide : (crowded 1).entries.length ≤ _)
  crowded_persistable
 have fits : (crowded 1).fileSize ≤ kMaxWatchFileBytes := by
  rw [fileSize_crowded]
  decide
 obtain ⟨⟨u,r,ran,answered⟩,loads⟩ := (saved_watch_list_reloads_iff saved {}).2 fits
 exact ⟨t,saved,u,r,ran,loads u r ran answered⟩

/-- Fewer than the largest number of entries, each with a description that `Add` takes, are saved
 to a file that `Load` refuses. -/
theorem crowded_refused :
 (∀ library : FloatingText,∃ history,(machine library).Run history (crowded 16289)) ∧
 ∃ t,((crowded 16289).save 4 7 { parent := "",filename := "a" } .none).Exec t (.ok ()) ∧
  ∀ (list : WatchList) u r,(list.load 7 (.holding (ListFile.written t))).Exec u r →
   ∃ error,r=(.error error,list) := by
 refine ⟨fun library=>crowded_run library (by decide),?_⟩
 have count : (crowded 16289).entries.length ≤ kMaxPersistedEntries := by
  simp only [crowded,List.length_map,List.length_range]
  decide
 obtain ⟨t,saved⟩ := exists_saved 4 7 count crowded_persistable
 refine ⟨t,saved,fun list u r ran => ?_⟩
 have large : kMaxWatchFileBytes<(ListFile.written t).length := by
  rw [(save_ok saved).2.2,length_fileBytes,fileSize_crowded]
  decide
 obtain ⟨error,refused⟩ := load_large list 7 large
 rw [refused] at ran
 exact ⟨error,ran.of_pure.2⟩

end WatchList
end KDbg
