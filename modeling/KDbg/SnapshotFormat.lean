import KDbg.MemorySnapshot
set_option autoImplicit false
/-!
# The snapshot file format

What `Save` writes and `Load` accepts, over a store of bytes. Every snapshot that
`Capture` or `Load` returns is well formed; the files that `Load` accepts are the
encodings of well-formed snapshots, and no file encodes two of them.
-/
namespace KDbg
open Interaction ByteCodec Prog
namespace MemorySnapshot

def checksumOf (bytes : List UInt8) : UInt32 := ~~~ bytes.foldl crc32Step 0xFFFFFFFF

/-- Only a process has an identifier and a directory table base. -/
def SpaceKeyed (space : SnapshotSpace) : Prop :=
 match space.kind with
 | .physical | .kernelVirtual => space.pid=0 ∧ space.directoryTableBase=0
 | .processVirtual => space.pid≠0

structure WellFormed (snapshot : MemorySnapshot) : Prop where
 keyed : SpaceKeyed snapshot.space
 labelled : snapshot.space.label.length ≤ kMaxLabelBytes
 nonempty : snapshot.bytes≠[]
 bounded : snapshot.bytes.length ≤ kMaxSnapshotBytes
 fits : snapshot.address.toNat+snapshot.bytes.length<2^64
 checked : snapshot.checksum=checksumOf snapshot.bytes

lemma validateSnapshotSpace_ok_iff (space:SnapshotSpace) (operation:String) :
 validateSnapshotSpace space operation=.ok () ↔
  space.label.length ≤ kMaxLabelBytes ∧ SpaceKeyed space := by
 unfold validateSnapshotSpace SpaceKeyed
 by_cases long:kMaxLabelBytes < space.label.length
 · simp [long,not_le.2 long]
 · rw [if_neg long]
   cases space.kind with
   | physical | kernelVirtual =>
    by_cases keyed:space.pid≠0 ∨ space.directoryTableBase≠0
    · simp only [if_pos keyed,reduceCtorEq,false_iff]
      rintro ⟨-,pid,base⟩
      exact keyed.elim (fun h=>h pid) (fun h=>h base)
    · simp only [if_neg keyed,true_iff]
      push Not at keyed
      exact ⟨not_lt.1 long,keyed⟩
   | processVirtual =>
    by_cases pid:space.pid=0
    · simp [pid]
    · simp [pid,not_lt.1 long]

lemma checkedAdd_eq_none_iff (left right:UInt64) :
 checkedAdd left right=none ↔ 2^64 ≤ left.toNat+right.toNat := by
 unfold checkedAdd
 have small:=left.toNat_lt
 have wraps:maxUInt64-left < right ↔ 2^64 ≤ left.toNat+right.toNat:=by
  rw [UInt64.lt_iff_toNat_lt,toNat_maxUInt64_sub]
  omega
 by_cases wrapped:maxUInt64-left < right
 · rw [if_pos wrapped]
   exact iff_of_true rfl (wraps.1 wrapped)
 · rw [if_neg wrapped]
   exact iff_of_false (by simp) fun h=>wrapped (wraps.2 h)

lemma checkedAdd_eq_some (left right:UInt64) (fits:left.toNat+right.toNat<2^64) :
 checkedAdd left right=some (left+right) := by
 have kept:checkedAdd left right≠none:=by
  rw [Ne,checkedAdd_eq_none_iff]
  omega
 unfold checkedAdd at kept ⊢
 split
 · rename_i wrapped
   rw [if_pos wrapped] at kept
   exact absurd rfl kept
 · rfl

variable {snapshot:MemorySnapshot} {header:SnapshotHeader}

/-- What `Save` checks is what a well-formed snapshot has, up to the checksum. -/
lemma validateSave_of_wellFormed (formed:WellFormed snapshot) :
 snapshot.validateSave=.ok () := by
 have space:=(validateSnapshotSpace_ok_iff snapshot.space "MemorySnapshot::Save").2
  ⟨formed.labelled,formed.keyed⟩
 have length:(UInt64.ofNat snapshot.bytes.length).toNat=snapshot.bytes.length:=by
  have fits:=formed.fits
  rw [UInt64.toNat_ofNat']
  omega
 have range:checkedAdd snapshot.address (UInt64.ofNat snapshot.bytes.length)≠none:=by
  rw [Ne,checkedAdd_eq_none_iff,length]
  exact not_le.2 formed.fits
 have sizes : ¬(kMaxSnapshotBytes < snapshot.bytes.length ∨
  kMaxLabelBytes < snapshot.space.label.length) := by
  have bounded:=formed.bounded
  have labelled:=formed.labelled
  omega
 unfold validateSave
 rw [if_neg formed.nonempty,if_neg sizes,space,if_neg range]
 rfl

lemma crc32Loop_ensures (phase:SnapshotProgressPhase) (total:ℕ) (bytes:List UInt8)
 (offset nextCheckpoint:ℕ) (crc:UInt32) :
 (crc32Loop phase total bytes offset nextCheckpoint crc).Ensures
  fun _ r => ∀c,r=.ok c → c = ~~~ bytes.foldl crc32Step crc := by
 induction bytes generalizing offset nextCheckpoint crc with
 | nil =>
  refine ensures_ask_bind fun _=>ensures_pure ?_
  rintro c ⟨⟩
  rfl
 | cons _ _ ih =>
  unfold crc32Loop
  split
  · refine ensures_ask_bind fun stop => ?_
    cases stop with
    | true => exact ensures_pure fun c h=>(nomatch h)
    | false => exact ensures_ask_bind fun _=>ih _ _ _
  · exact ih _ _ _

lemma crc32_ensures (bytes:List UInt8) (phase:SnapshotProgressPhase) :
 (crc32 bytes phase).Ensures fun _ r => ∀c,r=.ok c → c=checksumOf bytes :=
 ensures_ask_bind fun _=>crc32Loop_ensures phase bytes.length bytes 0 0 0xFFFFFFFF

def Formed (r : Result MemorySnapshot) : Prop := ∀ snapshot,r=.ok snapshot→WellFormed snapshot

lemma formed_error (error:Error) : Formed (.error error) := fun _ h=>(nomatch h)

lemma guardAllocation_ensures {what operation:String} {body:SnapshotM (Result MemorySnapshot)}
 (formed:body.Ensures fun _ r=>Formed r) :
 (guardAllocation what operation body).Ensures fun _ r=>Formed r := by
 refine ensures_ask_bind fun allocation => ?_
 cases allocation with
 | grown => exact formed
 | badAlloc | lengthError => exact ensures_pure (formed_error _)

/-- The loop brings the rest of the range, so that nothing is missing at its end. -/
lemma captureLoop_ensures (address:UInt64) (size chunkSize:ℕ) (nonzero:0 < chunkSize)
 (offset:ℕ) (bytes:List UInt8) (length:bytes.length=offset) (within:offset ≤ size) :
 (captureLoop address size chunkSize nonzero offset bytes).Ensures
  fun _ r => ∀all,r=.ok all → all.length=size := by
 fun_induction captureLoop address size chunkSize nonzero offset bytes with
 | case1 offset bytes _ ih =>
  refine ensures_ask_bind fun stop => ?_
  cases stop with
  | true => exact ensures_pure fun _ h=>(nomatch h)
  | false =>
   refine ensures_ask_bind fun answer => ?_
   cases answer with
   | error => exact ensures_pure fun _ h=>(nomatch h)
   | ok chunk =>
    by_cases short:chunk.length≠min (size-offset) chunkSize
    · simp only [if_pos short]
      exact ensures_pure fun _ h=>(nomatch h)
    · simp only [if_neg short]
      have full:chunk.length=min (size-offset) chunkSize:=not_not.1 short
      have grown:(bytes++chunk).length=offset+min (size-offset) chunkSize:=by
       rw [List.length_append,length,full]
      exact ensures_ask_bind fun _=>ih chunk short grown (by omega)
 | case2 =>
  refine ensures_pure fun _ h => ?_
  cases h
  omega

lemma validateCapture_ok {space:SnapshotSpace} {address size:UInt64} {chunkSize:UInt32}
 (valid:validateCapture space address size chunkSize=.ok ()) :
 space.label.length ≤ kMaxLabelBytes ∧ SpaceKeyed space ∧ size≠0 ∧
  size.toNat ≤ kMaxSnapshotBytes ∧ address.toNat+size.toNat<2^64 := by
 obtain ⟨_,accepted,rest⟩:=Fallible.exists_of_bind valid
 obtain ⟨labelled,keyed⟩:=(validateSnapshotSpace_ok_iff _ _).1 accepted
 by_cases zero:size=0
 · rw [if_pos zero] at rest
   cases rest
 by_cases large:kMaxSnapshotBytes < size.toNat
 · rw [if_neg zero,if_pos large] at rest
   cases rest
 by_cases range:checkedAdd address size=none
 · rw [if_neg zero,if_neg large,if_pos range] at rest
   cases rest
 rw [checkedAdd_eq_none_iff] at range
 exact ⟨labelled,keyed,zero,not_lt.1 large,not_le.1 range⟩

lemma captureWithReader_formed (space:SnapshotSpace) (address size:UInt64)
 (chunkSize:UInt32) :
 (captureWithReader space address size chunkSize).Ensures fun _ r=>Formed r := by
 unfold captureWithReader
 cases valid:validateCapture space address size chunkSize with
 | error => exact ensures_pure (formed_error _)
 | ok =>
  obtain ⟨labelled,keyed,nonzero,bounded,fits⟩:=validateCapture_ok valid
  refine ensures_ask_bind fun stop => ?_
  cases stop with
  | true => exact ensures_pure (formed_error _)
  | false =>
   refine guardAllocation_ensures (ensures_ask_bind fun _ => ?_)
   refine ensures_bind
    (captureLoop_ensures address size.toNat _ _ 0 [] rfl (Nat.zero_le _)) fun _ r read => ?_
   cases r with
   | error => exact ensures_pure (formed_error _)
   | ok bytes =>
    have length:bytes.length=size.toNat:=read bytes rfl
    refine ensures_bind (crc32_ensures bytes _) fun _ r summed => ?_
    cases r with
    | error => exact ensures_pure (formed_error _)
    | ok checksum =>
     refine ensures_pure fun _ h => ?_
     cases h
     refine ⟨keyed,labelled,?_,length.trans_le bounded,?_,summed checksum rfl⟩
     · rintro rfl
       exact nonzero (UInt64.toNat_inj.1 length.symm)
     · rw [length]
       exact fits

lemma captureProcess_formed (address size:UInt64) (chunkSize:UInt32) :
 (captureProcess address size chunkSize).Ensures fun _ r=>Formed r := by
 refine ensures_ask_bind fun opened => ?_
 cases opened with
 | false => exact ensures_pure (formed_error _)
 | true =>
  exact ensures_ask_bind fun _=>ensures_ask_bind fun _ =>
   captureWithReader_formed _ _ _ _

lemma loadLoop_ensures (size payloadTotal completed offset:ℕ) (bytes:List UInt8)
 (length:bytes.length=offset) (within:offset ≤ size) :
 (loadLoop size payloadTotal completed offset bytes).Ensures
  fun _ r => ∀all,r=.ok all → all.length=size := by
 fun_induction loadLoop size payloadTotal completed offset bytes with
 | case1 _ offset bytes _ ih =>
  refine ensures_ask_bind fun stop => ?_
  cases stop with
  | true => exact ensures_pure fun _ h=>(nomatch h)
  | false =>
   refine ensures_ask_bind fun answer => ?_
   cases answer with
   | none => exact ensures_pure fun _ h=>(nomatch h)
   | some chunk =>
    have grown:(bytes++chunk.1).length=offset+min (size-offset) kMaxChunkBytes:=by
     rw [List.length_append,length,chunk.2]
    exact ensures_ask_bind fun _=>ih chunk grown (by omega)
 | case2 =>
  refine ensures_pure fun _ h => ?_
  cases h
  omega

/-- The sums of `expected_size`, over any three words that fit: what is left to fail is the end of
 the range. -/
lemma checkedAdd_sums (base label count address:UInt64) (size:ℕ)
 (small:base.toNat+(label.toNat+count.toNat)<2^64) :
 ((checkedAdd label count).bind fun payload=>(checkedAdd base payload).bind fun expected =>
  (checkedAdd address count).bind fun _=>some expected).map UInt64.toNat=some size ↔
  size=base.toNat+(label.toNat+count.toNat) ∧ address.toNat+count.toNat<2^64 := by
 have payload:(label+count).toNat=label.toNat+count.toNat:=by
  rw [UInt64.toNat_add]
  omega
 have whole:(base+(label+count)).toNat=base.toNat+(label.toNat+count.toNat):=by
  rw [UInt64.toNat_add]
  omega
 have first:=checkedAdd_eq_some label count (by omega)
 have second:=checkedAdd_eq_some base (label+count) (by omega)
 rw [first,Option.bind_some,second,Option.bind_some]
 cases range:checkedAdd address count with
 | none =>
  rw [checkedAdd_eq_none_iff] at range
  exact iff_of_false (Option.some_ne_none _).symm fun h=>absurd h.2 (not_lt.2 range)
 | some =>
  have fits:¬ 2^64 ≤ address.toNat+count.toNat:=by
   rw [←checkedAdd_eq_none_iff,range]
   exact Option.some_ne_none _
  rw [Option.bind_some,Option.map_some,whole,Option.some_inj]
  exact ⟨fun h=>⟨h.symm,not_le.1 fits⟩,fun h=>h.1.symm⟩

lemma expectedSize_eq_some (valid:HeaderValid header) (size:ℕ) :
 (expectedSize header).map UInt64.toNat=some size ↔
  size=SnapshotHeader.size+(header.labelSize.toNat+header.byteCount.toNat) ∧
   header.address.toNat+header.byteCount.toNat<2^64 := by
 obtain ⟨-,-,-,-,-,bounded,labelled⟩:=valid
 have label : header.labelSize.toUInt64.toNat=header.labelSize.toNat :=
  UInt32.toNat_toUInt64 _
 have base:(UInt64.ofNat SnapshotHeader.size).toNat=SnapshotHeader.size:=by
  rfl
 have sums:=checkedAdd_sums (UInt64.ofNat SnapshotHeader.size) header.labelSize.toUInt64
  header.byteCount header.address size (by
   rw [base,SnapshotHeader.size_eq]
   simp only [kMaxSnapshotBytes] at bounded
   simp only [kMaxLabelBytes] at labelled
   omega)
 exact sums

lemma loadPayload_formed {space:SnapshotSpace}
 (valid:HeaderValid header) (fits:header.address.toNat+header.byteCount.toNat<2^64)
 (keyed:SpaceKeyed space) (labelled:space.label.length ≤ kMaxLabelBytes) :
 (loadPayload header space).Ensures fun _ r=>Formed r := by
 obtain ⟨-,-,-,-,nonzero,bounded,-⟩:=valid
 unfold loadPayload
 refine ensures_bind
  (loadLoop_ensures header.byteCount.toNat _ _ 0 [] rfl (Nat.zero_le _)) fun _ r read => ?_
 cases r with
 | error => exact ensures_pure (formed_error _)
 | ok bytes =>
  have length:bytes.length=header.byteCount.toNat:=read bytes rfl
  refine ensures_ask_bind fun eof => ?_
  cases eof with
  | false => exact ensures_pure (formed_error _)
  | true =>
   refine ensures_bind (crc32_ensures bytes _) fun _ r summed => ?_
   cases r with
   | error => exact ensures_pure (formed_error _)
   | ok checksum =>
    by_cases differs:checksum≠header.checksum
    · simp only [if_pos differs]
      exact ensures_pure (formed_error _)
    · simp only [if_neg differs]
      refine ensures_pure fun _ h => ?_
      cases h
      refine ⟨keyed,labelled,?_,length.trans_le bounded,?_,summed checksum rfl⟩
      · rintro rfl
        exact nonzero (UInt64.toNat_inj.1 length.symm)
      · rw [length]
        exact fits

lemma loadBody_formed (valid:HeaderValid header)
 (fits:header.address.toNat+header.byteCount.toNat<2^64) :
 (loadBody header).Ensures fun _ r=>Formed r := by
 unfold loadBody
 dsimp only
 split
 · exact ensures_pure (formed_error _)
 · rename_i accepted
   obtain ⟨-,keyed⟩:=(validateSnapshotSpace_ok_iff _ _).1 accepted
   refine ensures_ask_bind fun _=>ensures_ask_bind fun stop => ?_
   cases stop with
   | true => exact ensures_pure (formed_error _)
   | false =>
    refine guardAllocation_ensures (ensures_ask_bind fun answer => ?_)
    cases answer with
    | none => exact ensures_pure (formed_error _)
    | some label =>
     have labelled:label.1.length ≤ kMaxLabelBytes:=by
      rw [label.2]
      exact valid.2.2.2.2.2.2
     exact guardAllocation_ensures (loadPayload_formed valid fits keyed labelled)

lemma load_formed : load.Ensures fun _ r=>Formed r := by
 refine ensures_ask_bind fun stop => ?_
 cases stop with
 | true => exact ensures_pure (formed_error _)
 | false =>
  refine ensures_ask_bind fun opened => ?_
  cases opened with
  | false => exact ensures_pure (formed_error _)
  | true =>
   refine ensures_ask_bind fun size => ?_
   cases size with
   | error => exact ensures_pure (formed_error _)
   | ok fileSize =>
    refine ensures_ask_bind fun packed => ?_
    cases packed with
    | none => exact ensures_pure (formed_error _)
    | some packed =>
     by_cases valid:HeaderValid (SnapshotHeader.codec.decode packed.1)
     · by_cases sized:(expectedSize (SnapshotHeader.codec.decode packed.1)).map
        UInt64.toNat=some fileSize
       · simp only [not_not.2 valid,if_false,ne_eq,sized,not_true]
         exact loadBody_formed valid ((expectedSize_eq_some valid fileSize).1 sized).2
       · simp only [not_not.2 valid,if_false,ne_eq,sized,not_false_iff,if_true]
         exact ensures_pure (formed_error _)
     · simp only [valid,not_false_iff,if_true]
       exact ensures_pure (formed_error _)

/-- A snapshot that one of the two captures or `Load` has returned, whatever answered them. -/
inductive Obtained (snapshot:MemorySnapshot) : Prop where
 | captured (space:SnapshotSpace) (address size:UInt64) (chunkSize:UInt32)
  (trace:List SnapshotEvent)
  (ran:(capture space address size chunkSize).Exec trace (.ok snapshot))
 | capturedProcess (address size:UInt64) (chunkSize:UInt32) (trace:List SnapshotEvent)
  (ran:(captureProcess address size chunkSize).Exec trace (.ok snapshot))
 | loaded (trace:List SnapshotEvent) (ran:load.Exec trace (.ok snapshot))

lemma Obtained.wellFormed (obtained:Obtained snapshot) : WellFormed snapshot := by
 cases obtained with
 | captured space address size chunkSize trace ran =>
  exact captureWithReader_formed space address size chunkSize trace _ ran snapshot rfl
 | capturedProcess address size chunkSize trace ran =>
  exact captureProcess_formed address size chunkSize trace _ ran snapshot rfl
 | loaded trace ran => exact load_formed trace _ ran snapshot rfl

/-- The destination and its temporary sibling, with the place up to which the destination has
 been read. -/
structure Store where
 file : Option (List UInt8) := none
 temporary : Option (List UInt8) := none
 position : ℕ := 0
deriving DecidableEq,Repr

namespace Store

def unread (store : Store) : List UInt8 := (store.file.getD []).drop store.position

/-- Files that keep what is written to them, and a caller that never stops the operation and
 never runs out of memory. No process is attached. -/
def answer (store : Store) : (call : SnapshotCall)→SnapshotAnswer call×Store
 | .stopRequested => (false,store)
 | .progress _ => ((),store)
 | .isOpen => (false,store)
 | .processId => ((0 : UInt32),store)
 | .read _ _ => ((.ok [] : Result (List UInt8)),store)
 | .allocate => (Allocation.grown,store)
 | .openOutput => (true,{ store with temporary := some [] })
 | .write bytes => ((),{ store with temporary := store.temporary.map (· ++ bytes) })
 | .flush => ((),store)
 | .close => ((),store)
 | .outputGood => (true,store)
 | .flushFileToDisk => ((.ok () : Result Unit),store)
 | .replaceAtomically =>
  ((.ok () : Result Unit),{ store with file := store.temporary,temporary := none })
 | .removeTemporary => ((),{ store with temporary := none })
 | .openInput => (store.file.isSome,{ store with position := 0 })
 | .fileSize => ((.ok (store.file.getD []).length : Except UInt64 ℕ),store)
 | .readInput count =>
  if enough : count ≤ store.unread.length then
   (some ⟨store.unread.take count,by rw [List.length_take,min_eq_left enough]⟩,
    { store with position := store.position+count })
  else (none,store)
 | .peekEof => (decide (store.unread=[]),store)

lemma answer_readInput (store:Store) {head tail:List UInt8} {count:ℕ}
 (length:head.length=count) (unread:store.unread=head++tail) :
 store.answer (.readInput count) =
  (some ⟨head,length⟩,{ store with position := store.position+count }) := by
 have enough:count ≤ store.unread.length:=by
  rw [unread,List.length_append]
  omega
 have taken:store.unread.take count=head:=by rw [unread,List.take_left' length]
 simp only [answer,enough,dite_true,taken]
 rfl

lemma unread_advanced (store:Store) {head tail:List UInt8} {count:ℕ}
 (length:head.length=count) (unread:store.unread=head++tail) :
 ({ store with position := store.position+count } : Store).unread=tail := by
 change (store.file.getD []).drop (store.position+count)=tail
 rw [←List.drop_drop]
 change store.unread.drop count=tail
 rw [unread,List.drop_left' length]

end Store

/-- The operation over the store: its result and the store it leaves. -/
abbrev onStore {α : Type} (operation : SnapshotM α) (store : Store) : α×Store :=
 operation.runWith Store.answer store

variable {store:Store}

lemma onStore_bind {α β:Type} {p:SnapshotM α} {after:Store} {a:α}
 (ran:onStore p store=(a,after)) (f:α→SnapshotM β) :
 onStore (p >>= f) store=onStore (f a) after := by
 rw [onStore] at ran
 rw [onStore,runWith_bind,ran]

lemma crc32Loop_onStore (phase:SnapshotProgressPhase) (total:ℕ) (bytes:List UInt8)
 (offset nextCheckpoint:ℕ) (crc:UInt32) (store:Store) :
 onStore (crc32Loop phase total bytes offset nextCheckpoint crc) store =
  (.ok (~~~ bytes.foldl crc32Step crc),store) := by
 induction bytes generalizing offset nextCheckpoint crc with
 | nil => rfl
 | cons _ _ ih =>
  unfold crc32Loop
  split
  · exact ih _ _ _
  · exact ih _ _ _

lemma crc32_onStore (bytes:List UInt8) (phase:SnapshotProgressPhase) (store:Store) :
 onStore (crc32 bytes phase) store=(.ok (checksumOf bytes),store) :=
 crc32Loop_onStore phase bytes.length bytes 0 0 0xFFFFFFFF store

def encoded (snapshot : MemorySnapshot) : List UInt8 :=
 SnapshotHeader.codec.encode snapshot.header++(snapshot.space.label++snapshot.bytes)

lemma saveLoop_onStore (total completed:ℕ) (bytes:List UInt8) (store:Store) :
 onStore (saveLoop total completed bytes) store =
  (.ok (),{ store with temporary := store.temporary.map (· ++ bytes) }) := by
 fun_induction saveLoop total completed bytes generalizing store with
 | case1 =>
  cases store with
  | mk _ temporary => cases temporary <;> simp
 | case2 _ bytes _ ih =>
  have rest:=ih { store with temporary := store.temporary.map (· ++ bytes.take kMaxChunkBytes) }
  refine rest.trans ?_
  cases store with
  | mk _ temporary =>
   cases temporary with
   | none => rfl
   | some => simp

lemma commit_onStore (store:Store) :
 onStore (commit .none) store =
  (.ok (),{ store with file := store.temporary,temporary := none }) := rfl

def written (snapshot : MemorySnapshot) (store : Store) : Store :=
 { store with temporary := some (encoded snapshot) }

lemma writeFile_onStore (snapshot:MemorySnapshot) (fault:SnapshotSaveFault) (store:Store) :
 onStore (snapshot.writeFile fault) store=onStore (commit fault) (written snapshot store) := by
 have payload:=saveLoop_onStore
  (SnapshotHeader.size+snapshot.space.label.length+snapshot.bytes.length)
  (SnapshotHeader.size+snapshot.space.label.length) snapshot.bytes
  { store with
    temporary := some (([]++SnapshotHeader.codec.encode snapshot.header) ++
     snapshot.space.label) }
 have whole : some ((([]++SnapshotHeader.codec.encode snapshot.header) ++
  snapshot.space.label)++snapshot.bytes)=some (encoded snapshot) := by
  rfl
 rw [Option.map_some,whole] at payload
 -- up to the payload every answer of the store is definite
 exact onStore_bind payload _

/-- A well-formed snapshot that is saved at a proper path replaces the file by its encoding. -/
lemma save_onStore (formed:WellFormed snapshot) {path:SnapshotPath}
 (named:path.filename ≠ "") (store:Store) :
 onStore (snapshot.save path .none) store =
  (.ok (),{ store with file := some (encoded snapshot),temporary := none }) := by
 have proper : ¬(path.empty=true ∨ path.filename = "") := by
  rintro (empty | unnamed)
  · simp only [SnapshotPath.empty,Bool.and_eq_true,beq_iff_eq] at empty
    exact named empty.2
  · exact named unnamed
 have body:=(writeFile_onStore snapshot .none store).trans (commit_onStore _)
 unfold save
 rw [validateSave_of_wellFormed formed]
 simp only [if_neg proper]
 exact onStore_bind body _

/-- Whenever it succeeds, that is what it has done. -/
lemma save_ok_onStore (formed:WellFormed snapshot) {path:SnapshotPath}
 {fault:SnapshotSaveFault} {after:Store}
 (saved:onStore (snapshot.save path fault) store=(.ok (),after)) :
 after.file=some (encoded snapshot) := by
 unfold save at saved
 rw [validateSave_of_wellFormed formed] at saved
 by_cases improper:path.empty=true ∨ path.filename = ""
 · simp only [if_pos improper] at saved
   cases congrArg Prod.fst saved
 · simp only [if_neg improper] at saved
   cases fault with
   | none =>
    have body:=(writeFile_onStore snapshot .none store).trans (commit_onStore _)
    have ran:=(onStore_bind body _).symm.trans saved
    cases congrArg Prod.snd ran
    rfl
   | afterFlushBeforeReplace =>
    have body:=writeFile_onStore snapshot .afterFlushBeforeReplace store
    have ran:=(onStore_bind body _).symm.trans saved
    cases congrArg Prod.fst ran

lemma readInput_onStore {head tail:List UInt8} {count:ℕ} (length:head.length=count)
 (unread:store.unread=head++tail) :
 onStore (readInput count) store =
  (some ⟨head,length⟩,{ store with position := store.position+count }) :=
 Store.answer_readInput store length unread

lemma loadLoop_onStore (size payloadTotal completed offset:ℕ) (bytes:List UInt8)
 (store:Store) (rest:List UInt8) (length:rest.length=size-offset)
 (unread:store.unread=rest) :
 ∃ after,onStore (loadLoop size payloadTotal completed offset bytes) store =
  (.ok (bytes++rest),after) ∧ after.unread=[] := by
 fun_induction loadLoop size payloadTotal completed offset bytes generalizing store rest with
 | case1 _ offset _ _ ih =>
  have taken : (rest.take (min (size-offset) kMaxChunkBytes)).length =
   min (size-offset) kMaxChunkBytes := by
   rw [List.length_take]
   omega
  have split : store.unread=rest.take (min (size-offset) kMaxChunkBytes) ++
   rest.drop (min (size-offset) kMaxChunkBytes) := by
   rw [List.take_append_drop,unread]
  have left : (rest.drop (min (size-offset) kMaxChunkBytes)).length =
   size-(offset+min (size-offset) kMaxChunkBytes) := by
   rw [List.length_drop]
   omega
  obtain ⟨after,ran,ended⟩:=ih ⟨_,taken⟩ _ _ left (Store.unread_advanced store taken split)
  refine ⟨after,?_,ended⟩
  refine ((onStore_bind (readInput_onStore taken split) _).trans ran).trans ?_
  rw [List.append_assoc,List.take_append_drop]
 | case2 =>
  have none_left:rest=[]:=List.length_eq_zero_iff.1 (by omega)
  subst none_left
  exact ⟨store,by rw [List.append_nil];rfl,unread⟩

def loaded (header : SnapshotHeader) (label bytes : List UInt8) : MemorySnapshot :=
 { space :=
  { kind := kindOfCode header.kind,pid := header.pid,
    directoryTableBase := header.directoryTableBase,label },
   address := header.address,bytes,checksum := checksumOf bytes }

lemma loadPayload_onStore (header:SnapshotHeader) (space:SnapshotSpace) (bytes:List UInt8)
 (store:Store) (length:bytes.length=header.byteCount.toNat)
 (unread:store.unread=bytes) :
 (onStore (loadPayload header space) store).1 =
  if checksumOf bytes≠header.checksum then
   .error (makeError .verificationMismatch
    "Snapshot checksum does not match its payload" "MemorySnapshot::Load")
  else .ok { space,address := header.address,bytes,checksum := checksumOf bytes } := by
 obtain ⟨after,ran,ended⟩:=loadLoop_onStore header.byteCount.toNat
  (header.labelSize.toNat+header.byteCount.toNat) header.labelSize.toNat 0 [] store bytes
  length unread
 have atEnd:onStore peekEof after=(true,after):=by
  change (decide (after.unread=[]),after)=(true,after)
  rw [ended]
  rfl
 unfold loadPayload
 rw [onStore_bind ran,List.nil_append]
 rw [onStore_bind atEnd]
 simp only [Bool.not_true,Bool.false_eq_true,if_false]
 rw [onStore_bind (crc32_onStore bytes .loadChecksum after)]
 dsimp only
 split <;> rfl

lemma guardAllocation_onStore {α:Type} (what operation:String) (body:SnapshotM (Result α))
 (store:Store) : onStore (guardAllocation what operation body) store=onStore body store :=
 rfl

lemma default_label_length : ({} : SnapshotSpace).label.length ≤ kMaxLabelBytes := by
 have length:({} : SnapshotSpace).label.length=15:=rfl
 rw [kMaxLabelBytes]
 omega

lemma stopRequested_onStore (store:Store) : onStore stopRequested store=(false,store) := rfl

lemma loadBody_onStore {label bytes:List UInt8} {store:Store}
 (keyed:SpaceKeyed (loaded header label bytes).space)
 (labelSize:label.length=header.labelSize.toNat)
 (byteCount:bytes.length=header.byteCount.toNat) (unread:store.unread=label++bytes) :
 (onStore (loadBody header) store).1 =
  if checksumOf bytes≠header.checksum then
   .error (makeError .verificationMismatch
    "Snapshot checksum does not match its payload" "MemorySnapshot::Load")
  else .ok (loaded header label bytes) := by
 have accepted:=(validateSnapshotSpace_ok_iff
  { kind := kindOfCode header.kind,pid := header.pid,
    directoryTableBase := header.directoryTableBase } "MemorySnapshot::Load").2
  ⟨default_label_length,keyed⟩
 unfold loadBody
 dsimp only
 rw [accepted]
 -- the progress report, the poll and both allocations leave the store as it is
 have reported : onStore (reportProgress .loadRead 0
  (header.labelSize.toNat+header.byteCount.toNat)) store=((),store) := rfl
 rw [onStore_bind reported,onStore_bind (stopRequested_onStore store),
  if_neg Bool.false_ne_true,guardAllocation_onStore,
  onStore_bind (readInput_onStore labelSize unread)]
 exact loadPayload_onStore header (loaded header label bytes).space bytes _ byteCount
  (Store.unread_advanced store labelSize unread)

/-- Once the lengths are right, `Load` returns its snapshot exactly when the space is keyed as its
 kind says and the checksum is that of the payload. -/
lemma loadBody_ok_iff (header:SnapshotHeader) (label bytes:List UInt8) (store:Store)
 (labelSize:label.length=header.labelSize.toNat)
 (byteCount:bytes.length=header.byteCount.toNat) (unread:store.unread=label++bytes)
 (snapshot:MemorySnapshot) :
 (onStore (loadBody header) store).1=.ok snapshot ↔
  SpaceKeyed (loaded header label bytes).space ∧ checksumOf bytes=header.checksum ∧
   snapshot=loaded header label bytes := by
 by_cases keyed:SpaceKeyed (loaded header label bytes).space
 · rw [loadBody_onStore keyed labelSize byteCount unread]
   by_cases differs:checksumOf bytes≠header.checksum
   · rw [if_pos differs]
     exact iff_of_false (fun h=>(nomatch h)) fun h=>differs h.2.1
   · rw [if_neg differs]
     constructor
     · rintro ⟨⟩
       exact ⟨keyed,not_not.1 differs,rfl⟩
     · rintro ⟨-,-,rfl⟩
       rfl
 · refine iff_of_false (fun h=>keyed ?_) fun h=>keyed h.1
   unfold loadBody at h
   dsimp only at h
   split at h
   · cases h
   · rename_i accepted
     exact ((validateSnapshotSpace_ok_iff _ _).1 accepted).2

lemma kindOfCode_kindCode (kind:MemorySpaceKind) : kindOfCode (kindCode kind)=kind := by
 cases kind <;> rfl

lemma kindCode_kindOfCode {code:UInt32} (known:code ≤ kindCode .kernelVirtual) :
 kindCode (kindOfCode code)=code := by
 have bound:code.toNat≤2:=UInt32.le_iff_toNat_le.1 known
 unfold kindOfCode
 split
 · rename_i zero
   exact zero.symm
 · rename_i nonzero
   have positive:code.toNat≠0:=fun h=>nonzero (UInt32.toNat_inj.1 h)
   split
   · rename_i one
     exact one.symm
   · rename_i further
     have past:code.toNat≠1:=fun h=>further (UInt32.toNat_inj.1 h)
     exact UInt32.toNat_inj.1 (show 2=code.toNat by omega)

lemma header_loaded (valid:HeaderValid header)
 {label bytes:List UInt8} (labelSize:label.length=header.labelSize.toNat)
 (byteCount:bytes.length=header.byteCount.toNat)
 (checksum:checksumOf bytes=header.checksum) :
 (loaded header label bytes).header=header := by
 obtain ⟨magic,version,reserved,kind,-,-,-⟩:=valid
 cases header with
 | mk =>
  simp only at magic version reserved kind labelSize byteCount checksum
  simp only [MemorySnapshot.header,loaded,kindCode_kindOfCode kind,labelSize,byteCount,
   checksum,magic,version,reserved,UInt64.ofNat_toNat,UInt32.ofNat_toNat]

lemma loaded_header (formed:WellFormed snapshot) :
 loaded snapshot.header snapshot.space.label snapshot.bytes=snapshot := by
 have checked:=formed.checked
 cases snapshot with
 | mk =>
  simp only at checked
  simp only [loaded,MemorySnapshot.header,kindOfCode_kindCode,checked]

lemma header_labelSize (formed:WellFormed snapshot) :
 snapshot.space.label.length=snapshot.header.labelSize.toNat := by
 have labelled:=formed.labelled
 have small:snapshot.space.label.length<2^32:=labelled.trans_lt (by
  rw [kMaxLabelBytes]
  omega)
 exact (UInt32.toNat_ofNat_of_lt' small).symm

lemma header_byteCount (formed:WellFormed snapshot) :
 snapshot.bytes.length=snapshot.header.byteCount.toNat := by
 have fits:=formed.fits
 have small:snapshot.bytes.length<2^64:=by omega
 exact (UInt64.toNat_ofNat_of_lt' small).symm

lemma header_valid (formed:WellFormed snapshot) : HeaderValid snapshot.header := by
 have count:=header_byteCount formed
 refine ⟨rfl,rfl,rfl,?_,?_,count.ge.trans formed.bounded,
  (header_labelSize formed).ge.trans formed.labelled⟩
 · change kindCode snapshot.space.kind ≤ kindCode .kernelVirtual
   cases snapshot.space.kind <;> decide
 · intro zero
   rw [zero] at count
   exact formed.nonempty (List.length_eq_zero_iff.1 count)

lemma length_encoded_header (snapshot:MemorySnapshot) :
 (SnapshotHeader.codec.encode snapshot.header).length=SnapshotHeader.size :=
 SnapshotHeader.codec.length_encode _

lemma load_onStore {packed rest:List UInt8} (file:store.file=some (packed++rest))
 (length:packed.length=SnapshotHeader.size) :
 (onStore load store).1 =
  if ¬HeaderValid (SnapshotHeader.codec.decode packed) then
   .error (parseError "Snapshot file header is invalid")
  else if (expectedSize (SnapshotHeader.codec.decode packed)).map UInt64.toNat ≠
   some (packed++rest).length then
   .error (parseError "Snapshot file length or address range is invalid")
  else (onStore (loadBody (SnapshotHeader.codec.decode packed))
   { store with position := 0+SnapshotHeader.size }).1 := by
 obtain ⟨_,temporary,position⟩:=store
 cases file
 have unread:(⟨some (packed++rest),temporary,0⟩ : Store).unread=packed++rest:=rfl
 -- up to the header every answer of the store is definite
 have opened : onStore (Prog.ask SnapshotCall.openInput : SnapshotM Bool)
  ⟨some (packed++rest),temporary,position⟩=(true,⟨some (packed++rest),temporary,0⟩) := rfl
 have sized : onStore (Prog.ask SnapshotCall.fileSize : SnapshotM (Except UInt64 ℕ))
  ⟨some (packed++rest),temporary,0⟩ =
   (.ok (packed++rest).length,⟨some (packed++rest),temporary,0⟩) := rfl
 rw [load,onStore_bind (stopRequested_onStore _),if_neg Bool.false_ne_true,onStore_bind opened,
  if_neg (by decide),onStore_bind sized]
 dsimp only
 rw [onStore_bind (readInput_onStore length unread)]
 dsimp only
 split
 · rfl
 · split <;> rfl

lemma load_short_onStore {file:List UInt8} (held:store.file=some file)
 (short:file.length < SnapshotHeader.size) :
 (onStore load store).1=.error (parseError "Snapshot file header is invalid") := by
 obtain ⟨_,temporary,_⟩:=store
 cases held
 have missing : onStore (readInput SnapshotHeader.size) ⟨some file,temporary,0⟩ =
  (none,⟨some file,temporary,0⟩) := by
  exact dif_neg (not_le.2 short)
 exact congrArg Prod.fst (onStore_bind missing _)

lemma load_absent_onStore (absent:store.file=none) :
 (onStore load store).1 =
  .error (makeError .ioFailure "Unable to open snapshot file" "MemorySnapshot::Load") := by
 obtain ⟨_,_,_⟩:=store
 cases absent
 rfl

/-- A file with the header of a snapshot and a payload of the same length. -/
lemma load_payload (formed:WellFormed snapshot) {bytes:List UInt8}
 (length:bytes.length=snapshot.bytes.length) (file:store.file =
  some (SnapshotHeader.codec.encode snapshot.header++(snapshot.space.label++bytes))) :
 (onStore load store).1 =
  if checksumOf bytes≠snapshot.checksum then
   .error (makeError .verificationMismatch
    "Snapshot checksum does not match its payload" "MemorySnapshot::Load")
  else .ok (loaded snapshot.header snapshot.space.label bytes) := by
 have header:=SnapshotHeader.codec.decode_encode snapshot.header
 have sized:=(expectedSize_eq_some (header_valid formed)
  (SnapshotHeader.codec.encode snapshot.header++(snapshot.space.label++bytes)).length).2 ⟨by
  rw [List.length_append,List.length_append,length_encoded_header,header_labelSize formed,length,
   header_byteCount formed],by
  rw [←header_byteCount formed]
  exact formed.fits⟩
 have unread : ({ store with position := 0+SnapshotHeader.size } : Store).unread =
  snapshot.space.label++bytes := by
  change (store.file.getD []).drop (0+SnapshotHeader.size)=_
  rw [file,Nat.zero_add,Option.getD_some,List.drop_left' (length_encoded_header snapshot)]
 have keyed:SpaceKeyed (loaded snapshot.header snapshot.space.label bytes).space:=by
  have same:=congrArg MemorySnapshot.space (loaded_header formed)
  exact same ▸ formed.keyed
 rw [load_onStore file (length_encoded_header snapshot),header,if_neg (not_not.2
  (header_valid formed)),if_neg (not_not.2 sized)]
 exact loadBody_onStore keyed (header_labelSize formed)
  (length.trans (header_byteCount formed)) unread

/-- The encoding of a well-formed snapshot is loaded as that snapshot. -/
lemma load_encoded (formed:WellFormed snapshot) (file:store.file=some (encoded snapshot)) :
 (onStore load store).1=.ok snapshot := by
 rw [load_payload formed rfl file,if_neg (not_not.2 formed.checked.symm),loaded_header formed]

/-- Nothing else is loaded: the file is the encoding of what it is loaded as. -/
lemma encoded_of_load (ran:(onStore load store).1=.ok snapshot) :
 store.file=some (encoded snapshot) := by
 cases file:store.file with
 | none =>
  rw [load_absent_onStore file] at ran
  cases ran
 | some file' =>
  by_cases short:file'.length < SnapshotHeader.size
  · rw [load_short_onStore file short] at ran
    cases ran
  have packed:(file'.take SnapshotHeader.size).length=SnapshotHeader.size:=by
   rw [List.length_take,min_eq_left (not_lt.1 short)]
  have split:=List.take_append_drop SnapshotHeader.size file'
  have file'' := file
  rw [←split] at file''
  rw [load_onStore file'' packed] at ran
  by_cases valid:HeaderValid (SnapshotHeader.codec.decode (file'.take SnapshotHeader.size))
  swap
  · rw [if_pos valid] at ran
    cases ran
  split_ifs at ran with sized
  have total:=((expectedSize_eq_some valid _).1 (not_not.1 sized)).1
  generalize shown : SnapshotHeader.codec.decode (file'.take SnapshotHeader.size)=header at *
  generalize payload : file'.drop SnapshotHeader.size=rest at *
  rw [List.length_append,packed] at total
  have labelSize:(rest.take header.labelSize.toNat).length=header.labelSize.toNat:=by
   rw [List.length_take]
   omega
  have byteCount:(rest.drop header.labelSize.toNat).length=header.byteCount.toNat:=by
   rw [List.length_drop]
   omega
  have unread : ({ store with position := 0+SnapshotHeader.size } : Store).unread =
   rest.take header.labelSize.toNat++rest.drop header.labelSize.toNat := by
   change (store.file.getD []).drop (0+SnapshotHeader.size)=_
   rw [file,Nat.zero_add,Option.getD_some,payload,List.take_append_drop]
  obtain ⟨-,checksum,rfl⟩:=(loadBody_ok_iff header _ _ _ labelSize byteCount unread
   snapshot).1 ran
  have encodedHeader:=SnapshotHeader.codec.encode_decode _ packed
  rw [shown] at encodedHeader
  rw [encoded,header_loaded valid labelSize byteCount checksum,encodedHeader]
  change _=some (_++(rest.take header.labelSize.toNat++rest.drop header.labelSize.toNat))
  rw [List.take_append_drop,split]

/-- `Load` gives back what `Save` has written of any captured or loaded snapshot, and `Save`
 writes the file that `Load` has read, byte for byte; at a proper path it does succeed. -/
theorem snapshot_file_bijective :
 (∀ snapshot,Obtained snapshot → ∀ path fault store after,
  onStore (snapshot.save path fault) store=(.ok (),after) →
   (onStore load after).1=.ok snapshot) ∧
 (∀ snapshot store,(onStore load store).1=.ok snapshot → ∀ path other,
  (∀ fault after,onStore (snapshot.save path fault) other=(.ok (),after) →
   after.file=store.file) ∧
  (path.filename ≠ "" → ∃ after,
   onStore (snapshot.save path .none) other=(.ok (),after) ∧
    after.file=store.file)) := by
 refine ⟨?_,?_⟩
 · intro _ obtained _ _ _ _ saved
   exact load_encoded obtained.wellFormed (save_ok_onStore obtained.wellFormed saved)
 · intro _ store ran _ other
   obtain ⟨trace,execution⟩ := exec_runWith Store.answer load store
   rw [ran] at execution
   have formed := (Obtained.loaded trace execution).wellFormed
   have file := encoded_of_load ran
   refine ⟨fun _ _ saved => ?_,fun named => ?_⟩
   · rw [save_ok_onStore formed saved,file]
   · exact ⟨_,save_onStore formed named other,file.symm⟩

/-! Five bytes of a process, captured into a file and read back. -/

def sampleSpace : SnapshotSpace where
 kind := .processVirtual
 pid := 4
 directoryTableBase := 0x1AA000
 label := [0x50,0x49,0x44,0x20,0x34]

def sampleSnapshot : MemorySnapshot where
 space := sampleSpace
 address := 0x1FFE
 bytes := [0xFE,0xFF,0,1,2]
 checksum := checksumOf [0xFE,0xFF,0,1,2]

lemma sampleSnapshot_captured : ∃ t,
 (capture sampleSpace 0x1FFE 5 4096).Exec t (.ok sampleSnapshot) ∧
  ∀e∈t,e.answer=sampleMemory e.call := by
 obtain ⟨t,ran,answered⟩:=exec_run sampleMemory (capture sampleSpace 0x1FFE 5 4096)
 have result:(capture sampleSpace 0x1FFE 5 4096).run sampleMemory=.ok sampleSnapshot:=by
  decide +kernel
 rw [result] at ran
 exact ⟨t,ran,answered⟩

lemma sampleSnapshot_obtained : Obtained sampleSnapshot := by
 obtain ⟨t,ran,-⟩:=sampleSnapshot_captured
 exact .captured _ _ _ _ t ran

/-- The sample is saved into an empty store, read back, and saved again as the same file. -/
theorem sampleSnapshot_saved :
 (∃ after,onStore (sampleSnapshot.save ⟨"","memory.snp"⟩ .none) {}=(.ok (),after) ∧
  (onStore load after).1=.ok sampleSnapshot ∧
  ∃ again,onStore (sampleSnapshot.save ⟨"","memory.snp"⟩ .none) {}=(.ok (),again) ∧
   again.file=after.file) := by
 have saved := save_onStore sampleSnapshot_obtained.wellFormed
  (show (⟨"","memory.snp"⟩ : SnapshotPath).filename ≠ "" by decide) {}
 have loaded := snapshot_file_bijective.1 _ sampleSnapshot_obtained _ _ _ _ saved
 exact ⟨_,saved,loaded,(snapshot_file_bijective.2 _ _ loaded ⟨"","memory.snp"⟩ {}).2
  (by decide)⟩

/-- The reads return what memory holds, however many bytes each returns. -/
def Shows (memory : UInt64→UInt8) (t : List SnapshotEvent) : Prop :=
 ∀ address length bytes,(⟨.read address length, .ok bytes⟩ : SnapshotEvent)∈t →
  bytes=bytesAt memory address bytes.length

lemma captureLoop_shown {memory:UInt64→UInt8} (address:UInt64) (size chunkSize:ℕ)
 (nonzero:0 < chunkSize) (offset:ℕ) (bytes:List UInt8) (within:offset ≤ size)
 (begun:bytes=bytesAt memory address offset) :
 (captureLoop address size chunkSize nonzero offset bytes).Ensures fun t r=>Shows memory t →
  ∀all,r=.ok all → all=bytesAt memory address size := by
 fun_induction captureLoop address size chunkSize nonzero offset bytes with
 | case1 offset bytes _ ih =>
  intro t r ran shown all ok
  obtain ⟨stop,u,rfl,hu⟩:=ran.of_ask
  cases stop with
  | true => cases hu.of_pure.2.symm.trans ok
  | false =>
   obtain ⟨answer,v,rfl,hv⟩:=hu.of_ask
   cases answer with
   | error => cases hv.of_pure.2.symm.trans ok
   | ok chunk =>
    rcases hv.of_guard with ⟨-,-,failed⟩|⟨full,rest⟩
    · cases failed.symm.trans ok
    obtain ⟨_,w,rfl,hw⟩:=rest.of_ask
    refine ih chunk full (by omega) ?_ w r hw
     (fun _ _ _ mem=>shown _ _ _ (.tail _ (.tail _ (.tail _ mem)))) all ok
    have read:=shown _ _ chunk (.tail _ (.head _))
    rw [bytesAt_add,←begun,read,not_not.1 full]
 | case2 offset bytes ended =>
  refine ensures_pure fun _ _ ok => ?_
  cases ok
  rw [begun,show offset=size by omega]

/-- What `Capture` takes of memory that does not change is that memory, whatever the chunk size is,
 and `Load` gives it back from the file that `Save` then writes. -/
theorem capture_reloads_memory (space : SnapshotSpace) (address size : UInt64) (chunkSize : UInt32) :
 (capture space address size chunkSize).Ensures fun t r => ∀ memory,Shows memory t →
  ∀ snapshot,r=.ok snapshot → snapshot.bytes=bytesAt memory address size.toNat ∧
   ∀ path store,path.filename ≠ "" → ∃ after,
    onStore (snapshot.save path .none) store=(.ok (),after) ∧
     (onStore load after).1=.ok snapshot := by
 intro t r ran memory shown snapshot ok
 have formed:=captureWithReader_formed space address size chunkSize t r ran snapshot ok
 refine ⟨?_,fun path store named=>⟨_,save_onStore formed named store,
  load_encoded formed (save_ok_onStore formed (save_onStore formed named store))⟩⟩
 -- every exit before the last one is an error
 unfold capture captureWithReader at ran
 split at ran
 · cases ran.of_pure.2.symm.trans ok
 obtain ⟨stop,u,rfl,hu⟩ := ran.of_ask
 cases stop with
 | true => cases hu.of_pure.2.symm.trans ok
 | false =>
  obtain ⟨allocated,v,rfl,hv⟩ := hu.of_ask
  cases allocated with
  | badAlloc | lengthError => cases hv.of_pure.2.symm.trans ok
  | grown =>
   obtain ⟨_,w,rfl,hw⟩ := hv.of_ask
   obtain ⟨x,read,y,rfl,looped,hy⟩ := hw.of_bind
   cases read with
   | error => cases hy.of_pure.2.symm.trans ok
   | ok bytes =>
    obtain ⟨_,sum,_,rfl,-,hz⟩ := hy.of_bind
    cases sum with
    | error => cases hz.of_pure.2.symm.trans ok
    | ok =>
     cases hz.of_pure.2.symm.trans ok
     exact captureLoop_shown address size.toNat _ _ 0 [] (Nat.zero_le _) rfl x _ looped
      (fun _ _ _ mem=>shown _ _ _
       (.tail _ (.tail _ (.tail _ (List.mem_append_left _ mem))))) bytes rfl

theorem sampleSnapshot_reloaded :
 sampleSnapshot.bytes=bytesAt UInt64.toUInt8 0x1FFE 5 ∧
 ∃ after,onStore (sampleSnapshot.save ⟨"","memory.snp"⟩ .none) {}=(.ok (),after) ∧
  (onStore load after).1=.ok sampleSnapshot := by
 obtain ⟨t,ran,answered⟩ := sampleSnapshot_captured
 have shown : Shows UInt64.toUInt8 t := by
  intro address length bytes mem
  cases Except.ok.inj (answered _ mem)
  rw [length_bytesAt]
 obtain ⟨same,reloads⟩ := capture_reloads_memory _ _ _ _ t _ ran _ shown _ rfl
 exact ⟨same,reloads _ {} (by decide)⟩

end MemorySnapshot
end KDbg
