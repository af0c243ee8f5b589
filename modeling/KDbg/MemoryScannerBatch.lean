import KDbg.MemoryScannerExact
import KDbg.MemoryScannerNext
set_option autoImplicit false
/-!
A next scan that reads in batches against one that reads every candidate alone.
A batch spans all of its candidates and no more than a chunk, so whatever is read
of it whole holds the bytes of each of them.
-/
namespace KDbg
open Interaction

namespace MemoryScanner

section
variable {compiled:CompiledScanQuery} {batchEnd batchStart:UInt64}

structure Limits (compiled : CompiledScanQuery) : Prop where
 positive : 0 < compiled.width
 chunk : compiled.width ≤ compiled.query.chunkSize
 small : compiled.query.chunkSize ≤ kMaxChunkBytes
 room : 0 < compiled.query.maxResults

structure Spanned (width : ℕ) (batchStart batchEnd : UInt64) (candidate : ScanCandidate) :
 Prop where
 low : batchStart.toNat ≤ candidate.address.toNat
 high : candidate.address.toNat+width ≤ batchEnd.toNat

/-- The first candidate of a batch lies in it, and the batch in one chunk, unless the first
 candidate already ends past the last address; then nothing joins it. -/
def Extent (compiled : CompiledScanQuery) (batchStart batchEnd : UInt64) : Prop :=
 batchStart.toNat+compiled.width<2^64 →
  batchStart.toNat+compiled.width ≤ batchEnd.toNat ∧
   batchEnd.toNat ≤ batchStart.toNat+compiled.query.chunkSize

lemma toNat_max (a b:UInt64) : (max a b).toNat=max a.toNat b.toNat := by
 change (if a ≤ b then b else a).toNat=_
 split
 · rename_i le
   exact (max_eq_right (UInt64.le_iff_toNat_le.1 le)).symm
 · rename_i gt
   exact (max_eq_left (UInt64.lt_iff_toNat_lt.1 (UInt64.not_le.1 gt)).le).symm

lemma extent_first (limits:Limits compiled) (batchStart:UInt64) :
 Extent compiled batchStart (batchStart+UInt64.ofNat compiled.width) := by
 intro fits
 have chunk:=limits.chunk
 rw [UInt64.toNat_add,UInt64.toNat_ofNat_of_lt' (by change _<2^64;omega)]
 omega

lemma extendBatch_extent (limits:Limits compiled) (rest:List ScanCandidate) (size:ℕ)
 (extent:Extent compiled batchStart batchEnd) :
 let batch := extendBatch compiled batchStart rest size batchEnd
 size ≤ batch.1 ∧ batchEnd.toNat ≤ batch.2.toNat ∧ Extent compiled batchStart batch.2 ∧
  ∀candidate∈rest.take (batch.1-size),
   Spanned compiled.width batchStart batch.2 candidate := by
 have small:=limits.small
 have chunk:=limits.chunk
 have cap:kMaxChunkBytes<2^32:=by decide
 induction rest generalizing size batchEnd with
 | nil => exact ⟨le_rfl,le_rfl,extent,by simp⟩
 | cons candidate rest ih =>
  have stays : size ≤ size ∧ batchEnd.toNat ≤ batchEnd.toNat ∧
   Extent compiled batchStart batchEnd ∧ ∀other∈(candidate::rest).take (size-size),
    Spanned compiled.width batchStart batchEnd other :=
   ⟨le_rfl,le_rfl,extent,by simp⟩
  unfold extendBatch
  dsimp only
  split
  · exact stays
  · rename_i inside
    split
    · exact stays
    · rename_i near
      simp only [not_or,UInt64.not_lt,UInt64.le_iff_toNat_le] at inside near
      obtain ⟨low,fits⟩:=inside
      obtain ⟨span,-⟩:=near
      have width : (UInt64.ofNat compiled.width).toNat=compiled.width :=
       UInt64.toNat_ofNat_of_lt' (by change _<2^64;omega)
      rw [toNat_maxUInt64_sub] at fits
      have last:=candidate.address.toNat_lt
      have stop : (candidate.address+UInt64.ofNat compiled.width).toNat =
       candidate.address.toNat+compiled.width := by
       rw [UInt64.toNat_add,width,Nat.mod_eq_of_lt (by omega)]
      rw [UInt64.toNat_sub_of_le _ _ (UInt64.le_iff_toNat_le.2 (by omega)),
       UInt64.toNat_ofNat_of_lt' (by change _<2^64;omega)] at span
      obtain ⟨_,_⟩:=extent (by omega)
      have grown : Extent compiled batchStart
       (max batchEnd (candidate.address+UInt64.ofNat compiled.width)) := by
       intro _
       rw [toNat_max]
       omega
      obtain ⟨more,longer,kept,spanned⟩:=ih (size+1) grown
      rw [toNat_max] at longer
      refine ⟨by omega,by omega,kept,?_⟩
      obtain ⟨count,joined⟩:=Nat.exists_eq_add_of_le more
      rw [joined,Nat.add_assoc,Nat.add_sub_cancel_left,Nat.add_comm 1 count,
       List.take_succ_cons,List.forall_mem_cons]
      refine ⟨⟨low,by omega⟩,?_⟩
      rw [joined,Nat.add_sub_cancel_left] at spanned
      exact spanned

structure Held (width : ℕ) (batchStart : UInt64) (batchBytes : List UInt8)
 (candidate : ScanCandidate) : Prop where
 low : batchStart.toNat ≤ candidate.address.toNat
 high : candidate.address.toNat-batchStart.toNat+width ≤ batchBytes.length

lemma readBatch_exec {size:ℕ} {t:List ScanEvent} {batchBytes:List UInt8}
 (ran:(readBatch batchStart batchEnd size).Exec t batchBytes) (nonempty:batchBytes≠[]) :
 1 < size ∧ batchBytes.length=(batchEnd-batchStart).toUInt32.toNat ∧
  t=[⟨.read batchStart (batchEnd-batchStart).toUInt32, .ok batchBytes⟩] := by
 unfold readBatch at ran
 split at ran
 · rename_i several
   obtain ⟨answer,u,rfl,rest⟩:=ran.of_ask
   cases answer with
   | error =>
    obtain ⟨rfl,rfl⟩:=rest.of_pure
    exact absurd rfl nonempty
   | ok =>
    obtain ⟨rfl,rfl⟩:=rest.of_pure
    split at nonempty
    · rename_i whole
      rw [if_pos whole]
      exact ⟨several,whole,rfl⟩
    · exact absurd rfl nonempty
 · obtain ⟨rfl,rfl⟩:=ran.of_pure
   exact absurd rfl nonempty

end

section Batch
variable {compiled:CompiledScanQuery} {first:ScanCandidate} {rest:List ScanCandidate}
 {t:List ScanEvent} {batchBytes:List UInt8}

lemma batch_spanned (limits:Limits compiled) (several:1<(batchFrom compiled first rest).1) :
 (∀candidate∈first::rest.take ((batchFrom compiled first rest).1-1),
  Spanned compiled.width first.address (batchFrom compiled first rest).2 candidate) ∧
  (batchFrom compiled first rest).2.toNat ≤
   first.address.toNat+compiled.query.chunkSize := by
 obtain ⟨-,-,extent,spanned⟩ :=
  extendBatch_extent limits rest 1 (extent_first limits first.address)
 change ∀candidate∈rest.take ((batchFrom compiled first rest).1-1),
  Spanned compiled.width first.address (batchFrom compiled first rest).2 candidate at spanned
 cases rest with
 | nil => exact absurd several (lt_irrefl 1)
 | cons second rest =>
  have joined : second∈(second::rest).take
   ((batchFrom compiled first (second::rest)).1-1) := by
   obtain ⟨count,more⟩:=Nat.exists_eq_add_of_lt several
   rw [more,Nat.add_sub_cancel,Nat.add_comm 1 count]
   exact List.mem_cons_self
  obtain ⟨_,_⟩:=spanned second joined
  have last:=(batchFrom compiled first (second::rest)).2.toNat_lt
  obtain ⟨start,stop⟩:=extent (by omega)
  exact ⟨List.forall_mem_cons.2 ⟨⟨le_rfl,start⟩,spanned⟩,stop⟩

/-- Whatever a batch read has brought holds every candidate of the batch. -/
lemma batch_held (limits:Limits compiled)
 (ran:(readBatch first.address (batchFrom compiled first rest).2
  (batchFrom compiled first rest).1).Exec t batchBytes) (nonempty:batchBytes≠[]) :
 ∀candidate∈first::rest.take ((batchFrom compiled first rest).1-1),
  Held compiled.width first.address batchBytes candidate := by
 intro candidate mem
 obtain ⟨several,length,-⟩:=readBatch_exec ran nonempty
 obtain ⟨spanned,_⟩:=batch_spanned limits several
 obtain ⟨low,_⟩:=spanned candidate mem
 have small:=limits.small
 have cap:kMaxChunkBytes<2^32:=by decide
 refine ⟨low,?_⟩
 rw [length,UInt64.toNat_toUInt32,
  UInt64.toNat_sub_of_le _ _ (UInt64.le_iff_toNat_le.2 (by omega))]
 omega

end Batch

/-- A candidate together with what a read of its value was answered. -/
abbrev Reading := ScanCandidate×Result (List UInt8)

section Naive
variable (arithmetic:FloatingArithmetic) (compiled:CompiledScanQuery)

def naiveVisit (reading : Reading) (s : Scan) : Scan :=
 let read := separateValue compiled reading.2 (s.attempted compiled.width)
 match read.1 with
 | none => read.2
 | some current => acceptValue arithmetic compiled reading.1 current read.2

/-- The scan that reads one candidate after the other, until it has as many as it wants. -/
def naiveScan : List Reading→Scan→Scan
 | [],s => s
 | reading::rest,s =>
  let s := naiveVisit arithmetic compiled reading s
  if s.truncated then s else naiveScan rest s

def survivor (reading : Reading) : Option ScanCandidate :=
 match reading.2 with
 | .error _ => none
 | .ok bytes =>
  if bytes.length=compiled.width ∧
   matchNextValue arithmetic compiled reading.1.current bytes=true then
   some ⟨reading.1.address,reading.1.current,bytes⟩
  else none

end Naive

/-- A scan without what is only there to be displayed while it goes on. -/
def Scan.tally (s : Scan) : Scan :=
 { s with progress := { bytesScanned := s.progress.bytesScanned } }

section Tally
variable {arithmetic:FloatingArithmetic} {compiled:CompiledScanQuery}

lemma tally_separateValue (compiled:CompiledScanQuery) (answer:Result (List UInt8)) (s:Scan) :
 (separateValue compiled answer s.tally).1=(separateValue compiled answer s).1 ∧
  (separateValue compiled answer s.tally).2=(separateValue compiled answer s).2.tally := by
 cases answer with
 | error => exact ⟨rfl,rfl⟩
 | ok =>
  unfold separateValue
  dsimp only
  split <;> exact ⟨rfl,rfl⟩

lemma tally_acceptValue (candidate:ScanCandidate) (current:List UInt8) (s:Scan) :
 acceptValue arithmetic compiled candidate current s.tally =
  (acceptValue arithmetic compiled candidate current s).tally := by
 unfold acceptValue
 split <;> rfl

lemma naiveScan_append {readings more:List Reading} {s:Scan} (going:s.truncated=false) :
 naiveScan arithmetic compiled (readings++more) s =
  if (naiveScan arithmetic compiled readings s).truncated=true then
   naiveScan arithmetic compiled readings s
  else naiveScan arithmetic compiled more (naiveScan arithmetic compiled readings s) := by
 induction readings generalizing s with
 | nil =>
  rw [naiveScan,going]
  rfl
 | cons _ _ ih =>
  rw [List.cons_append,naiveScan,naiveScan]
  split
  · rfl
  · rename_i room
    exact ih (Bool.eq_false_iff.2 room)

lemma tally_attempted (s:Scan) (request:ℕ) :
 (s.attempted request).tally=s.tally.attempted request := rfl

lemma naiveVisit_tally (arithmetic:FloatingArithmetic) (compiled:CompiledScanQuery)
 (candidate:ScanCandidate) (answer:Result (List UInt8)) (s:Scan) :
 naiveVisit arithmetic compiled (candidate,answer) s.tally =
  match (separateValue compiled answer (s.attempted compiled.width)).1 with
  | none => (separateValue compiled answer (s.attempted compiled.width)).2.tally
  | some current => acceptValue arithmetic compiled candidate current
   (separateValue compiled answer (s.attempted compiled.width)).2.tally := by
 obtain ⟨value,scan⟩:=tally_separateValue compiled answer (s.attempted compiled.width)
 unfold naiveVisit
 dsimp only
 rw [←tally_attempted,value,scan]

/-- Memory that does not change: whatever is read whole is what is read of any part of it. -/
def Static (memory : ReadOracle) : Prop :=
 ∀ (address : UInt64) (length : UInt32) (bytes : List UInt8),
  memory address length=.ok bytes → bytes.length=length.toNat →
  ∀ (part : UInt64) (size : UInt32),address.toNat ≤ part.toNat →
   part.toNat+size.toNat ≤ address.toNat+length.toNat →
   memory part size=.ok ((bytes.drop (part.toNat-address.toNat)).take size.toNat)

def ownRead (compiled : CompiledScanQuery) (memory : ReadOracle) (candidate : ScanCandidate) :
 Result (List UInt8) :=
 memory candidate.address (UInt32.ofNat compiled.width)

/-- The candidates of a list were visited in their order, all of them unless the limit was reached,
 and the scan has come to what their readings make of it; each reading is what the memories of
 `Source` give for the candidate alone. -/
structure Visited (arithmetic : FloatingArithmetic) (compiled : CompiledScanQuery)
 (Source : ReadOracle→Prop) (candidates : List ScanCandidate) (s after : Scan)
 (readings : List Reading) : Prop where
 order : readings.map Prod.fst <+: candidates
 whole : after.truncated=false → readings.map Prod.fst=candidates
 tally : after.tally=naiveScan arithmetic compiled readings s.tally
 answers : ∀ memory,Source memory → ∀ reading∈readings,
  reading.2=ownRead compiled memory reading.1

namespace Visited
variable {Source Source':ReadOracle→Prop} {candidates more:List ScanCandidate}
 {s mid after:Scan} {readings later:List Reading}

lemma nil (s:Scan) : Visited arithmetic compiled Source [] s s [] :=
 ⟨List.prefix_rfl,fun _=>rfl,rfl,fun _ _ _ mem=>absurd mem List.not_mem_nil⟩

lemma mono (visited:Visited arithmetic compiled Source candidates s after readings)
 (sub:∀memory,Source' memory→Source memory) :
 Visited arithmetic compiled Source' candidates s after readings :=
 ⟨visited.order,visited.whole,visited.tally,
  fun memory source=>visited.answers memory (sub memory source)⟩

lemma full (visited:Visited arithmetic compiled Source candidates s after readings)
 (truncated:after.truncated=true) (more:List ScanCandidate) :
 Visited arithmetic compiled Source (candidates++more) s after readings :=
 ⟨visited.order.trans (List.prefix_append _ _),
  fun going=>absurd (going.symm.trans truncated) Bool.false_ne_true,visited.tally,
  visited.answers⟩

lemma append (going:s.truncated=false)
 (first:Visited arithmetic compiled Source candidates s mid readings)
 (room:mid.truncated=false)
 (second:Visited arithmetic compiled Source more mid after later) :
 Visited arithmetic compiled Source (candidates++more) s after (readings++later) := by
 have all:=first.whole room
 refine ⟨?_,fun open' => ?_,?_,fun memory source => ?_⟩
 · rw [List.map_append,all,List.prefix_append_right_inj]
   exact second.order
 · rw [List.map_append,all,second.whole open']
 · have unfilled:¬(naiveScan arithmetic compiled readings s.tally).truncated=true:=by
    rw [←first.tally]
    exact Bool.eq_false_iff.1 room
   rw [naiveScan_append (s := s.tally) going,if_neg unfilled,←first.tally,second.tally]
 · exact List.forall_mem_append.2 ⟨first.answers memory source,second.answers memory source⟩

lemma single {candidate:ScanCandidate} {answer:Result (List UInt8)}
 (tally:after.tally=naiveVisit arithmetic compiled (candidate,answer) s.tally)
 (answers:∀memory,Source memory → answer=ownRead compiled memory candidate) :
 Visited arithmetic compiled Source [candidate] s after [(candidate,answer)] := by
 refine ⟨List.prefix_rfl,fun _=>rfl,?_,fun memory source => ?_⟩
 · rw [tally]
   exact (ite_self _).symm
 · exact List.forall_mem_singleton.2 (answers memory source)

end Visited

section
variable {t u:List ScanEvent} {candidates:List ScanCandidate} {batchStart:UInt64}
 {batchBytes:List UInt8}

def Looped (arithmetic : FloatingArithmetic) (compiled : CompiledScanQuery)
 (Source : ReadOracle→Prop) (t : List ScanEvent) (candidates : List ScanCandidate)
 {α : Type} (r : Result α) (s after : Scan) : Prop :=
 (r.isOk=false ∧ (⟨.stopRequested,true⟩ : ScanEvent)∈t) ∨
  (r.isOk=true ∧
   ∃ readings,Visited arithmetic compiled Source candidates s after readings)

lemma Looped.prepend {Source Source':ReadOracle→Prop} {more:List ScanCandidate} {α:Type}
 {r:Result α} {s mid after:Scan} {readings:List Reading} (going:s.truncated=false)
 (first:Visited arithmetic compiled Source candidates s mid readings)
 (room:mid.truncated=false) (looped:Looped arithmetic compiled Source' u more r mid after)
 (part:u ⊆ t) (sub:∀memory,Source memory→Source' memory) :
 Looped arithmetic compiled Source t (candidates++more) r s after := by
 rcases looped with ⟨failed,stop⟩|⟨done,_,visited⟩
 · exact .inl ⟨failed,part stop⟩
 · exact .inr ⟨done,_,first.append going room (visited.mono sub)⟩

def batchValue (compiled : CompiledScanQuery) (batchStart : UInt64) (batchBytes : List UInt8)
 (candidate : ScanCandidate) : List UInt8 :=
 (batchBytes.drop (candidate.address-batchStart).toNat).take compiled.width

lemma Held.length_batchValue {candidate:ScanCandidate}
 (held:Held compiled.width batchStart batchBytes candidate) :
 (batchValue compiled batchStart batchBytes candidate).length=compiled.width := by
 obtain ⟨low,_⟩:=held
 rw [batchValue,List.length_take,List.length_drop,
  UInt64.toNat_sub_of_le _ _ (UInt64.le_iff_toNat_le.2 low)]
 omega

/-- The answers of a trace, and a batch that holds what its candidates' own reads would give. -/
structure BatchSource (compiled : CompiledScanQuery) (batchStart : UInt64)
 (batchBytes : List UInt8) (candidates : List ScanCandidate) (t : List ScanEvent)
 (memory : ReadOracle) : Prop where
 agrees : Agrees memory t
 batch : batchBytes≠[] → ∀ candidate∈candidates,
  ownRead compiled memory candidate=.ok (batchValue compiled batchStart batchBytes candidate)

lemma BatchSource.mono {fewer:List ScanCandidate} {memory:ReadOracle}
 (source:BatchSource compiled batchStart batchBytes candidates t memory)
 (sub:fewer ⊆ candidates) (part:u ⊆ t) :
 BatchSource compiled batchStart batchBytes fewer u memory :=
 ⟨source.agrees.mono part,fun nonempty candidate mem =>
  source.batch nonempty candidate (sub mem)⟩

end

lemma truncated_reporting (s:Scan) (report:ScanReadReport) :
 { s with report }.truncated=s.truncated := rfl

lemma separateValue_truncated (answer:Result (List UInt8)) (s:Scan) :
 (separateValue compiled answer s).2.truncated=s.truncated := by
 cases answer with
 | error => exact truncated_reporting s _
 | ok bytes =>
  unfold separateValue
  dsimp only
  split
  · exact (truncated_reporting (s.received bytes.length) _).trans (kept_received s _).truncated
  · rfl

section Loops
variable {batchStart nextReport:UInt64} {batchBytes:List UInt8} {t:List ScanEvent}
 {s after:Scan}

lemma reportDue_tally {next:UInt64} (ran:(reportDue nextReport s).Exec t (next,after)) :
 after.tally=s.tally ∧ after.truncated=s.truncated := by
 unfold reportDue at ran
 split at ran
 · obtain ⟨_,u,rfl,rest⟩:=ran.of_ask
   obtain ⟨rfl,-,rfl⟩:=rest.of_pure_prod
   exact ⟨rfl,rfl⟩
 · obtain ⟨rfl,-,rfl⟩:=ran.of_pure_prod
   exact ⟨rfl,rfl⟩

lemma currentValue_exec {candidate:ScanCandidate} {value:Option (List UInt8)}
 (held:batchBytes≠[]→Held compiled.width batchStart batchBytes candidate)
 (ran:(currentValue compiled batchStart batchBytes candidate s).Exec t (value,after)) :
 ∃ answer : Result (List UInt8),value=(separateValue compiled answer s).1 ∧
  after.tally=(separateValue compiled answer s).2.tally ∧
  ∀memory,BatchSource compiled batchStart batchBytes [candidate] t memory →
   answer=ownRead compiled memory candidate := by
 unfold currentValue at ran
 split at ran
 · rename_i nonempty
   obtain ⟨rfl,rfl,rfl⟩:=ran.of_pure_prod
   have whole:=(held nonempty).length_batchValue
   refine ⟨.ok (batchValue compiled batchStart batchBytes candidate),?_,?_,fun _ source =>
    (source.batch nonempty candidate List.mem_cons_self).symm⟩
   · rw [separateValue,if_neg (not_not.2 whole)]
     rfl
   · rw [separateValue,if_neg (not_not.2 whole)]
 · obtain ⟨answer,u,rfl,rest⟩:=ran.of_ask
   refine ⟨answer,?_⟩
   have own (memory:ReadOracle) (source:BatchSource compiled batchStart batchBytes [candidate]
    (⟨.read candidate.address (UInt32.ofNat compiled.width),answer⟩::u) memory) :
    answer=ownRead compiled memory candidate :=
    source.agrees _ _ _ List.mem_cons_self
   revert rest
   generalize separateValue compiled answer s=read
   intro rest
   obtain ⟨found,_⟩:=read
   cases found with
   | none =>
    obtain ⟨_,v,rfl,last⟩:=rest.of_ask
    obtain ⟨rfl,rfl,rfl⟩:=last.of_pure_prod
    exact ⟨rfl,rfl,own⟩
   | some =>
    obtain ⟨rfl,rfl,rfl⟩:=rest.of_pure_prod
    exact ⟨rfl,rfl,own⟩

lemma visitBatch_exec {candidates:List ScanCandidate} {r:Result UInt64}
 (held:batchBytes≠[] → ∀candidate∈candidates,
  Held compiled.width batchStart batchBytes candidate)
 (going:s.truncated=false)
 (ran:(visitBatch arithmetic compiled batchStart batchBytes candidates nextReport s).Exec t
  (r,after)) :
 Looped arithmetic compiled (BatchSource compiled batchStart batchBytes candidates t) t
  candidates r s after := by
 induction candidates generalizing nextReport s t with
 | nil =>
  obtain ⟨rfl,rfl,rfl⟩:=ran.of_pure_prod
  exact .inr ⟨rfl,[], .nil _⟩
 | cons candidate rest ih =>
  obtain ⟨stopped,u,rfl,body⟩:=ran.of_ask
  cases stopped with
  | true =>
   obtain ⟨rfl,rfl,rfl⟩:=body.of_pure_prod
   exact .inl ⟨rfl,List.mem_cons_self⟩
  | false =>
   obtain ⟨v,⟨_,mid⟩,w,rfl,reading,loop⟩:=body.of_bind
   obtain ⟨answer,rfl,tally,own⟩:=currentValue_exec
    (fun nonempty=>held nonempty candidate List.mem_cons_self) reading
   -- the visit of the candidate, and whatever follows it
   have single {stepped:Scan}
    (step:stepped.tally=naiveVisit arithmetic compiled (candidate,answer) s.tally) :
    Visited arithmetic compiled (BatchSource compiled batchStart batchBytes
     (candidate::rest) (⟨.stopRequested,false⟩::(v++w))) [candidate] s stepped
     [(candidate,answer)] :=
    .single step fun memory source=>own memory (source.mono (by simp)
     fun e mem=>List.mem_cons_of_mem _ (List.mem_append_left w mem))
   have onward {stepped:Scan} {next:UInt64} {x:List ScanEvent}
    (step:stepped.tally=naiveVisit arithmetic compiled (candidate,answer) s.tally)
    (room:stepped.truncated=false) (suffix:x ⊆ w)
    (loop:(visitBatch arithmetic compiled batchStart batchBytes rest next stepped).Exec x
     (r,after)) :
    Looped arithmetic compiled (BatchSource compiled batchStart batchBytes
     (candidate::rest) (⟨.stopRequested,false⟩::(v++w)))
     (⟨.stopRequested,false⟩::(v++w)) (candidate::rest) r s after := by
    have part : x ⊆ (⟨.stopRequested,false⟩ : ScanEvent)::(v++w) :=
     fun e mem=>List.mem_cons_of_mem _ (List.mem_append_right v (suffix mem))
    have looped:=ih
     (fun nonempty other mem=>held nonempty other (List.mem_cons_of_mem _ mem)) room loop
    exact looped.prepend going (single step) room part fun _ source =>
     source.mono (List.subset_cons_self _ _) part
   have counted:mid.truncated=false:=by
    have same:=congrArg Scan.truncated tally
    exact same.trans ((separateValue_truncated answer _).trans going)
   have visit:=naiveVisit_tally arithmetic compiled candidate answer s
   revert visit loop
   cases (separateValue compiled answer (s.attempted compiled.width)).1 with
   | none =>
    intro loop visit
    exact onward (tally.trans visit.symm) counted (List.Subset.refl w) loop
   | some current =>
    intro loop visit
    have step : (acceptValue arithmetic compiled candidate current mid).tally =
     naiveVisit arithmetic compiled (candidate,answer) s.tally := by
     rw [visit,←tally_acceptValue,tally]
    revert loop
    dsimp only
    split
    · rename_i full
      intro loop
      obtain ⟨rfl,rfl,rfl⟩:=loop.of_pure_prod
      exact .inr ⟨rfl,_,(single step).full full rest⟩
    · rename_i room
      intro loop
      obtain ⟨x,⟨_,_⟩,y,rfl,report,again⟩:=loop.of_bind
      obtain ⟨same,still⟩:=reportDue_tally report
      exact onward (same.trans step) (still.trans (Bool.eq_false_iff.2 room))
       (List.subset_append_right x y) again

/-- In static memory, a batch that came whole holds what its candidates' own reads would give. -/
lemma batch_static {first:ScanCandidate} {rest:List ScanCandidate} (limits:Limits compiled)
 (ran:(readBatch first.address (batchFrom compiled first rest).2
  (batchFrom compiled first rest).1).Exec t batchBytes) (nonempty:batchBytes≠[])
 {memory:ReadOracle} (static:Static memory) (agrees:Agrees memory t) :
 ∀candidate∈first::rest.take ((batchFrom compiled first rest).1-1),
  ownRead compiled memory candidate =
   .ok (batchValue compiled first.address batchBytes candidate) := by
 intro candidate mem
 obtain ⟨low,_⟩:=batch_held limits ran nonempty candidate mem
 obtain ⟨-,length,rfl⟩:=readBatch_exec ran nonempty
 have small:=limits.small
 have chunk:=limits.chunk
 have cap:kMaxChunkBytes<2^32:=by decide
 have width : (UInt32.ofNat compiled.width).toNat=compiled.width :=
  UInt32.toNat_ofNat_of_lt' (by change _<2^32;omega)
 have whole:=(agrees _ _ _ List.mem_cons_self).symm
 have part:=static _ _ _ whole length candidate.address (UInt32.ofNat compiled.width) low (by omega)
 rw [width] at part
 rw [ownRead,part,batchValue,UInt64.toNat_sub_of_le _ _ (UInt64.le_iff_toNat_le.2 low)]

lemma scanBatches_exec (limits:Limits compiled) {candidates:List ScanCandidate}
 {r:Result Unit} (going:s.truncated=false)
 (ran:(scanBatches arithmetic compiled candidates nextReport s).Exec t (r,after)) :
 Looped arithmetic compiled (fun memory=>Static memory ∧ Agrees memory t) t candidates r s
  after := by
 induction size : candidates.length using Nat.strong_induction_on generalizing candidates nextReport
  s t with
 | _ n ih =>
 cases candidates with
 | nil =>
  rw [scanBatches] at ran
  obtain ⟨rfl,rfl,rfl⟩:=ran.of_pure_prod
  exact .inr ⟨rfl,[], .nil _⟩
 | cons first rest =>
  rw [scanBatches] at ran
  obtain ⟨stopped,u,rfl,body⟩:=ran.of_ask
  cases stopped with
  | true =>
   obtain ⟨rfl,rfl,rfl⟩:=body.of_pure_prod
   exact .inl ⟨rfl,List.mem_cons_self⟩
  | false =>
   obtain ⟨v,_,w,rfl,reading,loop⟩:=body.of_bind
   obtain ⟨x,⟨visit,mid⟩,y,rfl,visiting,last⟩:=loop.of_bind
   -- where the parts of the trace are
   have batchPart : v ⊆ (⟨.stopRequested,false⟩ : ScanEvent)::(v++(x++y)) :=
    fun e mem=>List.mem_cons_of_mem _ (List.mem_append_left _ mem)
   have visitPart : x ⊆ (⟨.stopRequested,false⟩ : ScanEvent)::(v++(x++y)) :=
    fun e mem=>List.mem_cons_of_mem _ (List.mem_append_right _ (List.mem_append_left _ mem))
   have lastPart : y ⊆ (⟨.stopRequested,false⟩ : ScanEvent)::(v++(x++y)) :=
    fun e mem=>List.mem_cons_of_mem _ (List.mem_append_right _ (List.mem_append_right _ mem))
   rcases visitBatch_exec (batch_held limits reading) going visiting with
    ⟨failed,stop⟩ | ⟨done,readings,visited⟩
   · cases visit with
     | ok => cases failed
     | error =>
      obtain ⟨rfl,rfl,rfl⟩:=last.of_pure_prod
      exact .inl ⟨rfl,visitPart stop⟩
   · cases visit with
     | error => cases done
     | ok =>
      have batch : Visited arithmetic compiled (fun memory=>Static memory ∧
       Agrees memory (⟨.stopRequested,false⟩::(v++(x++y)))) _ s mid readings :=
       visited.mono fun _ source=>⟨source.2.mono visitPart,fun nonempty =>
        batch_static limits reading nonempty source.1 (source.2.mono batchPart)⟩
      have all : (first::rest.take ((batchFrom compiled first rest).1-1)) ++
       rest.drop ((batchFrom compiled first rest).1-1)=first::rest := by
       rw [List.cons_append,List.take_append_drop]
      rw [←all]
      dsimp only at last
      split at last
      · rename_i full
        obtain ⟨rfl,rfl,rfl⟩:=last.of_pure_prod
        exact .inr ⟨rfl,_,batch.full full _⟩
      · rename_i room
        have room:=Bool.eq_false_iff.2 room
        have shorter:(rest.drop ((batchFrom compiled first rest).1-1)).length < n:=by
         rw [←size,List.length_drop,List.length_cons]
         omega
        exact (ih _ shorter room last rfl).prepend going batch room lastPart
         fun _ source=>⟨source.1,source.2.mono lastPart⟩

end Loops

lemma acceptValue_collected {candidate:ScanCandidate} {current:List UInt8} {s:Scan}
 (opened:Open compiled.query.maxResults s) :
 Collected compiled.query.maxResults s (acceptValue arithmetic compiled candidate current s)
  (if matchNextValue arithmetic compiled candidate.current current=true then
   [⟨candidate.address,candidate.current,current⟩] else []) := by
 have kept:=(kept_received s compiled.width).trans (kept_completed _)
 have room:=opened.room
 unfold acceptValue
 cases matchNextValue arithmetic compiled candidate.current current with
 | false => exact .none opened kept.output kept.truncated
 | true =>
  rw [if_pos rfl]
  refine ⟨?_,?_⟩
  · change (s.received compiled.width).completed.output++_=_
    rw [kept.output,List.take_of_length_le]
    rw [List.length_append,List.length_singleton]
    omega
  · change ((s.received compiled.width).completed.truncated || decide (_ ≤ List.length
     ((s.received compiled.width).completed.output++_)))=_
    rw [kept.output,kept.truncated,opened.truncated,Bool.false_or]

lemma naiveVisit_collected {reading:Reading} {s:Scan}
 (opened:Open compiled.query.maxResults s) :
 Collected compiled.query.maxResults s (naiveVisit arithmetic compiled reading s)
  (survivor arithmetic compiled reading).toList := by
 obtain ⟨candidate,answer⟩:=reading
 have attempted:=opened.kept (kept_attempted s compiled.width)
 cases answer with
 | error => exact .none opened rfl (truncated_reporting s _)
 | ok bytes =>
  by_cases whole:bytes.length=compiled.width
  · have read : separateValue compiled (.ok bytes) (s.attempted compiled.width) =
     (some bytes,s.attempted compiled.width) := if_neg (not_not.2 whole)
    have found : (survivor arithmetic compiled (candidate, .ok bytes)).toList =
     if matchNextValue arithmetic compiled candidate.current bytes=true then
      [⟨candidate.address,candidate.current,bytes⟩] else [] := by
     simp only [survivor,whole,true_and]
     split <;> rfl
    rw [naiveVisit,read,found]
    exact (acceptValue_collected attempted).congr rfl rfl rfl
  · have read : separateValue compiled (.ok bytes) (s.attempted compiled.width) =
     (none,((s.attempted compiled.width).received bytes.length).shortRead
      (nextShortReadError compiled.width bytes.length)) := if_pos whole
    have found:(survivor arithmetic compiled (candidate, .ok bytes)).toList=[]:=by
     simp only [survivor,whole,false_and,if_false,Option.toList_none]
    have kept:=(kept_attempted s compiled.width).trans (kept_received _ bytes.length)
    rw [naiveVisit,read,found]
    exact .none opened kept.output ((truncated_reporting _ _).trans kept.truncated)

lemma naiveScan_collected (arithmetic:FloatingArithmetic) (readings:List Reading) {s:Scan}
 (opened:Open compiled.query.maxResults s) :
 Collected compiled.query.maxResults s (naiveScan arithmetic compiled readings s)
  (readings.filterMap (survivor arithmetic compiled)) := by
 induction readings generalizing s with
 | nil => exact .none opened rfl rfl
 | cons reading readings ih =>
  have first : Collected compiled.query.maxResults s (naiveVisit arithmetic compiled reading s)
   (survivor arithmetic compiled reading).toList := naiveVisit_collected opened
  have split : (reading::readings).filterMap (survivor arithmetic compiled) =
   (survivor arithmetic compiled reading).toList ++
    readings.filterMap (survivor arithmetic compiled) := by
   rw [List.filterMap_cons]
   cases survivor arithmetic compiled reading <;> rfl
  rw [split,naiveScan]
  split
  · rename_i full
    exact first.append full _
  · rename_i room
    have room:=Bool.eq_false_iff.2 room
    exact first.trans room (ih (first.opened room))

/-- The visits of a loop are those of the scan that reads every candidate alone. -/
lemma Visited.naive {Source:ReadOracle→Prop} {candidates:List ScanCandidate}
 {s after:Scan} {readings:List Reading}
 (visited:Visited arithmetic compiled Source candidates s after readings)
 (going:s.truncated=false) {memory:ReadOracle} (source:Source memory) :
 after.tally=naiveScan arithmetic compiled
  (candidates.map fun candidate=>(candidate,ownRead compiled memory candidate)) s.tally := by
 have own : (readings.map Prod.fst).map
  (fun candidate=>(candidate,ownRead compiled memory candidate))=readings := by
  rw [List.map_map]
  refine (List.map_congr_left fun reading mem => ?_).trans (List.map_id readings)
  exact Prod.ext rfl (visited.answers memory source reading mem).symm
 obtain ⟨more,all⟩:=visited.order
 rw [←all,List.map_append,own,naiveScan_append (s := s.tally) going,←visited.tally]
 split
 · rfl
 · rename_i room
   have none:more=[]:=by
    rw [visited.whole (Bool.eq_false_iff.2 room)] at all
    exact List.append_right_eq_self.1 all
   rw [none]
   rfl

end Tally

section Next

lemma chunkSize_le {query:ScanQuery} (limits:validateQueryLimits query=.ok ()) :
 query.chunkSize ≤ kMaxChunkBytes := by
 unfold validateQueryLimits at limits
 split at limits
 · cases limits
 · split at limits
   · cases limits
   · omega

variable {compiled:CompiledScanQuery}

lemma width_le (fits:validateCompiledLimits compiled=.ok ()) :
 compiled.width ≤ kMaxValueWidth := by
 unfold validateCompiledLimits at fits
 split at fits
 · cases fits
 · omega

lemma limits_of_compiled {library:FloatingText} {query:ScanQuery}
 (limits:validateQueryLimits query=.ok ())
 (accepted:compileScanQuery library query=.ok compiled)
 (fits:validateCompiledLimits compiled=.ok ()) : Limits compiled := by
 have chunk:=chunkSize_le limits
 have width:=width_le fits
 have cap:max kMaxValueWidth 4096 ≤ kMaxChunkBytes:=by decide
 refine ⟨width_pos fits,?_,?_,?_⟩
 · obtain ⟨_,-,rfl⟩:=compileScanQuery_ok accepted
   dsimp only
   split <;> omega
 · obtain ⟨_,-,rfl⟩:=compileScanQuery_ok accepted
   dsimp only at width ⊢
   split <;> omega
 · rw [maxResults_compiled accepted]
   exact maxResults_pos limits

variable {scanner:MemoryScanner}

lemma compileNext_ok {library:FloatingText} {query:ScanQuery}
 (compiles:compileNext library query scanner=.ok compiled) :
 Limits compiled ∧ compiled.width=scanner.activeQuery.width ∧
  compiled.query.maxResults=query.maxResults := by
 obtain ⟨_,limits,compiles⟩:=Fallible.exists_of_bind compiles
 obtain ⟨_,ok,compiles⟩:=Fallible.exists_of_bind compiles
 obtain ⟨_,fits,compiles⟩:=Fallible.exists_of_bind compiles
 split at compiles
 · cases compiles
 · rename_i same
   cases compiles
   exact ⟨limits_of_compiled limits ok fits,not_not.1 (not_or.1 same).1,maxResults_compiled ok⟩

inductive NextScanExit (library:FloatingText) (arithmetic:FloatingArithmetic)
 (query:ScanQuery) (scanner:MemoryScanner) (t:List ScanEvent) :
 Result ScanSummary×MemoryScanner→Prop where
 | refused (error:Error) (cause:scanner.hasScan=false ∨
  (⟨.isOpen,false⟩ : ScanEvent)∈t ∨ compileNext library query scanner=.error error) :
  NextScanExit library arithmetic query scanner t
   (.error error,{ scanner with lastReadReport := {} })
 | cancelled (error:Error) (report:ScanReadReport)
  (stop:(⟨.stopRequested,true⟩ : ScanEvent)∈t) :
  NextScanExit library arithmetic query scanner t
   (.error error,{ scanner with lastReadReport := report })
 | narrowed {compiled:CompiledScanQuery} {s:Scan} {readings:List Reading}
  (compiles:compileNext library query scanner=.ok compiled)
  (visited:Visited arithmetic compiled (fun memory=>Static memory ∧ Agrees memory t)
   scanner.candidates { progress := nextProgress compiled scanner.candidates.length } s
   readings) :
  NextScanExit library arithmetic query scanner t
   (.ok (summarize s),scanner.narrow compiled s)

lemma nextScan_exit {library:FloatingText} {arithmetic:FloatingArithmetic} {query:ScanQuery}
 {t:List ScanEvent} {out:Result ScanSummary×MemoryScanner}
 (ran:(nextScan library arithmetic query scanner).Exec t out) :
 NextScanExit library arithmetic query scanner t out := by
 unfold nextScan at ran
 dsimp only at ran
 split at ran
 · rename_i unscanned
   obtain ⟨rfl,rfl⟩:=ran.of_pure
   exact .refused _ (.inl (by simpa using unscanned))
 · obtain ⟨opened,u,rfl,body⟩:=ran.of_ask
   cases opened with
   | false =>
    obtain ⟨rfl,rfl⟩:=body.of_pure
    exact .refused _ (.inr (.inl List.mem_cons_self))
   | true =>
    simp only [Bool.not_true,Bool.false_eq_true,if_false] at body
    split at body
    · rename_i compiles
      obtain ⟨rfl,rfl⟩:=body.of_pure
      exact .refused _ (.inr (.inr compiles))
    · rename_i compiled compiles
      obtain ⟨told,v,rfl,scan⟩:=body.of_ask
      obtain ⟨w,⟨r,s⟩,x,rfl,loop,last⟩:=scan.of_bind
      have part : w ⊆ (⟨.isOpen,true⟩ : ScanEvent)::⟨.progress
       (nextProgress compiled scanner.candidates.length),told⟩::(w++x) :=
       fun e mem=>List.mem_cons_of_mem _ (List.mem_cons_of_mem _ (List.mem_append_left x mem))
      rcases scanBatches_exec (compileNext_ok compiles).1 rfl loop with
       ⟨failed,stop⟩ | ⟨done,_,visited⟩
      · cases r with
        | ok => cases failed
        | error error =>
         obtain ⟨rfl,rfl⟩:=last.of_pure
         exact .cancelled error _ (part stop)
      · cases r with
        | error => cases done
        | ok =>
         obtain ⟨_,y,rfl,finish⟩:=last.of_ask
         obtain ⟨rfl,rfl⟩:=finish.of_pure
         exact .narrowed compiles (visited.mono fun _ source =>
          ⟨source.1,source.2.mono part⟩)

/-- A next scan keeps, reports and counts what a scan does that reads the value of every candidate
 alone. -/
theorem nextScan_naive {library : FloatingText} {arithmetic : FloatingArithmetic}
 {query : ScanQuery} {scanner after : MemoryScanner} {t : List ScanEvent}
 {r : Result ScanSummary} {memory : ReadOracle} (static : Static memory)
 (ran : (nextScan library arithmetic query scanner).Exec t (r,after))
 (agrees : Agrees memory t) :
 (∀ compiled,scanner.hasScan=true → compileNext library query scanner=.ok compiled →
  (⟨.isOpen,false⟩ : ScanEvent) ∉ t→(⟨.stopRequested,true⟩ : ScanEvent) ∉ t →
  r.isOk=true) ∧
 ∀ summary,r=.ok summary → ∃ compiled,
  compileNext library query scanner=.ok compiled ∧
  let readings := scanner.candidates.map fun candidate =>
   (candidate,ownRead compiled memory candidate)
  let naive := naiveScan arithmetic compiled readings {}
  after.candidates=naive.output ∧ after.lastReadReport=naive.report ∧
   summary=summarize naive ∧
   after.candidates =
    (readings.filterMap (survivor arithmetic compiled)).take query.maxResults := by
 generalize out : (r,after)=result at ran
 cases nextScan_exit ran with
 | refused _ cause =>
  cases out
  refine ⟨fun _ scanned compiles opened _ => ?_,fun _ ok=>nomatch ok⟩
  rcases cause with none | closed | rejected
  · cases scanned.symm.trans none
  · exact absurd closed opened
  · cases compiles.symm.trans rejected
 | cancelled _ _ stop =>
  cases out
  exact ⟨fun _ _ _ _ going=>absurd stop going,
   fun _ ok=>nomatch ok⟩
 | @narrowed compiled s _ compiles visited =>
  cases out
  refine ⟨fun _ _ _ _ _=>rfl,fun _ ok=>⟨compiled,compiles,?_⟩⟩
  cases ok
  obtain ⟨limits,-,max⟩ := compileNext_ok compiles
  have naive := visited.naive rfl ⟨static,agrees⟩
  change s.tally=naiveScan arithmetic compiled _ {} at naive
  have kept := naiveScan_collected arithmetic (scanner.candidates.map fun candidate =>
   (candidate,ownRead compiled memory candidate)) (s := {}) ⟨rfl,limits.room⟩
  rw [max,← naive] at kept
  dsimp only
  rw [← naive]
  exact ⟨rfl,rfl,rfl,kept.output⟩

/-- Memory that holds its contents is static. -/
lemma static_contentOracle (content:UInt64→UInt8) : Static (contentOracle content) := by
 intro address _ _ whole _ part _ low _
 cases whole
 obtain ⟨offset,place⟩:=Nat.exists_eq_add_of_le low
 have moved:part=address+UInt64.ofNat offset:=by
  rw [←UInt64.toNat_inj,UInt64.toNat_add,UInt64.toNat_ofNat',Nat.add_mod_mod,←place,
   Nat.mod_eq_of_lt part.toNat_lt]
 rw [place,Nat.add_sub_cancel_left,take_drop_bytesAt _ _ (by omega),←moved]
 rfl

end Next

def sampleCompiled : CompiledScanQuery where
 query := sampleQuery
 width := 2
 first := [7,0]

/-- What the first scan of the sample leaves. -/
def samplePair : MemoryScanner where
 candidates := [⟨0x1001,[7,0],[7,0]⟩,⟨0x2001,[7,0],[7,0]⟩]
 activeQuery := sampleCompiled
 hasScan := true

/-- The second value has become nine. -/
def sampleLater (address : UInt64) : UInt8 :=
 if address=0x1001 then 7 else if address=0x2001 then 9 else 0

theorem samplePair_narrowed :
 ∃ t summary after,(nextScan sampleLibrary sampleArithmetic
  { sampleQuery with comparison := .changed } samplePair).Exec t (.ok summary,after) ∧
  after.candidates=[⟨0x2001,[7,0],[9,0]⟩] ∧ after.lastReadReport.itemsCompleted=2 := by
 obtain ⟨t,ran,answered⟩ := Prog.exec_run (sampleProcess sampleLater false)
  (nextScan sampleLibrary sampleArithmetic { sampleQuery with comparison := .changed } samplePair)
 generalize Prog.run _ _=out at ran
 obtain ⟨r,after⟩ := out
 have agrees : Agrees (contentOracle sampleLater) t := fun _ _ _ mem=>answered _ mem
 obtain ⟨succeeds,exact⟩ := nextScan_naive (static_contentOracle sampleLater) ran agrees
 have ok := succeeds _ rfl rfl (fun mem=>nomatch answered _ mem) fun mem =>
  nomatch answered _ mem
 cases r with
 | error => cases ok
 | ok summary =>
  obtain ⟨_,compiles,-,report,-,kept⟩ := exact summary rfl
  cases compiles
  exact ⟨t,summary,after,ran,kept,congrArg ScanReadReport.itemsCompleted report⟩

end MemoryScanner
end KDbg
