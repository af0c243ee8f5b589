import KDbg.AddressListFile
import KDbg.InteractionRuns
set_option autoImplicit false
/-! Every operation of an address list leaves entries that pass the checks of the list, under
distinct ids below the next one. -/
namespace KDbg
open Interaction TextStream Prog

namespace AddressList

variable {entry:AddressEntry}

section
variable {bytes:List UInt8} {r:Result UInt64×AddressEntry}

/-- Only the memory of a process is named by a process. -/
def SpaceValid (space : MemorySpace) : Prop := space.kind=.processVirtual ↔ space.pid≠0

lemma validateSpace_eq_ok {space:MemorySpace} {context:String} :
 validateSpace space context=.ok () ↔ SpaceValid space := by
 cases kind:space.kind <;> simp [validateSpace,SpaceValid,kind]

structure PointerValid (named : MemorySpace) (path : AddressPointerPath) : Prop where
 space : SpaceValid path.space
 size : path.pointerSize=4 ∨ path.pointerSize=8
 base : path.baseAddress≠0
 depth : path.offsets.length ≤ PointerResolver.kMaxDepth
 kind : path.space.kind=named.kind
 pid : path.space.pid=named.pid

lemma validatePointer_eq_ok {path:AddressPointerPath}
 {context:String} :
 validatePointer entry path context=.ok () ↔ PointerValid entry.space path := by
 simp only [validatePointer,Result.seq_eq_ok,Result.check_eq_ok,validateSpace_eq_ok,not_and_or,
  not_or,not_not,not_lt]
 constructor
 · rintro ⟨space,size,base,depth,kind,pid⟩
   exact ⟨space,size,base,depth,kind,pid⟩
 · rintro ⟨space,size,base,depth,kind,pid⟩
   exact ⟨space,size,base,depth,kind,pid⟩

/-- The parts of an entry that no operation changes once it is in the list. -/
structure ShapeValid (entry : AddressEntry) : Prop where
 space : SpaceValid entry.space
 address : entry.address≠0
 inside : entry.address ≤ maxUInt64-entry.width
 width : entry.width≠0
 bounded : entry.width.toNat ≤ kMaxValueWidth
 fixed : fixedValueWidth entry.type≠0 → entry.width.toNat=fixedValueWidth entry.type
 even : entry.type=.utf16 → entry.width &&& 1=0
 description : entry.description.length ≤ kMaxDescriptionBytes
 unreturned : 0x0D ∉ entry.description
 unbroken : 0x0A ∉ entry.description
 pointer : ∀ path∈entry.pointerPath,PointerValid entry.space path

structure Valid (entry : AddressEntry) : Prop extends ShapeValid entry where
 current : entry.currentValue≠[] → entry.currentValue.length=entry.width.toNat
 frozen : entry.frozen=true → entry.freezeValue.length=entry.width.toNat
 unfrozen : entry.frozen=false → entry.freezeValue=[]

lemma validateEntry_eq_ok {context:String} :
 validateEntry entry context=.ok () ↔ Valid entry := by
 unfold validateEntry
 rw [Result.seq_eq_ok,Result.seq_eq_ok,Result.seq_eq_ok,Result.seq_eq_ok,Result.seq_eq_ok]
 simp only [Result.check_eq_ok,validateSpace_eq_ok,not_or,not_and,not_not,not_lt,
  UInt64.not_lt,ne_eq]
 constructor
 · rintro ⟨space,⟨address,inside,width,bounded⟩,⟨fixed,even⟩,
    ⟨description,unreturned,unbroken⟩,⟨current,frozen,unfrozen⟩,path⟩
   refine ⟨⟨space,address,inside,width,bounded,fixed,even,description,unreturned,unbroken,
    fun p held => ?_⟩,current,frozen,unfrozen⟩
   rw [Option.mem_def.1 held] at path
   exact validatePointer_eq_ok.1 path
 · intro valid
   refine ⟨valid.space,⟨valid.address,valid.inside,valid.width,valid.bounded⟩,
    ⟨valid.fixed,valid.even⟩,⟨valid.description,valid.unreturned,valid.unbroken⟩,
    ⟨valid.current,valid.frozen,valid.unfrozen⟩,?_⟩
   cases held:entry.pointerPath with
   | none => rfl
   | some p => exact validatePointer_eq_ok.2 (valid.pointer p held)

structure Kept (entry entry' : AddressEntry) : Prop where
 id : entry'.id=entry.id
 valid : Valid entry→Valid entry'

lemma Kept.refl (entry:AddressEntry) : Kept entry entry := ⟨rfl,fun valid=>valid⟩

lemma Kept.trans {entry entry' entry'':AddressEntry} (h:Kept entry entry')
 (h':Kept entry' entry'') : Kept entry entry'' :=
 ⟨h'.id.trans h.id,fun valid=>h'.valid (h.valid valid)⟩

lemma kept_failed (entry:AddressEntry) (error:Error) : Kept entry (entry.failed error) :=
 ⟨rfl,fun valid=>{ valid with }⟩

lemma Kept.failed {entry entry':AddressEntry} {error:Error} (kept:Kept entry entry') :
 Kept entry (entry'.failed error) :=
 kept.trans (kept_failed _ _)

lemma kept_resolved (entry:AddressEntry) (address:UInt64) :
 Kept entry { entry with resolvedAddress := address } :=
 ⟨rfl,fun valid=>{ valid with }⟩

lemma kept_read (entry:AddressEntry) (error:Option Error)
 (length:bytes.length=entry.width.toNat) :
 Kept entry { entry with currentValue := bytes,lastError := error } :=
 ⟨rfl,fun valid=>{ valid with
  current := fun _=>length }⟩

lemma kept_frozen (entry:AddressEntry) (length:bytes.length=entry.width.toNat) :
 Kept entry { entry with freezeValue := bytes,frozen := true } :=
 ⟨rfl,fun valid=>{ valid with
  frozen := fun _=>length
  unfrozen := fun off=>(nomatch off) }⟩

lemma kept_thawed (entry:AddressEntry) :
 Kept entry { entry with frozen := false,freezeValue := [] } :=
 ⟨rfl,fun valid=>{ valid with
  frozen := fun on=>(nomatch on)
  unfrozen := fun _=>rfl }⟩

/-- Resolving an entry notes the address that it gives, and nothing else. -/
structure Resolved (entry : AddressEntry) (r : Result UInt64×AddressEntry) : Prop where
 entry : r.2={ entry with resolvedAddress := r.2.resolvedAddress }
 address : ∀ address,r.1=.ok address → r.2.resolvedAddress=address

lemma Resolved.kept (h:Resolved entry r) : Kept entry r.2 := by
 rw [h.entry]
 exact kept_resolved entry _

lemma Resolved.width (h:Resolved entry r) :
 r.2.width=entry.width := by rw [h.entry]

end

lemma resolveAddress_resolved (entry:AddressEntry) :
 (resolveAddress entry).Ensures fun _ r=>Resolved entry r := by
 unfold resolveAddress
 split
 · exact ensures_pure ⟨rfl,fun _ same=>by cases same;rfl⟩
 · rename_i path named
   have any:(PointerResolver.resolve path).Ensures fun _ _=>True:=fun _ _ _=>trivial
   refine ensures_bind any fun _ r _ => ?_
   cases r with
   | error => exact ensures_pure ⟨rfl,fun _ same=>(nomatch same)⟩
   | ok => exact ensures_pure ⟨rfl,fun _ same=>by cases same;rfl⟩

lemma any_answer {α:Type} (p:BackendM α) : p.Ensures fun _ _=>True := fun _ _ _=>trivial

lemma write_readback (token:VerifiedWriteArmToken) (space:MemorySpace) (address:UInt64)
 (data:List UInt8) (expected:Option (List UInt8)) :
 (VerifiedWriter.write token space address data expected).Ensures
  fun _ r => ∀result,r=.ok result → result.readback=data := by
 intro t r ran _ same
 cases VerifiedWriter.write_exit ran with
 | verified => cases same;rfl
 | rejected | unread | refused | failed | unverified => cases same

lemma refreshEntry_kept (entry:AddressEntry) :
 (refreshEntry entry).Ensures fun _ r=>Kept entry r.1 := by
 have reset : Kept entry { entry with lastError := none } :=
  ⟨rfl,fun valid=>{ valid with }⟩
 unfold refreshEntry
 dsimp only
 split
 · exact ensures_pure reset.failed
 · refine ensures_bind (resolveAddress_resolved _) fun _ r resolved => ?_
   obtain ⟨outcome,after⟩:=r
   have kept:Kept entry after:=reset.trans resolved.kept
   cases outcome with
   | error => exact ensures_pure kept.failed
   | ok =>
    refine ensures_bind (any_answer _) fun _ answer _ => ?_
    cases answer with
    | error => exact ensures_pure kept.failed
    | ok =>
     dsimp only
     split
     · exact ensures_pure kept.failed
     · rename_i full
       exact ensures_pure (kept.trans (kept_read _ _ (not_not.1 full)))

lemma freezeEntry_kept (pid:UInt32) (entry:AddressEntry) :
 (freezeEntry pid entry).Ensures fun _ r=>Kept entry r.1 := by
 unfold freezeEntry
 dsimp only
 split
 · exact ensures_pure (.refl entry)
 rename_i frozen
 split
 · exact ensures_pure (kept_failed _ _)
 rename_i allowed
 have valid:Valid entry:=by
  rw [requireProcessWrite,Result.seq_eq_ok] at allowed
  exact validateEntry_eq_ok.1 allowed.1
 have length:entry.freezeValue.length=entry.width.toNat:=valid.frozen (by simpa using frozen)
 refine ensures_bind (resolveAddress_resolved _) fun _ r resolved => ?_
 obtain ⟨outcome,after⟩:=r
 have kept:Kept entry after:=resolved.kept
 have length' : after.freezeValue.length=after.width.toNat := by
  have same:after={ entry with resolvedAddress := after.resolvedAddress }:=resolved.entry
  rw [same]
  exact length
 cases outcome with
 | error => exact ensures_pure kept.failed
 | ok =>
  dsimp only
  split
  · exact ensures_pure kept.failed
  refine ensures_bind (any_answer _) fun _ answer _ => ?_
  cases answer with
  | error => exact ensures_pure kept.failed
  | ok =>
   dsimp only
   split
   · exact ensures_pure kept.failed
   split
   · exact ensures_pure kept.failed
   refine ensures_bind (write_readback _ _ _ _ _) fun _ written readback => ?_
   cases written with
   | error => exact ensures_pure kept.failed
   | ok result =>
    have width:result.readback.length=after.width.toNat:=by
     rw [readback result rfl,length']
    exact ensures_pure (kept.trans (kept_read _ _ width))

lemma toNat_max (a b:UInt64) : (max a b).toNat=max a.toNat b.toNat := by
 change (if a ≤ b then b else a).toNat=_
 split
 · rename_i le
   exact (max_eq_right (UInt64.le_iff_toNat_le.1 le)).symm
 · rename_i lt
   exact (max_eq_left (UInt64.lt_iff_toNat_lt.1 (UInt64.not_le.1 lt)).le).symm

lemma toNat_succ {id:UInt64} (bounded:id≠maxUInt64) : (id+1).toNat=id.toNat+1 := by
 have small:id.toNat+1<2^64:=by
  have := id.toNat_lt
  have : id.toNat≠2^64-1 := fun same=>bounded (UInt64.toNat_inj.1 same)
  omega
 rw [UInt64.toNat_add,UInt64.toNat_one,Nat.mod_eq_of_lt small]

structure Invariant (list : AddressList) : Prop where
 count : list.entries.length ≤ kMaxEntries
 distinct : (list.entries.map (·.id)).Nodup
 nonzero : ∀ entry∈list.entries,entry.id≠0
 below : ∀ entry∈list.entries,entry.id < list.nextId
 valid : ∀ entry∈list.entries,Valid entry

lemma invariant_empty (nextId:UInt64) : Invariant { entries := [],nextId } where
 count := by simp
 distinct := by simp
 nonzero := by simp
 below := by simp
 valid := by simp

section Lists
variable {list:AddressList} {entries:List AddressEntry}

section
variable {before entries':List AddressEntry} {entry':AddressEntry} {id:UInt64} {version:ℤ}
 {line:List UInt8}

lemma map_id_of_kept (kept:List.Forall₂ Kept before entries) :
 entries.map (·.id)=before.map (·.id) := by
 induction kept with
 | nil => rfl
 | cons first _ ih => simp [first.id,ih]

lemma exists_kept (kept:List.Forall₂ Kept before entries) (member:entry'∈entries) :
 ∃ entry∈before,Kept entry entry' := by
 induction kept with
 | nil => simp at member
 | cons first _ ih =>
  rcases List.mem_cons.1 member with rfl|member
  · exact ⟨_,by simp,first⟩
  · obtain ⟨entry,among,kept⟩:=ih member
    exact ⟨entry,by simp [among],kept⟩

lemma Invariant.replaced (h:Invariant list) (kept:List.Forall₂ Kept list.entries entries) :
 Invariant { list with entries } where
 count := kept.length_eq ▸ h.count
 distinct := by
  rw [map_id_of_kept kept]
  exact h.distinct
 nonzero entry' member := by
  obtain ⟨entry,among,kept⟩:=exists_kept kept member
  rw [kept.id]
  exact h.nonzero entry among
 below entry' member := by
  obtain ⟨entry,among,kept⟩:=exists_kept kept member
  rw [kept.id]
  exact h.below entry among
 valid entry' member := by
  obtain ⟨entry,among,kept⟩:=exists_kept kept member
  exact kept.valid (h.valid entry among)

lemma forall₂_set {index:ℕ} (found:entries[index]?=some entry)
 (kept:Kept entry entry') : List.Forall₂ Kept entries (entries.set index entry') := by
 induction entries generalizing index with
 | nil => simp at found
 | cons first _ ih =>
  cases index with
  | zero =>
   obtain rfl : first=entry := by simpa using found
   exact .cons kept (List.forall₂_same.2 fun other _ => .refl other)
  | succ => exact .cons (.refl first) (ih found)

lemma find_kept (h:Invariant list) {put:AddressEntry→AddressList}
 (found:list.find id=some (entry,put)) (kept:Kept entry entry') :
 Invariant (put entry') := by
 simp only [find,Option.bind_eq_bind,Option.bind_eq_some_iff,Option.pure_def,
  Option.some.injEq,Prod.mk.injEq] at found
 obtain ⟨_,-,_,at_index,rfl,rfl⟩:=found
 exact h.replaced (forall₂_set at_index kept)

lemma add_invariant (h:Invariant list) (entry:AddressEntry) (allocation:Allocation) :
 Invariant (list.add entry allocation).2 := by
 unfold add
 split
 · exact h
 split
 · exact h
 rename_i counter
 split
 · exact h
 rename_i fresh
 dsimp only
 split
 · exact h
 rename_i checked
 set added : AddressEntry := { entry with
  id := if entry.id=0 then list.nextId else entry.id
  width := if entry.width=0 then UInt64.ofNat (fixedValueWidth entry.type) else entry.width }
  with added_eq
 have valid : Valid { added with resolvedAddress := added.address } :=
  (kept_resolved added _).valid (validateEntry_eq_ok.1 checked)
 have identified:added.id≠0 ∧ added.id≠maxUInt64 ∧ added.id ∉ list.entries.map (·.id):=by
  have id:added.id=if entry.id=0 then list.nextId else entry.id:=rfl
  by_cases automatic:entry.id=0
  · rw [id,if_pos automatic]
    simp only [automatic,true_and,not_or] at counter
    refine ⟨counter.1,counter.2,fun member => ?_⟩
    obtain ⟨old,among,same⟩:=List.mem_map.1 member
    exact UInt64.lt_irrefl _ (same ▸ h.below old among)
  · rw [id,if_neg automatic]
    simp only [automatic,ne_eq,not_false_eq_true,true_and,not_or,Bool.not_eq_true,
     List.any_eq_false,beq_iff_eq] at fresh
    refine ⟨automatic,fresh.1,fun member => ?_⟩
    obtain ⟨old,among,same⟩:=List.mem_map.1 member
    exact fresh.2 old among same
 obtain ⟨nonzero,bounded,other⟩:=identified
 have next : (max list.nextId (added.id+1)).toNat =
  max list.nextId.toNat (added.id.toNat+1) := by
  rw [toNat_max,toNat_succ bounded]
 have below:∀old∈list.entries,old.id < max list.nextId (added.id+1):=by
  intro old member
  have := UInt64.lt_iff_toNat_lt.1 (h.below old member)
  rw [UInt64.lt_iff_toNat_lt]
  omega
 have last:added.id < max list.nextId (added.id+1):=by
  rw [UInt64.lt_iff_toNat_lt]
  omega
 have kept : Invariant { list with nextId := max list.nextId (added.id+1) } :=
  { h with below }
 cases allocation with
 | badAlloc | lengthError => exact kept
 | grown =>
  have members : ∀old∈list.entries++[{ added with resolvedAddress := added.address }],
   old∈list.entries ∨ old={ added with resolvedAddress := added.address } := by
   simp
  exact {
   count := by
    simp only [List.length_append,List.length_singleton]
    omega
   distinct := by
    rw [List.map_append,List.nodup_append]
    refine ⟨h.distinct,by simp,fun _ member id' member' same=>other ?_⟩
    obtain rfl : id'=added.id := by simpa using member'
    exact same ▸ member
   nonzero := by
    intro old member
    rcases members old member with member|rfl
    · exact h.nonzero old member
    · exact nonzero
   below := by
    intro old member
    rcases members old member with member|rfl
    · exact below old member
    · exact last
   valid := by
    intro old member
    rcases members old member with member|rfl
    · exact h.valid old member
    · exact valid }

lemma remove_invariant (h:Invariant list) (id:UInt64) : Invariant (list.remove id).2 where
 count := (List.length_filter_le _ _).trans h.count
 distinct := h.distinct.sublist (List.filter_sublist.map _)
 nonzero entry member := h.nonzero entry (List.mem_of_mem_filter member)
 below entry member := h.below entry (List.mem_of_mem_filter member)
 valid entry member := h.valid entry (List.mem_of_mem_filter member)

lemma refreshEntries_kept (entries:List AddressEntry) :
 (refreshEntries entries).Ensures fun _ r=>List.Forall₂ Kept entries r.1 := by
 induction entries with
 | nil => exact ensures_pure .nil
 | cons entry _ ih =>
  refine ensures_bind (refreshEntry_kept entry) fun _ _ kept => ?_
  refine ensures_bind ih fun _ _ keeps => ?_
  exact ensures_pure (.cons kept keeps)

lemma freezeEntries_kept (pid:UInt32) (entries:List AddressEntry) :
 (freezeEntries pid entries).Ensures fun _ r=>List.Forall₂ Kept entries r.1 := by
 induction entries with
 | nil => exact ensures_pure .nil
 | cons entry _ ih =>
  refine ensures_bind (freezeEntry_kept pid entry) fun _ _ kept => ?_
  refine ensures_bind ih fun _ _ keeps => ?_
  exact ensures_pure (.cons kept keeps)

lemma refresh_invariant (h:Invariant list) :
 (list.refresh).Ensures fun _ r=>Invariant r.2 := by
 refine ensures_bind (refreshEntries_kept _) fun _ _ keeps => ?_
 exact ensures_pure (h.replaced keeps)

lemma refuseFrozen_kept (entry:AddressEntry) : Kept entry (refuseFrozen entry) := by
 unfold refuseFrozen
 split
 · exact kept_failed _ _
 · exact .refl entry

lemma tickFreeze_invariant (h:Invariant list) (token:VerifiedWriteArmToken) :
 (list.tickFreeze token).Ensures fun _ r=>Invariant r.2 := by
 unfold tickFreeze
 split
 · refine ensures_pure (h.replaced ?_)
   rw [List.forall₂_map_right_iff]
   exact List.forall₂_same.2 fun entry _=>refuseFrozen_kept entry
 · split
   · exact ensures_pure h
   · refine ensures_bind (freezeEntries_kept _ _) fun _ _ keeps => ?_
     exact ensures_pure (h.replaced keeps)

lemma write_invariant (h:Invariant list) (token:VerifiedWriteArmToken) (id:UInt64)
 (value:List UInt8) : (list.write token id value).Ensures fun _ r=>Invariant r.2 := by
 unfold write
 dsimp only
 split
 · exact ensures_pure h
 rename_i entry put found
 split
 · exact ensures_pure (find_kept h found (kept_failed _ _))
 split
 · exact ensures_pure h
 rename_i full
 refine ensures_bind (resolveAddress_resolved _) fun _ r resolved => ?_
 obtain ⟨outcome,after⟩:=r
 have kept:Kept entry after:=resolved.kept
 have width:after.width=entry.width:=resolved.width
 cases outcome with
 | error => exact ensures_pure (find_kept h found kept)
 | ok =>
  dsimp only
  split
  · exact ensures_pure (find_kept h found kept.failed)
  · refine ensures_bind (write_readback _ _ _ _ _) fun _ written readback => ?_
    cases written with
    | error => exact ensures_pure (find_kept h found kept.failed)
    | ok result =>
     have length:result.readback.length=after.width.toNat:=by
      rw [readback result rfl,width]
      exact not_not.1 full
     exact ensures_pure (find_kept h found (kept.trans (kept_read _ _ length)))

lemma freezeWith_invariant (h:Invariant list) {entry after:AddressEntry}
 {put:AddressEntry→AddressList} (found:list.find id=some (entry,put))
 (kept:Kept entry after) (selected:List UInt8) :
 Invariant (freezeWith after put selected).2 := by
 unfold freezeWith
 split
 · exact find_kept h found kept
 · rename_i full
   exact find_kept h found (kept.trans (kept_frozen _ (not_not.1 full)))

lemma setFrozen_invariant (h:Invariant list) (id:UInt64) (frozen:Bool)
 (value:Option (List UInt8)) :
 (list.setFrozen id frozen value).Ensures fun _ r=>Invariant r.2 := by
 unfold setFrozen
 dsimp only
 split
 · exact ensures_pure h
 rename_i entry put found
 split
 · exact ensures_pure (find_kept h found (kept_thawed _))
 split
 · exact ensures_pure (find_kept h found (kept_failed _ _))
 split
 · exact ensures_pure (freezeWith_invariant h found (.refl entry) _)
 split
 · exact ensures_pure (freezeWith_invariant h found (.refl entry) _)
 refine ensures_bind (resolveAddress_resolved _) fun _ r resolved => ?_
 obtain ⟨outcome,after⟩:=r
 have kept:Kept entry after:=resolved.kept
 cases outcome with
 | error => exact ensures_pure (find_kept h found kept)
 | ok =>
  refine ensures_bind (any_answer _) fun _ answer _ => ?_
  cases answer with
  | error => exact ensures_pure (find_kept h found kept)
  | ok bytes => exact ensures_pure (freezeWith_invariant h found kept bytes)

structure Loaded (entries : List AddressEntry) : Prop where
 count : entries.length ≤ kMaxEntries
 distinct : (entries.map (·.id)).Nodup
 nonzero : ∀ entry∈entries,entry.id≠0
 bounded : ∀ entry∈entries,entry.id≠maxUInt64
 valid : ∀ entry∈entries,Valid entry
 thawed : ∀ entry∈entries,entry.frozen=false ∧ entry.freezeValue=[]

lemma loaded_nil : Loaded [] where
 count := by simp
 distinct := by simp
 nonzero := by simp
 bounded := by simp
 valid := by simp
 thawed := by simp

lemma disarmed_valid (valid:Valid entry) : Valid (disarmed entry) :=
 { valid with
   frozen := fun on=>(nomatch on)
   unfrozen := fun _=>rfl }

lemma rowEntry_valid {head:RowHead} {freezeHex:List UInt8}
 {path:Option AddressPointerPath} (h:rowEntry head freezeHex path=.ok entry) :
 Valid entry ∧ entry.id≠0 ∧ entry.id≠maxUInt64 := by
 unfold rowEntry at h
 split at h
 · split at h
   · cases h
   rename_i named
   simp only [not_or] at named
   split at h
   · cases h
   dsimp only at h
   split at h
   · cases h
   split at h
   · cases h
   split at h
   · cases h
   · rename_i checked
     cases h
     exact ⟨validateEntry_eq_ok.1 checked,named.1,named.2.1⟩
 · cases h

lemma parseRow_valid (h:parseRow version line=.ok entry) :
 Valid entry ∧ entry.id≠0 ∧ entry.id≠maxUInt64 := by
 unfold parseRow at h
 split at h
 · cases h
 split at h
 · cases h
 split at h
 · cases h
 · exact rowEntry_valid h

lemma Loaded.snoc (h:Loaded entries) (room:entries.length < kMaxEntries)
 (valid:Valid entry) (nonzero:entry.id≠0) (bounded:entry.id≠maxUInt64)
 (fresh:entry.id ∉ entries.map (·.id)) : Loaded (entries++[disarmed entry]) where
 count := by
  simp only [List.length_append,List.length_singleton]
  omega
 distinct := by
  rw [List.map_append,List.nodup_append]
  refine ⟨h.distinct,by simp,fun _ member id' member' same=>fresh ?_⟩
  obtain rfl : id'=entry.id := by simpa [disarmed] using member'
  exact same ▸ member
 nonzero := by
  intro old member
  rcases List.mem_append.1 member with member|member
  · exact h.nonzero old member
  · rwa [List.mem_singleton.1 member]
 bounded := by
  intro old member
  rcases List.mem_append.1 member with member|member
  · exact h.bounded old member
  · rwa [List.mem_singleton.1 member]
 valid := by
  intro old member
  rcases List.mem_append.1 member with member|member
  · exact h.valid old member
  · rw [List.mem_singleton.1 member]
    exact disarmed_valid valid
 thawed := by
  intro old member
  rcases List.mem_append.1 member with member|member
  · exact h.thawed old member
  · rw [List.mem_singleton.1 member]
    exact ⟨rfl,rfl⟩

lemma loadRow_loaded (h:Loaded entries) (ok:loadRow version entries line=.ok entries') :
 Loaded entries' := by
 unfold loadRow at ok
 split at ok
 · cases ok
 split at ok
 · cases ok
 split at ok
 · cases ok
   exact h
 split at ok
 · cases ok
 rename_i room
 split at ok
 · cases ok
 rename_i entry parsed
 split at ok
 · cases ok
 · rename_i fresh
   cases ok
   obtain ⟨valid,nonzero,bounded⟩:=parseRow_valid parsed
   exact h.snoc (Nat.lt_of_not_le room) valid nonzero bounded fresh

lemma loadRows_loaded {faulty:Bool} {bytes:List UInt8} (h:Loaded entries)
 (ok:loadRows version faulty entries bytes=.ok entries') : Loaded entries' := by
 fun_induction loadRows version faulty entries bytes with
 | case1 => cases ok;exact h
 | case2 => cases ok
 | case3 => cases ok
 | case4 => cases ok
 | case5 _ _ _ _ _ _ _ step ih => exact ih (loadRow_loaded h step) ok

end

lemma loadEntries_loaded {file:InputFile} {allocation:Allocation}
 (ok:loadEntries file allocation=.ok entries) : Loaded entries := by
 unfold loadEntries at ok
 split at ok
 · cases ok
 split at ok
 · split at ok
   · cases ok
   split at ok
   · cases ok
   · exact loadRows_loaded loaded_nil ok
 · cases ok

lemma foldl_max_spec (highest:UInt64) (entries:List AddressEntry) (start:highest≠maxUInt64)
 (bounded:∀entry∈entries,entry.id≠maxUInt64) :
 let result := entries.foldl (fun highest entry=>max highest entry.id) highest
 result≠maxUInt64 ∧ highest.toNat ≤ result.toNat ∧
  ∀entry∈entries,entry.id.toNat ≤ result.toNat := by
 induction entries generalizing highest with
 | nil => exact ⟨start,le_rfl,by simp⟩
 | cons entry _ ih =>
  have larger:max highest entry.id≠maxUInt64:=by
   change (if highest ≤ entry.id then entry.id else highest)≠maxUInt64
   split
   · exact bounded entry (by simp)
   · exact start
  obtain ⟨small,above,rest⟩:=ih _ larger fun entry member=>bounded entry (by simp [member])
  rw [toNat_max] at above
  refine ⟨small,by rw [List.foldl_cons];omega,fun other member => ?_⟩
  rw [List.foldl_cons]
  rcases List.mem_cons.1 member with rfl|member
  · omega
  · exact rest other member

lemma Loaded.invariant (h:Loaded entries) :
 Invariant { entries,nextId := highestId entries+1 } where
 count := h.count
 distinct := h.distinct
 nonzero := h.nonzero
 below := by
  intro entry member
  obtain ⟨small,-,largest⟩:=foldl_max_spec 0 entries (by decide) h.bounded
  have next:(highestId entries+1).toNat=(highestId entries).toNat+1:=toNat_succ small
  rw [UInt64.lt_iff_toNat_lt,next]
  exact Nat.lt_succ_of_le (largest entry member)
 valid := h.valid

lemma load_invariant (h:Invariant list) (file:InputFile) (allocation:Allocation) :
 (list.load file allocation).Ensures fun _ r=>Invariant r.2 := by
 unfold load
 split
 · exact ensures_pure h
 · rename_i entries ok
   exact ensures_pure (loadEntries_loaded ok).invariant

inductive Op where
 | add (entry : AddressEntry) (allocation : Allocation)
 | remove (id : UInt64)
 | clear
 | refresh
 | write (token : VerifiedWriteArmToken) (id : UInt64) (value : List UInt8)
 | setFrozen (id : UInt64) (frozen : Bool) (value : Option (List UInt8))
 | tickFreeze (token : VerifiedWriteArmToken)
 | load (file : InputFile) (allocation : Allocation)

inductive Returned where
 | id (id : UInt64)
 | removed (removed : Bool)
 | cleared
 | refreshed (result : Result AddressRefreshSummary)
 | written (result : Result VerifiedWriteResult)
 | done (result : Result Unit)
 | ticked (result : Result FreezeSummary)

def exec : Op→AddressList→BackendM (Returned×AddressList)
 | .add entry allocation,list =>
  return (.id (list.add entry allocation).1,(list.add entry allocation).2)
 | .remove id,list => return (.removed (list.remove id).1,(list.remove id).2)
 | .clear,list => return (.cleared,list.clear)
 | .refresh,list => do
  let (result,list) ← list.refresh
  return (.refreshed result,list)
 | .write token id value,list => do
  let (result,list) ← list.write token id value
  return (.written result,list)
 | .setFrozen id frozen value,list => do
  let (result,list) ← list.setFrozen id frozen value
  return (.done result,list)
 | .tickFreeze token,list => do
  let (result,list) ← list.tickFreeze token
  return (.ticked result,list)
 | .load file allocation,list => do
  let (result,list) ← list.load file allocation
  return (.done result,list)

def machine : Machine BackendCall BackendAnswer Op AddressList Returned where
 init := {}
 exec := exec

lemma exec_invariant (h:Invariant list) (op:Op) :
 (exec op list).Ensures fun _ r=>Invariant r.2 := by
 cases op with
 | add entry allocation => exact ensures_pure (add_invariant h entry allocation)
 | remove id => exact ensures_pure (remove_invariant h id)
 | clear => exact ensures_pure (invariant_empty 1)
 | refresh =>
  exact ensures_bind (refresh_invariant h) fun _ r kept=>ensures_pure kept
 | write token id value =>
  exact ensures_bind (write_invariant h token id value) fun _ r kept =>
   ensures_pure kept
 | setFrozen id frozen value =>
  exact ensures_bind (setFrozen_invariant h id frozen value) fun _ r kept =>
   ensures_pure kept
 | tickFreeze token =>
  exact ensures_bind (tickFreeze_invariant h token) fun _ r kept=>ensures_pure kept
 | load file allocation =>
  exact ensures_bind (load_invariant h file allocation) fun _ r kept =>
   ensures_pure kept

lemma run_invariant {history:List (Step BackendCall BackendAnswer Op AddressList Returned)}
 (run:machine.Run history list) : Invariant list :=
 Machine.Run.invariant (M := machine) Invariant (invariant_empty 1)
  (fun x valid before=>exec_invariant before x.op x.trace (x.result,x.after) valid) run

/-- `Save` checks what the invariant says, so its loop over the entries never stops. -/
lemma checkEntries_ok {seen:List UInt64} (valid:∀entry∈entries,Valid entry)
 (named:∀entry∈entries,entry.id≠0 ∧ entry.id≠maxUInt64)
 (distinct:(entries.map (·.id)).Nodup) (fresh:∀entry∈entries,entry.id ∉ seen) :
 checkEntries seen entries=.ok () := by
 induction entries generalizing seen with
 | nil => rfl
 | cons entry _ ih =>
  rw [List.map_cons,List.nodup_cons] at distinct
  obtain ⟨nonzero,bounded⟩:=named entry (by simp)
  rw [checkEntries,Result.seq_eq_ok,Result.seq_eq_ok]
  refine ⟨validateEntry_eq_ok.2 (valid entry (by simp)),?_,?_⟩
  · simp [nonzero,bounded,fresh entry (by simp)]
  · refine ih (fun other member=>valid other (by simp [member]))
     (fun other member=>named other (by simp [member])) distinct.2 fun other member => ?_
    rw [List.mem_cons,not_or]
    refine ⟨fun same=>distinct.1 ?_,fresh other (by simp [member])⟩
    rw [←same]
    exact List.mem_map.2 ⟨other,member,rfl⟩

lemma Invariant.below_max (h:Invariant list)
 (member:entry∈list.entries) : entry.id≠maxUInt64 := by
 have below:=UInt64.lt_iff_toNat_lt.1 (h.below entry member)
 have := list.nextId.toNat_lt
 rintro same
 rw [same,maxUInt64_toNat] at below
 omega

/-- After any sequence of operations, however the backend answered: the entries are few enough,
 their ids are distinct, nonzero and below the next one, and each passes the check of entries.
 So none of the checks that `Save` makes on the list fails. -/
theorem run_entries_valid
 {history : List (Step BackendCall BackendAnswer Op AddressList Returned)}
 (run : machine.Run history list) :
 list.entries.length ≤ kMaxEntries ∧ (list.entries.map (·.id)).Nodup ∧
  (∀ entry∈list.entries,entry.id≠0 ∧ entry.id < list.nextId ∧
   ∀ context,validateEntry entry context=.ok ()) ∧
  list.checkCount=.ok () ∧ checkEntries [] list.entries=.ok () := by
 have h := run_invariant run
 refine ⟨h.count,h.distinct,fun entry member=>⟨h.nonzero entry member,h.below entry member,
  fun _=>validateEntry_eq_ok.2 (h.valid entry member)⟩,?_,?_⟩
 · rw [checkCount,Result.check_eq_ok]
   exact Nat.not_lt.2 h.count
 · exact checkEntries_ok h.valid
    (fun entry member=>⟨h.nonzero entry member,h.below_max member⟩) h.distinct (by simp)

def sampleEntry : AddressEntry :=
 { space := { kind := .processVirtual,pid := 4 },address := 0x1000,
   pointerPath := some { space := { kind := .processVirtual,pid := 4 },baseAddress := 0x2000 } }

def sampleAdded : Step BackendCall BackendAnswer Op AddressList Returned where
 op := .add sampleEntry .grown
 before := {}
 trace := []
 result := .id 1
 after := { entries := [{ sampleEntry with id := 1,resolvedAddress := 0x1000 }],nextId := 2 }

lemma sampleAdded_run : machine.Run [sampleAdded] sampleAdded.after := by
 have added:add {} sampleEntry .grown=(1,sampleAdded.after):=by decide
 refine .snoc .nil sampleAdded rfl ((exec_pure _ _ _).2 ⟨rfl,?_⟩)
 change (Returned.id 1,sampleAdded.after) =
  (Returned.id (add {} sampleEntry .grown).1,(add {} sampleEntry .grown).2)
 rw [added]

theorem sampleAdded_valid :
 sampleAdded.after.entries.length=1 ∧ checkEntries [] sampleAdded.after.entries=.ok () :=
 ⟨rfl,(run_entries_valid sampleAdded_run).2.2.2.2⟩

end Lists
end AddressList
end KDbg
