import Mathlib.Algebra.Order.Ring.Nat
import KDbg.DeviceOwner
import KDbg.ExclusiveOwner
import KDbg.RequestSlots
set_option autoImplicit false
/-! A device with one controlling process: its file contexts, owner and handle count follow the
rules of an exclusively owned resource. Both drivers are such a device. -/
namespace KDbg.Driver
open ExclusiveOwner RequestSlots

/-- What is said of a device with one controlling process: `created` are the admitted file objects
 with their creators, `subtracted` the file objects whose cleanup has lowered the handle count,
 in the order in which it happened. -/
structure SingleController (created : List (ℕ×Caller)) (subtracted : List ℕ)
 (passes : ℕ → Caller→Prop) (cleaning : ℕ→Prop) (s : Ownership) : Prop where
 exclusive : ∀ file file' caller caller',passes file caller → passes file' caller' →
  caller.process=caller'.process
 creator : ∀ file caller,passes file caller→(file,caller)∈created
 counted : s.openHandleCount.toInt=(outstanding created subtracted).length
 once : subtracted.Nodup
 subtracted_iff : ∀ file caller,(file,caller)∈created →
  (file∈subtracted ↔ ¬ passes file caller ∧ ¬ cleaning file)
 empty : s.ownerProcess=0 ↔ s.openHandleCount=0
 owner : ∀ p∈outstanding created subtracted,
  s.ownerProcess=p.2.process ∧ s.ownerPid=p.2.pid

/-- The promises of the kernel on a process that creates a file object: it has an address, as long
 as a context refers to a process no other process has its address, and the pool does not hold
 as many contexts as a `LONG` can count. -/
structure Admissible {κ : Type} (owner : κ→Caller) (files : List (Option κ)) (caller : Caller) :
 Prop where
 process : caller.process≠0
 pid : ∀ (file : ℕ) context,files[file]?.join=some context →
  (owner context).process=caller.process → (owner context).pid=caller.pid
 room : files.countP Option.isSome+1<2^31

def recordedOwner (s : Ownership) : Option Caller :=
 if s.ownerProcess=0 then none else some ⟨s.ownerProcess,s.ownerPid⟩

variable {s owner:Ownership} {caller:Caller}

lemma recordedOwner_eq_some (h:recordedOwner s=some caller) :
 s.ownerProcess=caller.process ∧ s.ownerPid=caller.pid := by
 unfold recordedOwner at h
 split at h
 · cases h
 · cases h
   exact ⟨rfl,rfl⟩

lemma recordedOwner_eq_none : recordedOwner s=none ↔ s.ownerProcess=0 := by
 unfold recordedOwner
 split <;> simp [*]

lemma claim_eq_some : s.claim caller=some owner ↔
 (s.ownerProcess=0 ∨ s.ownerProcess=caller.process) ∧
  owner=⟨caller.process,caller.pid,s.openHandleCount+1⟩ := by
 unfold Ownership.claim
 split
 · rename_i other
   exact iff_of_false (by simp) (by tauto)
 · rename_i free
   rw [Option.some.injEq,eq_comm]
   exact ⟨fun same=>⟨by tauto,same⟩,And.right⟩

lemma toInt_lowered {count:Int32} (positive:0 < count.toInt) :
 (if 0 < count then count-1 else count).toInt=count.toInt-1 := by
 have lt:=count.toInt_lt
 have above:0 < count:=Int32.lt_iff_toInt_lt.2 positive
 rw [if_pos above,Int32.toInt_sub,Int32.toInt_one]
 exact Int.bmod_eq_of_le (by omega) (by omega)

section Desk
variable {κ π:Type} (view:κ → Caller×Bool) (part:π→Option (ℕ×Bool))

/-- The desk of a device with its file contexts, the requests that wait, and the owner. -/
def deskOf (files : List (Option κ)) (pending : List (Option π)) (s : Ownership) :
 Desk Caller where
 contexts := fun file=>files[file]?.join.map view
 cleaning := fun id=>pending[id]?.join.bind part
 owner := recordedOwner s
 count := s.openHandleCount.toInt
 size := files.length

variable {files:List (Option κ)} {pending:List (Option π)} {created:List (ℕ×Caller)}
 {subtracted:List ℕ}

lemma SingleController.of_ledger {passes:ℕ → Caller→Prop} {cleaning:ℕ→Prop}
 (ledger:Ledger created subtracted (deskOf view part files pending s))
 (passes_iff:∀file caller,passes file caller ↔
  files[file]?.join.map view=some (caller,false))
 (cleaning_iff:∀file,cleaning file ↔ ∃ id:ℕ,pending[id]?.join.bind part=some (file,false)) :
 SingleController created subtracted passes cleaning s where
 exclusive := by
  intro _ _ _ _ clear clear'
  rw [ledger.exclusive ((passes_iff _ _).1 clear) ((passes_iff _ _).1 clear')]
 creator := fun _ _ clear=>ledger.live _ _ _ ((passes_iff _ _).1 clear)
 counted := ledger.counted
 once := ledger.once
 subtracted_iff := by
  intro _ _ mem
  rw [ledger.mem_subtracted_iff mem,passes_iff,cleaning_iff,not_exists]
  rfl
 empty := recordedOwner_eq_none.symm.trans (ledger.empty.trans (Int32.toInt_inj (y := 0)))
 owner := fun p mem=>recordedOwner_eq_some (ledger.creator p mem)

variable {id file:ℕ} {next:π} {context:κ}

lemma deskOf_enqueue (next:π) :
 deskOf view part files (pending++[some next]) s =
  { deskOf view part files pending s with
    cleaning := Function.update (fun id=>pending[id]?.join.bind part) pending.length
     (part next) } := by
 refine Desk.ext rfl ?_ rfl rfl rfl
 funext j
 simp only [deskOf,slot_append,Function.update_apply]
 split <;> rfl

lemma deskOf_advance (waits:pending[id]?.join=some next) (slot:Option π) :
 deskOf view part files (pending.set id slot) s =
  { deskOf view part files pending s with
    cleaning := Function.update (fun id=>pending[id]?.join.bind part) id
     (slot.bind part) } := by
 refine Desk.ext rfl ?_ rfl rfl rfl
 funext j
 simp only [deskOf,slot_set waits,Function.update_apply]
 split <;> rfl

/-- A request that goes on to another section with the same part in the cleanup. -/
lemma deskOf_advance_same (waits:pending[id]?.join=some next) {slot:Option π}
 (same:slot.bind part=part next) :
 deskOf view part files (pending.set id slot) s=deskOf view part files pending s := by
 refine (deskOf_advance view part waits slot).trans (Desk.ext rfl ?_ rfl rfl rfl)
 have here:slot.bind part=pending[id]?.join.bind part:=same.trans (by rw [waits];rfl)
 rw [here]
 exact Function.update_eq_self _ _

lemma deskOf_setContext (found:files[file]?.join=some context) (value:Option κ) :
 deskOf view part (files.set file value) pending s =
  { deskOf view part files pending s with
    contexts := Function.update (fun file=>files[file]?.join.map view) file
     (value.map view) } := by
 refine Desk.ext ?_ rfl rfl rfl List.length_set
 funext other
 simp only [deskOf,slot_set found,Function.update_apply]
 split <;> rfl

lemma deskOf_cleaning_length :
 (deskOf view part files pending s).cleaning pending.length=none := by
 simp [deskOf]

lemma refuse_step : (deskOf view part files pending s).Step .quiet
 (deskOf view part (files++[none]) pending s) := by
 have same : deskOf view part (files++[none]) pending s =
  { deskOf view part files pending s with size := files.length+1 } := by
  refine Desk.ext ?_ rfl rfl rfl (by simp [deskOf])
  funext other
  simp only [deskOf,slot_append]
  split
  · rename_i last
    simp [last]
  · rfl
 rw [same]
 exact .refuse

/-- There is room in the handle count, for every counted file object has its context. -/
lemma toInt_raised (ledger:Ledger created subtracted (deskOf view part files pending s))
 (room:files.countP Option.isSome+1<2^31) :
 (s.openHandleCount+1).toInt=s.openHandleCount.toInt+1 := by
 have listed:files=(List.range files.length).map fun file=>files[file]?.join:=by
  apply List.ext_getElem
  · simp
  · intro i inside _
    simp [inside]
 have live:=congrArg (List.countP Option.isSome) listed
 rw [List.countP_map] at live
 have most:s.openHandleCount.toInt ≤ files.countP Option.isSome:=by
  rw [live,List.countP_eq_length_filter]
  refine ledger.count_le fun file held => ?_
  obtain ⟨_,held⟩:=Option.isSome_iff_exists.1 held
  obtain ⟨context,found,-⟩:=Option.map_eq_some_iff.1 held
  have inside:file < files.length:=by
   by_contra beyond
   simp [List.getElem?_eq_none (Nat.le_of_not_lt beyond)] at found
  exact List.mem_filter.2 ⟨List.mem_range.2 inside,congrArg Option.isSome found⟩
 have counted:=ledger.counted
 change s.openHandleCount.toInt=_ at counted
 rw [Int32.toInt_add,Int32.toInt_one]
 exact Int.bmod_eq_of_le (by omega) (by omega)

lemma grant_step (ledger:Ledger created subtracted (deskOf view part files pending s))
 (promise:Admissible (fun context=>(view context).1) files caller)
 (claimed:s.claim caller=some owner) (new:view context=(caller,false)) :
 (deskOf view part files pending s).Step (.grant files.length caller)
  (deskOf view part (files++[some context]) pending owner) := by
 obtain ⟨free,rfl⟩:=claim_eq_some.1 claimed
 have same : deskOf view part (files++[some context]) pending
  ⟨caller.process,caller.pid,s.openHandleCount+1⟩ =
  { deskOf view part files pending s with
    contexts := Function.update (fun file=>files[file]?.join.map view) files.length
     (some (caller,false))
    owner := some caller
    count := s.openHandleCount.toInt+1
    size := files.length+1 } := by
  refine Desk.ext ?_ rfl (if_neg promise.process)
   (toInt_raised view part ledger promise.room) (by simp [deskOf])
  funext other
  simp only [deskOf,slot_append,Function.update_apply]
  split
  · rw [Option.map_some,new]
  · rfl
 rw [same]
 refine .grant caller ?_
 by_cases unowned:s.ownerProcess=0
 · exact .inl (recordedOwner_eq_none.2 unowned)
 · have process:=free.resolve_left unowned
   have owned:recordedOwner s=some ⟨s.ownerProcess,s.ownerPid⟩:=if_neg unowned
   obtain ⟨file,_,held⟩:=ledger.exists_context_of_owner owned
   obtain ⟨old,found,seen⟩:=Option.map_eq_some_iff.1 held
   have owner:(view old).1=⟨s.ownerProcess,s.ownerPid⟩:=congrArg Prod.fst seen
   have pid:=promise.pid file old found (by rw [owner,process])
   rw [owner] at pid
   right
   refine owned.trans ?_
   rw [process]
   exact congrArg (fun pid=>some (Caller.mk caller.process pid)) pid

lemma flag_step {flagged:κ} (found:files[file]?.join=some context)
 (clear:view context=(caller,false)) (set:view flagged=(caller,true))
 (waits:part next=some (file,false)) :
 (deskOf view part files pending s).Step .quiet
  (deskOf view part (files.set file (some flagged)) (pending++[some next]) s) := by
 rw [deskOf_enqueue,deskOf_setContext view part found,Option.map_some,set,waits]
 refine .flag file pending.length caller ?_ (deskOf_cleaning_length view part)
 simp only [deskOf,found,Option.map_some,clear]

lemma drop_step (found:files[file]?.join=some context)
 (set:view context=(caller,true)) (waits:part next=some (file,true)) :
 (deskOf view part files pending s).Step .quiet
  (deskOf view part files (pending++[some next]) s) := by
 rw [deskOf_enqueue,waits]
 refine .drop file pending.length caller ?_ (deskOf_cleaning_length view part)
 simp only [deskOf,found,Option.map_some,set]

lemma plain_step (plain:part next=none) :
 (deskOf view part files pending s).Step .quiet
  (deskOf view part files (pending++[some next]) s) := by
 have none:pending[pending.length]?.join.bind part=none:=by simp
 rw [deskOf_enqueue,plain,←none,Function.update_eq_self]
 exact .quiet

lemma free_step (found:files[file]?.join=some context)
 (waits:pending[id]?.join=some next) (last:part next=some (file,true))
 (alone:∀(id':ℕ) next' p,pending[id']?.join=some next' → part next'=some p → p.1=file →
  id'=id) :
 (deskOf view part files pending s).Step .quiet
  (deskOf view part (files.set file none) (pending.set id none) s) := by
 rw [deskOf_setContext view part found,deskOf_advance view part waits]
 refine .free file id ?_ ?_
 · simp only [deskOf,waits,Option.bind_some,last]
 · intro id' p cleaning on
   obtain ⟨next',waits',same⟩:=Option.bind_eq_some_iff.1 cleaning
   exact alone id' next' p waits' same on

lemma subtract_step (ledger:Ledger created subtracted (deskOf view part files pending s))
 {slot:Option π} (closing:Bool)
 (waits:pending[id]?.join=some next) (now:part next=some (file,false))
 (after:slot.bind part=if closing then some (file,true) else none) :
 (deskOf view part files pending s).Step (.subtract file)
  (deskOf view part files (pending.set id slot) s.release) := by
 have here:(deskOf view part files pending s).cleaning id=some (file,false):=by
  simp only [deskOf,waits,Option.bind_some,now]
 have lowered:=toInt_lowered (ledger.count_pos here)
 have zero : (if 0 < s.openHandleCount then s.openHandleCount-1 else s.openHandleCount)=0 ↔
  s.openHandleCount.toInt-1=0 := by
  rw [←lowered]
  exact Int32.toInt_inj.symm
 have same : deskOf view part files (pending.set id slot) s.release =
  { deskOf view part files pending s with
    cleaning := Function.update (fun id=>pending[id]?.join.bind part) id
     (if closing then some (file,true) else none)
    owner := if s.openHandleCount.toInt-1=0 then none else recordedOwner s
    count := s.openHandleCount.toInt-1 } := by
  rw [deskOf_advance view part waits,after,Ownership.release]
  refine Desk.ext rfl rfl ?_ ?_ rfl
  · simp only [deskOf,zero]
    split
    · exact if_pos rfl
    · rfl
  · rw [←lowered]
    simp only [deskOf]
    generalize (if 0 < s.openHandleCount then _ else _)=count
    split <;> rfl
 rw [same]
 exact .subtract file id closing here

end Desk
end KDbg.Driver
