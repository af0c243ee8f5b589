import KDbg.FrozenWrites
set_option autoImplicit false
/-!
# Pointer paths

What `PointerResolver::Resolve` makes of a path, compared with its evaluation in the integers.
-/
namespace KDbg.PointerResolver
open Interaction

def maxAddress (path : AddressPointerPath) : ℤ := if path.pointerSize=4 then 2^32-1 else 2^64-1

lemma maxAddress_lt (path:AddressPointerPath) : maxAddress path<2^64 := by
 rw [maxAddress]
 split <;> omega

lemma toInt_eq (offset:Int64) : offset.toInt =
 if 2*offset.toUInt64.toNat<2^64 then (offset.toUInt64.toNat : ℤ)
 else offset.toUInt64.toNat-2^64 :=
 BitVec.toInt_eq_toNat_cond _

lemma toNat_magnitude (offset:Int64) : ((-(offset+1)).toUInt64+1).toNat =
 (2^64-offset.toUInt64.toNat)%2^64 := by
 have negated:(-(offset+1)).toUInt64+1 = -offset.toUInt64:=by
  apply UInt64.toBitVec_inj.1
  simp
  grind
 rw [negated,←UInt64.toNat_toBitVec,UInt64.toBitVec_neg,BitVec.toNat_neg]
 rfl

section Paths
variable {path:AddressPointerPath} {address sum:UInt64} {offset:Int64} {name:String}

lemma width_ok_iff {error:Error} :
 (if path.pointerSize=4 ∧ 0xFFFFFFFF < sum then throw error else return sum : Result UInt64) =
   .ok address ↔ sum=address ∧ (sum.toNat : ℤ) ≤ maxAddress path := by
 have bound:=sum.toNat_lt
 have wide_iff:0xFFFFFFFF < sum ↔ 4294967295 < sum.toNat:=UInt64.lt_iff_toNat_lt
 have fits:¬(path.pointerSize=4 ∧ 0xFFFFFFFF < sum) ↔ (sum.toNat : ℤ) ≤ maxAddress path:=by
  rw [maxAddress,wide_iff]
  by_cases narrow:path.pointerSize=4
  · rw [if_pos narrow,and_iff_right narrow]
    omega
  · rw [if_neg narrow]
    exact ⟨fun _=>by omega,fun _ both=>narrow both.1⟩
 rw [←fits]
 split
 · rename_i wide
   exact ⟨nofun,fun both=>absurd wide both.2⟩
 · rename_i narrow
   exact ⟨fun same=>⟨Except.ok.inj same,narrow⟩,fun both=>congrArg _ both.1⟩

/-- The checks on an offset let through exactly the sums that are addresses. -/
lemma addOffset_ok_iff : addOffset name path address offset=.ok sum ↔
 (sum.toNat : ℤ)=address.toNat+offset.toInt ∧ address.toNat+offset.toInt ≤ maxAddress path := by
 have bound:=address.toNat_lt
 have high:=sum.toNat_lt
 have size:=offset.toUInt64.toNat_lt
 have sign:=toInt_eq offset
 have small:=maxAddress_lt path
 have nonneg:0 ≤ offset ↔ 2*offset.toUInt64.toNat<2^64:=by
  rw [Int64.le_iff_toInt_le,sign]
  change (0 : ℤ) ≤ _ ↔ _
  split <;> omega
 have exact_sum {place:UInt64} {error:Error}
  (same:(place.toNat : ℤ)=address.toNat+offset.toInt) :
  (if path.pointerSize=4 ∧ 0xFFFFFFFF < place then throw error else return place : Result UInt64) =
   .ok sum ↔ (sum.toNat : ℤ)=address.toNat+offset.toInt ∧
    address.toNat+offset.toInt ≤ maxAddress path := by
  rw [width_ok_iff,←same,←UInt64.toNat_inj]
  omega
 unfold addOffset
 split
 · rename_i positive
   rw [if_pos (nonneg.1 positive)] at sign
   split
   · rename_i overflow
     rw [UInt64.lt_iff_toNat_lt,toNat_maxUInt64_sub] at overflow
     refine ⟨nofun,fun ⟨same,below⟩ => ?_⟩
     omega
   · rename_i fits
     rw [UInt64.lt_iff_toNat_lt,toNat_maxUInt64_sub] at fits
     refine exact_sum ?_
     rw [UInt64.toNat_add]
     omega
 · rename_i negative
   rw [nonneg] at negative
   rw [if_neg negative] at sign
   have magnitude:=toNat_magnitude offset
   dsimp only
   split
   · rename_i underflow
     rw [UInt64.lt_iff_toNat_lt,magnitude] at underflow
     refine ⟨nofun,fun ⟨same,below⟩ => ?_⟩
     omega
   · rename_i fits
     rw [UInt64.lt_iff_toNat_lt,magnitude] at fits
     refine exact_sum ?_
     rw [UInt64.toNat_sub_of_le _ _ (UInt64.le_iff_toNat_le.2 (by omega)),magnitude]
     omega

lemma addOffset_of_range (name:String) (low:0 ≤ address.toNat+offset.toInt)
 (below:address.toNat+offset.toInt ≤ maxAddress path) :
 ∃ sum,addOffset name path address offset=.ok sum := by
 have small:=maxAddress_lt path
 refine ⟨UInt64.ofNat (address.toNat+offset.toInt).toNat,addOffset_ok_iff.2 ⟨?_,below⟩⟩
 rw [UInt64.toNat_ofNat_of_lt' (by change _<2^64;omega)]
 omega

/-- The pointer of a read that got all its bytes. -/
def pointerOf (path : AddressPointerPath) : Result (List UInt8)→Option ℤ
 | .error _ => none
 | .ok bytes =>
  if bytes.length=path.pointerSize.toNat then some (ofLittleEndian bytes : ℤ) else none

/-- What a backend with one answer for each call has at an address of the path. -/
def pointerAt (env : (c : BackendCall)→BackendAnswer c) (path : AddressPointerPath)
 (address : ℤ) : Option ℤ :=
 pointerOf path ((readMemory path.space (UInt64.ofNat address.toNat) path.pointerSize).run env)

/-- Where the offset after a read leads: nowhere from a null pointer or out of the addresses. -/
def nextAddress (env : (c : BackendCall)→BackendAnswer c) (path : AddressPointerPath)
 (current : ℤ) (offset : Int64) : Option ℤ :=
 (pointerAt env path current).bind fun pointer =>
  if pointer≠0 ∧ 0 ≤ pointer+offset.toInt ∧ pointer+offset.toInt ≤ maxAddress path then
   some (pointer+offset.toInt)
  else none

/-- The evaluation of a path in the integers. -/
def evaluate (env : (c : BackendCall)→BackendAnswer c) (path : AddressPointerPath)
 (current : ℤ) : List Int64→Option ℤ
 | [] => some current
 | [offset] =>
  if 0 ≤ current+offset.toInt ∧ current+offset.toInt ≤ maxAddress path then
   some (current+offset.toInt)
  else none
 | offset::offsets =>
  (nextAddress env path current offset).bind fun next=>evaluate env path next offsets

/-- The addresses that are read: one for each offset but the last, up to the first failure. -/
def addressesRead (env : (c : BackendCall)→BackendAnswer c) (path : AddressPointerPath)
 (current : ℤ) : List Int64→List ℤ
 | [] | [_] => []
 | offset::offsets =>
  current::match nextAddress env path current offset with
   | none => []
   | some next => addressesRead env path next offsets

/-- The call that `ReadMemory` makes. -/
def readCall (path : AddressPointerPath) (address : ℤ) : BackendCall :=
 let place := UInt64.ofNat address.toNat
 match path.space.kind with
 | .physical => .readPhysical place path.pointerSize
 | .processVirtual => .readProcessVirtual path.space.pid place path.pointerSize
 | .kernelVirtual => .readKernelVirtual place path.pointerSize

variable {env:(c:BackendCall)→BackendAnswer c} {current:UInt64} {offsets:List Int64}
 {t:List BackendEvent} {r:Result UInt64}

lemma readMemory_call (process:path.space.kind=.processVirtual → path.space.pid≠0)
 {read:Result (List UInt8)} (ran:(readMemory path.space current path.pointerSize).Exec t read) :
 t.map (·.call)=[readCall path current.toNat] := by
 unfold readCall readMemory at *
 rw [Int.toNat_natCast,UInt64.ofNat_toNat]
 cases kind:path.space.kind with
 | processVirtual =>
  rw [kind] at ran
  rcases ran.of_guard with ⟨none,-⟩|⟨-,ran⟩
  · exact absurd none (process kind)
  · obtain ⟨_,_,rfl,ended⟩:=ran.of_call
    obtain ⟨rfl,-⟩:=ended.of_ret
    rfl
 | physical | kernelVirtual =>
  rw [kind] at ran
  obtain ⟨_,_,rfl,ended⟩:=ran.of_call
  obtain ⟨rfl,-⟩:=ended.of_ret
  rfl

lemma last_iff : addOffset name path current offset=.ok sum ↔
 evaluate env path current.toNat [offset]=some (sum.toNat : ℤ) := by
 rw [addOffset_ok_iff,evaluate,Option.ite_none_right_eq_some,Option.some.injEq]
 omega

lemma pointerOf_full (size:path.pointerSize=4 ∨ path.pointerSize=8) {bytes:List UInt8}
 (full:bytes.length=path.pointerSize.toNat) :
 pointerOf path (.ok bytes)=some ((UInt64.ofNat (ofLittleEndian bytes)).toNat : ℤ) := by
 have bound:=ofLittleEndian_lt bytes
 rw [UInt64.toNat_ofNat_of_lt' (bound.trans_le ?_)]
 · exact if_pos full
 rw [full]
 rcases size with narrow|wide
 · rw [narrow]
   decide
 · rw [wide]
   decide

/-- Where the loop goes on after it has read a pointer. -/
lemma nextAddress_eq (name:String) (offset:Int64) {place:ℤ} {pointer:UInt64}
 (read:pointerAt env path place=some (pointer.toNat : ℤ)) (filled:pointer≠0) :
 nextAddress env path place offset=match addOffset name path pointer offset with
  | .error _ => none
  | .ok next => some (next.toNat : ℤ) := by
 have some_pointer:(pointer.toNat : ℤ)≠0:=by
  exact_mod_cast fun zero=>filled (UInt64.toNat_inj.1 zero)
 rw [nextAddress,read,Option.bind_some]
 cases sum:addOffset name path pointer offset with
 | ok next =>
  obtain ⟨same,below⟩:=addOffset_ok_iff.1 sum
  rw [if_pos ⟨some_pointer,by omega,below⟩,←same]
 | error =>
  refine if_neg fun ⟨_,above,below⟩ => ?_
  obtain ⟨_,found⟩:=addOffset_of_range name above below
  exact absurd (sum.symm.trans found) nofun

/-- A run of the loop has the value of the exact evaluation, and makes its reads. -/
structure Follows (env : (c : BackendCall)→BackendAnswer c) (path : AddressPointerPath)
 (current : ℤ) (offsets : List Int64) (t : List BackendEvent) (r : Result UInt64) : Prop where
 value : ∀ v : UInt64,r=.ok v ↔ evaluate env path current offsets=some (v.toNat : ℤ)
 calls : t.map (·.call)=(addressesRead env path current offsets).map (readCall path)

lemma Follows.stopped {place:ℤ} {error:Error} (several:offsets=[]→False)
 (calls:t.map (·.call)=[readCall path place]) (stop:nextAddress env path place offset=none) :
 Follows env path place (offset::offsets) t (.error error) := by
 constructor
 · intro v
   rw [evaluate,stop]
   · simp
   · exact several
 · rw [addressesRead,stop,calls]
   · rfl
   · exact several

lemma Follows.step {place next:ℤ} {u:List BackendEvent} (several:offsets=[]→False)
 (calls:t.map (·.call)=[readCall path place])
 (found:nextAddress env path place offset=some next)
 (rest:Follows env path next offsets u r) :
 Follows env path place (offset::offsets) (t++u) r := by
 constructor
 · intro v
   rw [evaluate,found]
   · exact rest.value v
   · exact several
 · rw [addressesRead,found,List.map_append,calls,rest.calls]
   · rfl
   · exact several

lemma follow_exec (size:path.pointerSize=4 ∨ path.pointerSize=8)
 (process:path.space.kind=.processVirtual → path.space.pid≠0)
 (ran:(follow path current offsets).Exec t r) (answers:∀e∈t,e.answer=env e.call) :
 Follows env path current.toNat offsets t r := by
 fun_induction follow path current offsets generalizing t with
 | case1 current =>
  obtain ⟨rfl,rfl⟩:=ran.of_pure
  refine ⟨fun v => ?_,rfl⟩
  rw [evaluate,Option.some.injEq,Except.ok.injEq,←UInt64.toNat_inj]
  omega
 | case2 current offset =>
  obtain ⟨rfl,rfl⟩:=ran.of_pure
  exact ⟨fun v=>last_iff,rfl⟩
 | case3 current offset offsets several ih =>
  obtain ⟨u,read,v,rfl,asked,ran⟩:=ran.of_bind
  obtain ⟨here,later⟩:=List.forall_mem_append.1 answers
  have calls:=readMemory_call process asked
  have same:=asked.eq_run here
  have pointer:pointerAt env path current.toNat=pointerOf path read:=by
   rw [pointerAt,Int.toNat_natCast,UInt64.ofNat_toNat,same]
  have stop {error:Error} (ended:(pure (.error error) : BackendM (Result UInt64)).Exec v r)
   (none:nextAddress env path current.toNat offset=none) :
   Follows env path current.toNat (offset::offsets) (u++v) r := by
   obtain ⟨rfl,rfl⟩:=ended.of_pure
   rw [List.append_nil]
   exact .stopped several calls none
  cases read with
  | error => exact stop ran (by rw [nextAddress,pointer];rfl)
  | ok bytes =>
   dsimp only at ran
   split at ran
   · rename_i short
     exact stop ran (by rw [nextAddress,pointer,pointerOf,if_neg short];rfl)
   rename_i full
   rw [pointerOf_full size (not_ne_iff.1 full)] at pointer
   split at ran
   · rename_i null
     rw [null] at pointer
     exact stop ran (by rw [nextAddress,pointer];rfl)
   rename_i filled
   have next:=nextAddress_eq "Pointer-path offset" offset pointer filled
   cases sum:addOffset "Pointer-path offset" path (UInt64.ofNat (ofLittleEndian bytes)) offset with
   | error =>
    rw [sum] at ran
    exact stop ran (by rw [next,sum])
   | ok address =>
    rw [sum] at ran
    exact .step several calls (by rw [next,sum]) (ih address ran later)

/-- No read is left out of an evaluation that gets to its end. -/
lemma length_addressesRead {place value:ℤ}
 (evaluated:evaluate env path place offsets=some value) :
 (addressesRead env path place offsets).length=offsets.length-1 := by
 fun_induction evaluate env path place offsets with
 | case1 => rfl
 | case2 => rfl
 | case3 => rfl
 | case4 place offset offsets several ih =>
  obtain ⟨next,found,rest⟩:=Option.bind_eq_some_iff.1 evaluated
  have some_offset:0 < offsets.length:=List.length_pos_iff.2 several
  rw [addressesRead,found]
  · simp only [List.length_cons,ih next rest]
    omega
  · exact several

/-- Paths that `Resolve` does not refuse before the first read. -/
structure Sound (path : AddressPointerPath) : Prop where
 size : path.pointerSize=4 ∨ path.pointerSize=8
 based : path.baseAddress≠0
 fits : (path.baseAddress.toNat : ℤ) ≤ maxAddress path
 depth : path.offsets.length≤32
 space : path.space.kind=.processVirtual ↔ path.space.pid≠0

lemma resolve_of_sound (sound:Sound path) :
 resolve path=follow path path.baseAddress path.offsets := by
 have fits:=sound.fits
 have depth:=sound.depth
 have wide : 0xFFFFFFFF < path.baseAddress ↔ 4294967295 < path.baseAddress.toNat :=
  UInt64.lt_iff_toNat_lt
 rw [resolve,if_neg,if_neg,if_neg,if_neg]
 · exact fun both=>sound.space.1 both.1 both.2
 · exact fun both=>both.1 (sound.space.2 both.2)
 · rintro (zero | deep | ⟨narrow,past⟩)
   · exact sound.based zero
   · rw [kMaxDepth] at deep
     omega
   · rw [maxAddress,if_pos narrow] at fits
     have := wide.1 past
     omega
 · exact fun both=>sound.size.elim both.1 both.2

end Paths

/-- Paths are resolved in exact arithmetic, with one read for each offset but the last. -/
theorem resolve_exact :
 (∀ (env : (c : BackendCall)→BackendAnswer c) (path : AddressPointerPath),Sound path →
  ∀ v : UInt64,(resolve path).run env=.ok v ↔
   evaluate env path path.baseAddress.toNat path.offsets=some (v.toNat : ℤ)) ∧
 (∀ (env : (c : BackendCall)→BackendAnswer c) (path : AddressPointerPath),Sound path →
  ∀ t r,(resolve path).Exec t r→(∀ e∈t,e.answer=env e.call) → t.map (·.call) =
   (addressesRead env path path.baseAddress.toNat path.offsets).map (readCall path)) ∧
 (∀ (env : (c : BackendCall)→BackendAnswer c) (path : AddressPointerPath),Sound path →
  ∀ t v,(resolve path).Exec t (.ok v)→(∀ e∈t,e.answer=env e.call) →
   t.length=path.offsets.length-1) := by
 refine ⟨?_,?_,?_⟩
 · intro env path sound
   obtain ⟨t,ran,answers⟩ := Prog.exec_run env (resolve path)
   rw [resolve_of_sound sound] at ran ⊢
   exact (follow_exec sound.size sound.space.1 ran answers).value
 · intro env path sound t r ran answers
   rw [resolve_of_sound sound] at ran
   exact (follow_exec sound.size sound.space.1 ran answers).calls
 · intro env path sound t v ran answers
   rw [resolve_of_sound sound] at ran
   have follows := follow_exec sound.size sound.space.1 ran answers
   rw [← length_addressesRead ((follows.value v).1 rfl)]
   simpa using congrArg List.length follows.calls

/-- At 0x1000 a pointer to 0x2000, everywhere else one to 0x3000. -/
def samplePointers : (c : BackendCall)→BackendAnswer c
 | .readProcessVirtual _ address _ => (.ok (littleEndian 8
  (if address=0x1000 then 0x2000 else 0x3000)) : Result (List UInt8))
 | .getPhysicalRanges => (.ok [] : Result (List PhysicalRange))
 | .readPhysical _ _ | .readKernelVirtual _ _ => (.ok [] : Result (List UInt8))
 | .setWriteEnabled _ => (.ok () : Result Unit)
 | .writePhysical _ _ | .writeProcessVirtual _ _ _ => (.ok 0 : Result UInt32)
 | .compareWritePhysicalPage _ _ _ => (.ok {} : Result PhysicalPageCompareWriteResult)

def samplePath : AddressPointerPath where
 space := { kind := .processVirtual,pid := 4 }
 baseAddress := 0x1000
 offsets := [0x10,-8,4]

theorem samplePath_resolved :
 ∃ t,(resolve samplePath).Exec t (.ok 0x2FFC) ∧
  t.map (·.call)=[.readProcessVirtual 4 0x1000 8,.readProcessVirtual 4 0x2010 8] ∧
  t.length=samplePath.offsets.length-1 := by
 have sound : Sound samplePath := ⟨by decide,by decide,by decide,by decide,by decide⟩
 have value := (resolve_exact.1 samplePointers samplePath sound 0x2FFC).2 (by decide +kernel)
 obtain ⟨t,ran,answers⟩ := Prog.exec_run samplePointers (resolve samplePath)
 rw [value] at ran
 have calls := resolve_exact.2.1 _ _ sound _ _ ran answers
 have places : addressesRead samplePointers samplePath samplePath.baseAddress.toNat
  samplePath.offsets=[0x1000,0x2010] := by decide +kernel
 rw [places] at calls
 exact ⟨t,ran,calls,resolve_exact.2.2 _ _ sound _ _ ran answers⟩

end KDbg.PointerResolver
