import Mathlib.Data.List.Nodup
import Mathlib.Data.List.Perm.Subperm
import Mathlib.Logic.Function.Basic
import Mathlib.Data.Int.Notation
import Mathlib.Data.Nat.Notation
set_option autoImplicit false
/-! A resource that one owner holds through any number of handles. A handle is flagged once when
its cleanup begins, subtracted from the count later, and freed after that; cleanups of different
handles interleave with each other and with new handles. -/
namespace ExclusiveOwner

variable {α:Type}

/-- Handles are numbered. `contexts` has the creator of a handle and its flag; `cleaning` has, for
 a request, the handle it cleans up and whether it has passed the subtraction. -/
@[ext] structure Desk (α : Type) where
 contexts : ℕ→Option (α×Bool)
 cleaning : ℕ→Option (ℕ×Bool)
 owner : Option α
 count : ℤ
 size : ℕ

inductive Move (α : Type) where
 | quiet
 | grant (file : ℕ) (creator : α)
 | subtract (file : ℕ)

inductive Desk.Step (d:Desk α) : Move α→Desk α→Prop where
 | quiet : d.Step .quiet d
 | refuse : d.Step .quiet { d with size := d.size+1 }
 | grant (creator:α) (free:d.owner=none ∨ d.owner=some creator) :
  d.Step (.grant d.size creator)
   { d with
     contexts := Function.update d.contexts d.size (some (creator,false))
     owner := some creator
     count := d.count+1
     size := d.size+1 }
 | flag (file id:ℕ) (creator:α) (clear:d.contexts file=some (creator,false))
  (idle:d.cleaning id=none) :
  d.Step .quiet
   { d with
     contexts := Function.update d.contexts file (some (creator,true))
     cleaning := Function.update d.cleaning id (some (file,false)) }
 | drop (file id:ℕ) (creator:α) (set:d.contexts file=some (creator,true))
  (idle:d.cleaning id=none) :
  d.Step .quiet { d with cleaning := Function.update d.cleaning id (some (file,true)) }
 | subtract (file id:ℕ) (closing:Bool) (waits:d.cleaning id=some (file,false)) :
  d.Step (.subtract file)
   { d with
     cleaning := Function.update d.cleaning id (if closing then some (file,true) else none)
     owner := if d.count-1=0 then none else d.owner
     count := d.count-1 }
 | free (file id:ℕ) (waits:d.cleaning id=some (file,true))
  (alone:∀ id' p,d.cleaning id'=some p → p.1=file → id'=id) :
  d.Step .quiet
   { d with
     contexts := Function.update d.contexts file none
     cleaning := Function.update d.cleaning id none }

def Move.created : Move α→List (ℕ×α)
 | .grant file creator => [(file,creator)]
 | _ => []

def Move.subtracted : Move α→List ℕ
 | .subtract file => [file]
 | _ => []

/-- The handles that were admitted and are not subtracted yet. -/
def outstanding (created : List (ℕ×α)) (subtracted : List ℕ) : List (ℕ×α) :=
 created.filter fun p=>decide (p.1 ∉ subtracted)

variable {created:List (ℕ×α)} {subtracted:List ℕ} {file:ℕ} {creator:α} {d d':Desk α}

lemma mem_outstanding {p:ℕ×α} :
 p∈outstanding created subtracted ↔ p∈created ∧ p.1 ∉ subtracted := by
 rw [outstanding,List.mem_filter,decide_eq_true_eq]

lemma outstanding_grant (fresh:file ∉ subtracted) :
 outstanding (created++[(file,creator)]) subtracted =
  outstanding created subtracted++[(file,creator)] := by
 simp [outstanding,List.filter_append,fresh]

lemma outstanding_subtract :
 outstanding created (subtracted++[file]) =
  (outstanding created subtracted).filter fun p=>decide (p.1≠file) := by
 simp only [outstanding,List.filter_filter,List.mem_append,List.mem_singleton,not_or]
 refine List.filter_congr fun p _ => ?_
 rw [←Bool.decide_and]
 exact decide_eq_decide.2 and_comm

lemma length_filter_ne {list:List (ℕ×α)} (distinct:(list.map Prod.fst).Nodup)
 (mem:(file,creator)∈list) :
 (list.filter fun p=>decide (p.1≠file)).length=list.length-1 := by
 obtain ⟨before,after,rfl⟩:=List.append_of_mem mem
 rw [List.map_append,List.map_cons,List.nodup_middle,List.nodup_cons] at distinct
 have others:∀p∈before++after,decide (p.1≠file)=true:=by
  intro p here
  refine decide_eq_true fun same=>distinct.1 ?_
  rw [←List.map_append]
  exact List.mem_map.2 ⟨p,here,same⟩
 rw [List.filter_append,List.filter_cons_of_neg (by simp),←List.filter_append,
  List.filter_eq_self.2 others]
 simp

lemma update_eq_some {β:Type} {f:ℕ→Option β} {i j:ℕ} {value:Option β} {b:β} :
 Function.update f i value j=some b ↔ (j=i ∧ value=some b) ∨ (j≠i ∧ f j=some b) := by
 rw [Function.update_apply]
 split <;> simp [*]

/-- What holds of a desk after the handles `created` were admitted and `subtracted` were
 subtracted. -/
structure Ledger (created : List (ℕ×α)) (subtracted : List ℕ) (d : Desk α) : Prop where
 numbered : ∀ p∈created,p.1 < d.size
 distinct : (created.map Prod.fst).Nodup
 live : ∀ file creator flag,d.contexts file=some (creator,flag)→(file,creator)∈created
 clear : ∀ file creator,d.contexts file=some (creator,false) → file ∉ subtracted
 flagged : ∀ id file passed,d.cleaning id=some (file,passed) →
  ∃ creator,d.contexts file=some (creator,true)
 waiting : ∀ id file,d.cleaning id=some (file,false) → file ∉ subtracted
 single : ∀ id id' file,d.cleaning id=some (file,false) →
  d.cleaning id'=some (file,false) → id=id'
 settled : ∀ file creator,(file,creator)∈created →
  d.contexts file≠some (creator,false)→(∀ id,d.cleaning id≠some (file,false)) →
   file∈subtracted
 admitted : ∀ file∈subtracted,∃ creator,(file,creator)∈created
 once : subtracted.Nodup
 counted : d.count=(outstanding created subtracted).length
 empty : d.owner=none ↔ d.count=0
 creator : ∀ p∈outstanding created subtracted,d.owner=some p.2

namespace Ledger

lemma start : Ledger [] [] (⟨fun _=>none,fun _=>none,none,0,0⟩ : Desk α) := by
 constructor <;> simp [outstanding]

lemma creator_unique (ledger:Ledger created subtracted d) {other:α}
 (mem:(file,creator)∈created) (mem':(file,other)∈created) : other=creator :=
 congrArg Prod.snd (List.inj_on_of_nodup_map ledger.distinct mem' mem rfl)

lemma fresh (ledger:Ledger created subtracted d) : d.size ∉ subtracted := by
 intro mem
 obtain ⟨_,found⟩:=ledger.admitted _ mem
 exact absurd (ledger.numbered _ found) (Nat.lt_irrefl _)

/-- A handle that is not subtracted yet still has its context. -/
lemma context_of_outstanding (ledger:Ledger created subtracted d)
 (mem:(file,creator)∈outstanding created subtracted) :
 ∃ flag,d.contexts file=some (creator,flag) := by
 obtain ⟨found,pending⟩:=mem_outstanding.1 mem
 by_contra gone
 refine pending (ledger.settled file creator found (fun held=>gone ⟨false,held⟩) ?_)
 intro id waits
 obtain ⟨_,held⟩:=ledger.flagged id file false waits
 rw [ledger.creator_unique found (ledger.live _ _ _ held)] at held
 exact gone ⟨true,held⟩

lemma exists_context_of_owner (ledger:Ledger created subtracted d) {owner:α}
 (held:d.owner=some owner) : ∃ file flag,d.contexts file=some (owner,flag) := by
 have positive:outstanding created subtracted≠[]:=by
  intro none
  rw [ledger.empty.2 (by rw [ledger.counted,none];rfl)] at held
  cases held
 obtain ⟨⟨file,_⟩,mem⟩:=List.exists_mem_of_ne_nil _ positive
 obtain ⟨flag,found⟩:=ledger.context_of_outstanding mem
 cases (ledger.creator _ mem).symm.trans held
 exact ⟨file,flag,found⟩

/-- A handle whose cleanup has not come to the subtraction is counted. -/
lemma count_pos (ledger:Ledger created subtracted d) {id:ℕ}
 (waits:d.cleaning id=some (file,false)) : 0 < d.count := by
 obtain ⟨creator,held⟩:=ledger.flagged _ _ _ waits
 have mem:=mem_outstanding.2 ⟨ledger.live _ _ _ held,ledger.waiting _ _ waits⟩
 have positive:=List.length_pos_of_mem mem
 rw [ledger.counted]
 omega

lemma count_le (ledger:Ledger created subtracted d) {live:List ℕ}
 (all:∀file,(d.contexts file).isSome → file∈live) : d.count ≤ live.length := by
 have distinct : ((outstanding created subtracted).map Prod.fst).Nodup :=
  ledger.distinct.sublist (List.filter_sublist.map _)
 have among:(outstanding created subtracted).map Prod.fst ⊆ live:=by
  intro file mem
  obtain ⟨⟨_,_⟩,found,rfl⟩:=List.mem_map.1 mem
  obtain ⟨_,held⟩:=ledger.context_of_outstanding found
  exact all _ (by rw [held];rfl)
 have most:=(List.subperm_of_subset distinct among).length_le
 rw [List.length_map] at most
 rw [ledger.counted]
 exact Int.ofNat_le.2 most

/-- Two handles that are not flagged have the same creator. -/
lemma exclusive (ledger:Ledger created subtracted d) {file':ℕ} {creator':α}
 (clear:d.contexts file=some (creator,false))
 (clear':d.contexts file'=some (creator',false)) : creator=creator' := by
 have mem:=mem_outstanding.2 ⟨ledger.live _ _ _ clear,ledger.clear _ _ clear⟩
 have mem' := mem_outstanding.2 ⟨ledger.live _ _ _ clear',ledger.clear _ _ clear'⟩
 exact Option.some.inj ((ledger.creator _ mem).symm.trans (ledger.creator _ mem'))

/-- A handle is subtracted exactly when it is flagged and no cleanup of it is on its way. -/
lemma mem_subtracted_iff (ledger:Ledger created subtracted d)
 (mem:(file,creator)∈created) :
 file∈subtracted ↔ d.contexts file≠some (creator,false) ∧
  ∀id,d.cleaning id≠some (file,false) := by
 constructor
 · intro gone
   exact ⟨fun clear=>ledger.clear _ _ clear gone,fun id waits=>ledger.waiting id _ waits gone⟩
 · rintro ⟨set,gone⟩
   exact ledger.settled file creator mem set gone

lemma refuse (ledger:Ledger created subtracted d) :
 Ledger created subtracted { d with size := d.size+1 } :=
 { ledger with numbered := fun p mem=>Nat.lt_succ_of_lt (ledger.numbered p mem) }

lemma grant (ledger:Ledger created subtracted d)
 (free:d.owner=none ∨ d.owner=some creator) :
 Ledger (created++[(d.size,creator)]) subtracted
  { d with
    contexts := Function.update d.contexts d.size (some (creator,false))
    owner := some creator
    count := d.count+1
    size := d.size+1 } := by
 have unused {p:ℕ×α} (mem:p∈created) : p.1≠d.size := Nat.ne_of_lt (ledger.numbered p mem)
 have contexts {file:ℕ} {creator':α} {flag:Bool}
  (held:Function.update d.contexts d.size (some (creator,false)) file =
   some (creator',flag)) :
  (file=d.size ∧ creator'=creator ∧ flag=false) ∨
   d.contexts file=some (creator',flag) := by
  rcases update_eq_some.1 held with ⟨same,value⟩|⟨-,held⟩
  · cases value
    exact .inl ⟨same,rfl,rfl⟩
  · exact .inr held
 have kept {file:ℕ} {creator':α} {flag:Bool}
  (held:d.contexts file=some (creator',flag)) :
  Function.update d.contexts d.size (some (creator,false)) file=some (creator',flag) := by
  rw [Function.update_of_ne (unused (ledger.live _ _ _ held)),held]
 refine ⟨?_,?_,?_,?_,?_,ledger.waiting,ledger.single,?_,?_,ledger.once,?_,?_,?_⟩
 · intro p mem
   rcases List.mem_append.1 mem with earlier|new
   · exact Nat.lt_succ_of_lt (ledger.numbered p earlier)
   · rw [List.mem_singleton.1 new]
     exact Nat.lt_succ_self _
 · rw [List.map_append,List.map_singleton,←List.concat_eq_append,List.nodup_concat]
   refine ⟨fun mem => ?_,ledger.distinct⟩
   obtain ⟨p,earlier,same⟩:=List.mem_map.1 mem
   exact unused earlier same
 · intro _ _ _ held
   rcases contexts held with ⟨rfl,rfl,rfl⟩|held
   · exact List.mem_append_right _ List.mem_cons_self
   · exact List.mem_append_left _ (ledger.live _ _ _ held)
 · intro _ _ held
   rcases contexts held with ⟨rfl,-,-⟩|held
   · exact ledger.fresh
   · exact ledger.clear _ _ held
 · intro id file passed waits
   obtain ⟨creator',held⟩:=ledger.flagged id file passed waits
   exact ⟨creator',kept held⟩
 · intro file creator' mem set gone
   rcases List.mem_append.1 mem with earlier|new
   · refine ledger.settled file creator' earlier (fun held=>set (kept held)) gone
   · cases List.mem_singleton.1 new
     exact absurd (Function.update_self _ _ _) set
 · intro file gone
   obtain ⟨creator',mem⟩:=ledger.admitted file gone
   exact ⟨creator',List.mem_append_left _ mem⟩
 · rw [outstanding_grant ledger.fresh,List.length_append,ledger.counted]
   rfl
 · have count:=ledger.counted
   refine iff_of_false (Option.some_ne_none _) ?_
   change d.count+1≠0
   omega
 · intro p mem
   rw [outstanding_grant ledger.fresh] at mem
   rcases List.mem_append.1 mem with earlier|new
   · have held:=ledger.creator p earlier
     rcases free with none|same
     · cases none.symm.trans held
     · exact same.symm.trans held
   · rw [List.mem_singleton.1 new]

lemma flag (ledger:Ledger created subtracted d) (id:ℕ)
 (clear:d.contexts file=some (creator,false)) (idle:d.cleaning id=none) :
 Ledger created subtracted
  { d with
    contexts := Function.update d.contexts file (some (creator,true))
    cleaning := Function.update d.cleaning id (some (file,false)) } := by
 have uncleaned {id':ℕ} {passed:Bool} : d.cleaning id'≠some (file,passed) := by
  intro waits
  obtain ⟨_,held⟩:=ledger.flagged _ _ _ waits
  cases held.symm.trans clear
 have cleaning {id' file':ℕ} {passed:Bool}
  (waits:Function.update d.cleaning id (some (file,false)) id'=some (file',passed)) :
  (id'=id ∧ file'=file) ∨ d.cleaning id'=some (file',passed) ∧ file'≠file := by
  rcases update_eq_some.1 waits with ⟨same,value⟩|⟨-,kept⟩
  · cases value
    exact .inl ⟨same,rfl⟩
  · refine .inr ⟨kept,?_⟩
    rintro rfl
    exact uncleaned kept
 have contexts {file':ℕ} (other:file'≠file) :
  Function.update d.contexts file (some (creator,true)) file'=d.contexts file' :=
  Function.update_of_ne other _ _
 have here : Function.update d.contexts file (some (creator,true)) file=some (creator,true) :=
  Function.update_self _ _ _
 refine
  { ledger with
    live := ?_
    clear := ?_
    flagged := ?_
    waiting := ?_
    single := ?_
    settled := ?_ }
 · intro file' _ _ held
   by_cases same:file'=file
   · subst same
     cases here.symm.trans held
     exact ledger.live _ _ _ clear
   · exact ledger.live _ _ _ ((contexts same).symm.trans held)
 · intro file' _ held
   by_cases same:file'=file
   · subst same
     cases here.symm.trans held
   · exact ledger.clear _ _ ((contexts same).symm.trans held)
 · intro _ _ _ waits
   rcases cleaning waits with ⟨-,rfl⟩|⟨waits,other⟩
   · exact ⟨creator,here⟩
   · obtain ⟨creator',held⟩:=ledger.flagged _ _ _ waits
     exact ⟨creator',(contexts other).trans held⟩
 · intro _ _ waits
   rcases cleaning waits with ⟨-,rfl⟩|⟨waits,-⟩
   · exact ledger.clear _ _ clear
   · exact ledger.waiting _ _ waits
 · intro _ _ _ waits waits'
   rcases cleaning waits with ⟨rfl,rfl⟩|⟨waits,other⟩
   · rcases cleaning waits' with ⟨rfl,-⟩|⟨-,other⟩
     · rfl
     · exact absurd rfl other
   · rcases cleaning waits' with ⟨-,same⟩|⟨waits',-⟩
     · exact absurd same other
     · exact ledger.single _ _ _ waits waits'
 · intro file' creator' mem set gone
   by_cases same:file'=file
   · subst same
     exact absurd (Function.update_self _ _ _) (gone id)
   · refine ledger.settled file' creator' mem (fun clear' => set ((contexts same).trans clear'))
      fun id' waits=>gone id' ?_
     refine update_eq_some.2 (.inr ⟨?_,waits⟩)
     rintro rfl
     cases idle.symm.trans waits

lemma drop (ledger:Ledger created subtracted d) (id:ℕ)
 (set:d.contexts file=some (creator,true)) (idle:d.cleaning id=none) :
 Ledger created subtracted
  { d with cleaning := Function.update d.cleaning id (some (file,true)) } := by
 have waits_iff {id' file':ℕ} :
  Function.update d.cleaning id (some (file,true)) id'=some (file',false) ↔
   d.cleaning id'=some (file',false) := by
  rw [update_eq_some]
  constructor
  · rintro (⟨-,value⟩ | ⟨-,waits⟩)
    · cases value
    · exact waits
  · intro waits
    refine .inr ⟨?_,waits⟩
    rintro rfl
    cases idle.symm.trans waits
 refine
  { ledger with
    flagged := ?_
    waiting := ?_
    single := ?_
    settled := ?_ }
 · intro _ _ _ waits
   rcases update_eq_some.1 waits with ⟨-,value⟩|⟨-,waits⟩
   · cases value
     exact ⟨creator,set⟩
   · exact ledger.flagged _ _ _ waits
 · intro _ _ waits
   exact ledger.waiting _ _ (waits_iff.1 waits)
 · intro _ _ _ waits waits'
   exact ledger.single _ _ _ (waits_iff.1 waits) (waits_iff.1 waits')
 · intro file' creator' mem set' gone
   exact ledger.settled file' creator' mem set' fun id' waits=>gone id' (waits_iff.2 waits)

lemma subtract (ledger:Ledger created subtracted d) {id:ℕ} (closing:Bool)
 (waits:d.cleaning id=some (file,false)) :
 Ledger created (subtracted++[file])
  { d with
    cleaning := Function.update d.cleaning id (if closing then some (file,true) else none)
    owner := if d.count-1=0 then none else d.owner
    count := d.count-1 } := by
 obtain ⟨creator,held⟩:=ledger.flagged _ _ _ waits
 have created_:=ledger.live _ _ _ held
 have pending:=ledger.waiting _ _ waits
 have mem:=mem_outstanding.2 ⟨created_,pending⟩
 have positive:=ledger.count_pos waits
 have distinct : ((outstanding created subtracted).map Prod.fst).Nodup :=
  ledger.distinct.sublist (List.filter_sublist.map _)
 have waits_iff {id' file':ℕ} :
  Function.update d.cleaning id (if closing then some (file,true) else none) id' =
   some (file',false) ↔ id'≠id ∧ d.cleaning id'=some (file',false) := by
  rw [update_eq_some]
  cases closing <;> simp
 refine
  { ledger with
    clear := ?_
    flagged := ?_
    waiting := ?_
    single := ?_
    settled := ?_
    admitted := ?_
    once := ?_
    counted := ?_
    empty := ?_
    creator := ?_ }
 · intro _ _ clear gone
   rcases List.mem_append.1 gone with earlier|now
   · exact ledger.clear _ _ clear earlier
   · rw [List.mem_singleton.1 now] at clear
     cases held.symm.trans clear
 · intro _ _ _ waits'
   rcases update_eq_some.1 waits' with ⟨-,value⟩|⟨-,waits'⟩
   · cases closing
     · cases value
     · cases value
       exact ⟨creator,held⟩
   · exact ledger.flagged _ _ _ waits'
 · intro _ _ waits' gone
   obtain ⟨other,waits'⟩:=waits_iff.1 waits'
   rcases List.mem_append.1 gone with earlier|now
   · exact ledger.waiting _ _ waits' earlier
   · rw [List.mem_singleton.1 now] at waits'
     exact other (ledger.single _ _ _ waits' waits)
 · intro _ _ _ waits' waits''
   exact ledger.single _ _ _ (waits_iff.1 waits').2 (waits_iff.1 waits'').2
 · intro file' creator' mem' set gone
   by_cases same:file'=file
   · rw [same]
     exact List.mem_append_right _ List.mem_cons_self
   · refine List.mem_append_left _ (ledger.settled file' creator' mem' set fun id' waits' => ?_)
     refine gone id' (waits_iff.2 ⟨?_,waits'⟩)
     rintro rfl
     cases waits'.symm.trans waits
     exact same rfl
 · intro _ gone
   rcases List.mem_append.1 gone with earlier|now
   · exact ledger.admitted _ earlier
   · rw [List.mem_singleton.1 now]
     exact ⟨creator,created_⟩
 · rw [←List.concat_eq_append,List.nodup_concat]
   exact ⟨pending,ledger.once⟩
 · have count:=ledger.counted
   rw [outstanding_subtract,length_filter_ne distinct mem]
   change d.count-1=_
   omega
 · rw [ledger.creator _ mem]
   split <;> simp [*]
 · intro p left
   rw [outstanding_subtract] at left
   have nonempty:=List.length_pos_of_mem left
   have count:=ledger.counted
   rw [length_filter_ne distinct mem] at nonempty
   change (if d.count-1=0 then none else d.owner)=_
   rw [if_neg (by omega)]
   exact ledger.creator p (List.mem_filter.1 left).1

lemma free (ledger:Ledger created subtracted d) {id:ℕ}
 (waits:d.cleaning id=some (file,true))
 (alone:∀id' p,d.cleaning id'=some p → p.1=file → id'=id) :
 Ledger created subtracted
  { d with
    contexts := Function.update d.contexts file none
    cleaning := Function.update d.cleaning id none } := by
 obtain ⟨_,held⟩:=ledger.flagged _ _ _ waits
 have contexts {file':ℕ} {value:α×Bool}
  (kept:Function.update d.contexts file none file'=some value) :
  d.contexts file'=some value := by
  rcases update_eq_some.1 kept with ⟨-,value⟩|⟨-,kept⟩
  · cases value
  · exact kept
 have cleaning {id':ℕ} {p:ℕ×Bool}
  (kept:Function.update d.cleaning id none id'=some p) :
  id'≠id ∧ d.cleaning id'=some p := by
  rcases update_eq_some.1 kept with ⟨-,value⟩|kept
  · cases value
  · exact kept
 have uncleaned {id':ℕ} : d.cleaning id'≠some (file,false) := by
  intro waits'
  rw [alone id' _ waits' rfl,waits] at waits'
  cases waits'
 refine
  { ledger with
    live := ?_
    clear := ?_
    flagged := ?_
    waiting := ?_
    single := ?_
    settled := ?_ }
 · exact fun _ _ _ kept=>ledger.live _ _ _ (contexts kept)
 · exact fun _ _ kept=>ledger.clear _ _ (contexts kept)
 · intro id' _ _ kept
   obtain ⟨other,waits'⟩:=cleaning kept
   obtain ⟨creator',held'⟩:=ledger.flagged _ _ _ waits'
   refine ⟨creator',?_⟩
   refine update_eq_some.2 (.inr ⟨?_,held'⟩)
   rintro rfl
   exact other (alone id' _ waits' rfl)
 · exact fun _ _ kept=>ledger.waiting _ _ (cleaning kept).2
 · exact fun _ _ _ kept kept' => ledger.single _ _ _ (cleaning kept).2 (cleaning kept').2
 · intro file' creator' mem set gone
   by_cases same:file'=file
   · subst same
     refine ledger.settled _ creator' mem (fun clear => ?_) fun _=>uncleaned
     cases held.symm.trans clear
   · refine ledger.settled file' creator' mem (fun clear=>set ?_) fun id' waits' => gone id' ?_
     · exact update_eq_some.2 (.inr ⟨same,clear⟩)
     · refine update_eq_some.2 (.inr ⟨?_,waits'⟩)
       rintro rfl
       cases waits'.symm.trans waits

lemma step {move:Move α} (ledger:Ledger created subtracted d) (h:d.Step move d') :
 Ledger (created++move.created) (subtracted++move.subtracted) d' := by
 cases h with
 | quiet => simpa only [Move.created,Move.subtracted,List.append_nil] using ledger
 | refuse => simpa only [Move.created,Move.subtracted,List.append_nil] using ledger.refuse
 | grant _ free =>
  simpa only [Move.created,Move.subtracted,List.append_nil] using ledger.grant free
 | flag _ id _ clear idle =>
  simpa only [Move.created,Move.subtracted,List.append_nil] using ledger.flag id clear idle
 | drop _ id _ set idle =>
  simpa only [Move.created,Move.subtracted,List.append_nil] using ledger.drop id set idle
 | subtract _ _ closing waits =>
  simpa only [Move.created,Move.subtracted,List.append_nil] using ledger.subtract closing waits
 | free _ _ waits alone =>
  simpa only [Move.created,Move.subtracted,List.append_nil] using ledger.free waits alone

end Ledger
end ExclusiveOwner
