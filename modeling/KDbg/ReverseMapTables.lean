import KDbg.ReverseMapEntries
set_option autoImplicit false
/-! What a walk of the reverse mapper over the tables does to the state of a
query: which mappings it adds, and that it leaves the path of active tables as
it found it. -/
namespace KDbg
open Interaction

namespace PageTableReverseMapper

/-- Every key that counts as seen is that of a mapping. -/
def Scan.Consistent (s : Scan) : Prop :=
 ∀ key∈s.seenMappings,∃ usage∈s.mappings,keyOf usage=key

inductive Appended (usage:ProcessUsage) (s:Scan) : Result Unit×Scan→Prop where
 | seen (mem:keyOf usage∈s.seenMappings) : Appended usage s (.ok (),s)
 | full (error:Error) (code:error.code=.limitReached) : Appended usage s (.error error,s)
 | added (after:Scan) (mappings:after.mappings=s.mappings++[usage])
  (seen:after.seenMappings=keyOf usage::s.seenMappings)
  (path:after.activePath=s.activePath) : Appended usage s (.ok (),after)

lemma appendMapping_appended (limits:ReverseMapLimits) (usage:ProcessUsage) (s:Scan) :
 Appended usage s (appendMapping limits usage s) := by
 unfold appendMapping
 split
 · rename_i mem
   exact .seen mem
 · split
   · exact .full _ rfl
   · exact .added _ rfl rfl rfl

/-- One state of a query follows another: no mapping is lost. -/
structure Grows (s after : Scan) : Prop where
 mappings : s.mappings ⊆ after.mappings
 consistent : s.Consistent → after.Consistent

namespace Grows
variable {s after last:Scan}

lemma refl (s:Scan) : Grows s s := ⟨List.Subset.refl _,id⟩

lemma trans (first:Grows s after) (second:Grows after last) : Grows s last :=
 ⟨List.Subset.trans first.mappings second.mappings,second.consistent ∘ first.consistent⟩

lemma of_eq (mappings:after.mappings=s.mappings)
 (seen:after.seenMappings=s.seenMappings) :
 Grows s after := by
 refine ⟨mappings ▸ List.Subset.refl _,?_⟩
 unfold Scan.Consistent
 rw [mappings,seen]
 exact id

end Grows

section
variable (limits : ReverseMapLimits) (target : ProcessScanTarget) (targetPfn : UInt64) (level : ℕ)
 (nested : TableWalk) (tablePfn : UInt64) (above : Effective)

inductive TableVisit (s:Scan) : List ReverseMapEvent→Result Unit×Scan→Prop where
 | failed (error:Error) (t:List ReverseMapEvent)
  (code:error.code=.limitReached ∨ error.code=.cancelled) :
  TableVisit s t (.error error,s)
 | active (t:List ReverseMapEvent) (mem:tablePfn∈s.activePath) :
  TableVisit s t (.ok (),s)
 | beyond (t:List ReverseMapEvent) (big:maxUInt64 >>> 12 < tablePfn) :
  TableVisit s t (.ok (),s)
 | unread {stopped:Bool} {read:Result (List UInt8)} {result:Result Unit} (count:ℕ)
  (none:tablePage limits read=.error result) :
  TableVisit s
   [⟨.stopRequested,stopped⟩,⟨.readPhysical (tablePfn <<< 12) 0x1000,read⟩]
   (result,{ s with tablePagesRead := count })
 | read {stopped:Bool} {page:List UInt8} {t:List ReverseMapEvent} {result:Result Unit}
  {after:Scan} (count:ℕ) (whole:page.length=0x1000)
  (fresh:tablePfn ∉ s.activePath)
  (ran:(visitEntries limits target targetPfn level nested tablePfn above page (List.range 512)
   { s.enter tablePfn with tablePagesRead := count }).Exec t (result,after)) :
  TableVisit s
   (⟨.stopRequested,stopped⟩ ::
    ⟨.readPhysical (tablePfn <<< 12) 0x1000, .ok page⟩::t)
   (result,if result.isOk then after.leave tablePfn else after)

inductive EntryVisits (page:List UInt8) :
 List ℕ→Scan→List ReverseMapEvent→Result Unit×Scan→Prop where
 | nil (s:Scan) :
  EntryVisits page [] s [] (.ok (),s)
 | stop {index:ℕ} {rest:List ℕ} {s after:Scan} {t:List ReverseMapEvent} {error:Error}
  (turn:EntryVisit limits target targetPfn level nested tablePfn above index
   (entryAt page index) s t (.error error,after)) :
  EntryVisits page (index::rest) s t (.error error,after)
 | next {index:ℕ} {rest:List ℕ} {s after:Scan} {t u:List ReverseMapEvent}
  {out:Result Unit×Scan}
  (turn:EntryVisit limits target targetPfn level nested tablePfn above index
   (entryAt page index) s t (.ok (),after))
  (later:EntryVisits page rest after u out) :
  EntryVisits page (index::rest) s (t++u) out

end

variable {usage:ProcessUsage}

section
variable {s:Scan} {out:Result Unit×Scan} {limits:ReverseMapLimits}
 {target:ProcessScanTarget} {entryPa nextPfn tablePfn targetPfn:UInt64} {level:ℕ}
 {page:List UInt8} {above:Effective}
 {nested:TableWalk} {t:List ReverseMapEvent}
 {result:Result Unit}

lemma Appended.grows (appended:Appended usage s out) : Grows s out.2 := by
 cases appended with
 | seen | full => exact .refl s
 | added _ mappings seen =>
  refine ⟨mappings ▸ List.subset_append_left _ _,?_⟩
  intro consistent key mem
  rw [seen] at mem
  rcases List.mem_cons.1 mem with rfl|earlier
  · exact ⟨usage,by rw [mappings];simp,rfl⟩
  · obtain ⟨other,kept,same⟩:=consistent key earlier
    exact ⟨other,by rw [mappings];exact List.mem_append_left _ kept,same⟩

lemma Appended.path (appended:Appended usage s out) : out.2.activePath=s.activePath := by
 cases appended with
 | seen | full => rfl
 | added _ _ _ path => exact path

/-- A mapping that was accepted is reported, or one with the same key is. -/
lemma Appended.reported {after:Scan} (appended:Appended usage s (.ok (),after))
 (consistent:s.Consistent) : ∃ other∈after.mappings,keyOf other=keyOf usage := by
 cases appended with
 | seen mem => exact consistent _ mem
 | added _ mappings => exact ⟨usage,by rw [mappings];simp,rfl⟩

lemma tableMapping_appended {here:Effective} :
 tableMapping limits target targetPfn nextPfn level entryPa here s=(.ok (),s) ∨
  Appended (entryUsage target here.virtualPrefix entryPa kPageSize (nextTableName level) .medium
   here) s (tableMapping limits target targetPfn nextPfn level entryPa here s) := by
 unfold tableMapping
 split
 · exact .inr (appendMapping_appended _ _ _)
 · exact .inl rfl

lemma leave_enter (s:Scan) (tablePfn:UInt64) : (s.enter tablePfn).leave tablePfn=s := by
 unfold Scan.leave Scan.enter
 rw [List.erase_cons_head]

lemma tablePage_ok {read:Result (List UInt8)} (h:tablePage limits read=.ok page) :
 read=.ok page ∧ page.length=0x1000 := by
 unfold tablePage at h
 split at h
 · cases h
 · split at h
   · cases h
   · rename_i whole
     cases h
     exact ⟨rfl,not_not.1 whole⟩

lemma walkTable_exec
 (ran:(walkTable limits target targetPfn level nested tablePfn above s).Exec t out) :
 TableVisit limits target targetPfn level nested tablePfn above s t out := by
 obtain ⟨_,u,rfl,rest⟩:=ran.of_ask
 split at rest
 · obtain ⟨rfl,rfl⟩:=rest.of_pure
   exact .failed _ _ (.inr rfl)
 split at rest
 · rename_i mem
   obtain ⟨rfl,rfl⟩:=rest.of_pure
   exact .active _ mem
 rename_i fresh
 split at rest
 · obtain ⟨rfl,rfl⟩:=rest.of_pure
   rw [leave_enter]
   exact .failed _ _ (.inl rfl)
 split at rest
 · rename_i big
   obtain ⟨rfl,rfl⟩:=rest.of_pure
   rw [leave_enter]
   exact .beyond _ big
 obtain ⟨read,v,rfl,body⟩:=rest.of_ask
 cases page:tablePage limits read with
 | error =>
  simp only [page] at body
  obtain ⟨rfl,rfl⟩:=body.of_pure
  have left : ({ s.enter tablePfn with tablePagesRead := s.tablePagesRead+1 } : Scan).leave
   tablePfn={ s with tablePagesRead := s.tablePagesRead+1 } := by
   simp [Scan.leave,Scan.enter]
  rw [left]
  exact .unread _ page
 | ok =>
  obtain ⟨rfl,whole⟩:=tablePage_ok page
  simp only [page] at body
  obtain ⟨w,⟨result,_⟩,x,rfl,visited,last⟩:=body.of_bind
  cases result with
  | error | ok =>
   obtain ⟨rfl,rfl⟩:=last.of_pure
   rw [List.append_nil]
   exact .read _ whole fresh visited

lemma visitEntries_exec (low:1 ≤ level) (high:level≤5) {indices:List ℕ}
 (ran:(visitEntries limits target targetPfn level nested tablePfn above page indices s).Exec t
  out) :
 EntryVisits limits target targetPfn level nested tablePfn above page indices s t out := by
 induction indices generalizing s t with
 | nil =>
  obtain ⟨rfl,rfl⟩:=ran.of_pure
  exact .nil s
 | cons _ _ ih =>
  obtain ⟨u,⟨result,_⟩,v,rfl,turn,body⟩:=ran.of_bind
  have visit:=visitEntry_exec low high turn
  cases result with
  | error =>
   obtain ⟨rfl,rfl⟩:=body.of_pure
   rw [List.append_nil]
   exact .stop visit
  | ok => exact .next visit (ih body)

/-- The errors that end a query whatever its limits say of failed reads. -/
def Ends (limits : ReverseMapLimits) (result : Result Unit) : Prop :=
 ∀ error,result=.error error → limits.continueOnReadError=true →
  error.code=.limitReached ∨ error.code=.cancelled

lemma ends_ok (limits:ReverseMapLimits) : Ends limits (.ok ()) :=
 fun _ failed=>nomatch failed

lemma ends_error {error:Error} (code:error.code=.limitReached ∨ error.code=.cancelled) :
 Ends limits (.error error) := by
 intro _ same _
 cases same
 exact code

lemma tablePage_ends {read:Result (List UInt8)} (none:tablePage limits read=.error result) :
 Ends limits result := by
 intro _ failed continues
 subst failed
 unfold tablePage at none
 rw [continues] at none
 split at none
 · cases none
 · split at none
   · cases none
   · cases none

/-- A step of the walk loses no mapping; when it succeeds the active path is as before, and when it
 fails the query ends. -/
structure Keeps (limits : ReverseMapLimits) (s : Scan) (out : Result Unit×Scan) : Prop where
 grows : Grows s out.2
 path : out.1=.ok () → out.2.activePath=s.activePath
 ends : Ends limits out.1

lemma Keeps.refl (s:Scan) (ends:Ends limits result) : Keeps limits s (result,s) :=
 ⟨.refl s,fun _=>rfl,ends⟩

lemma Appended.keeps (limits:ReverseMapLimits) (appended:Appended usage s out) :
 Keeps limits s out := by
 refine ⟨appended.grows,fun _=>appended.path,?_⟩
 cases appended with
 | seen | added => exact ends_ok limits
 | full _ code => exact ends_error (.inl code)

lemma tableMapping_keeps {here:Effective}
 (mapped:tableMapping limits target targetPfn nextPfn level entryPa here s=out) :
 Keeps limits s out := by
 subst mapped
 rcases tableMapping_appended with same|appended
 · rw [same]
   exact .refl s (ends_ok limits)
 · exact appended.keeps limits

end

section Keeps
variable {limits:ReverseMapLimits} {target:ProcessScanTarget} {targetPfn tablePfn:UInt64}
 {level:ℕ} {nested:TableWalk}
 {above:Effective} {s:Scan} {t:List ReverseMapEvent} {out:Result Unit×Scan}

lemma EntryVisit.keeps {index:ℕ} {entry:UInt64}
 (inner:∀{pfn here s t out},(nested pfn here s).Exec t out→Keeps limits s out)
 (visit:EntryVisit limits target targetPfn level nested tablePfn above index entry s t out) :
 Keeps limits s out := by
 cases visit with
 | skip => exact .refl s (ends_ok limits)
 | leaf => exact (appendMapping_appended _ _ _).keeps limits
 | refused _ refused => exact tableMapping_keeps refused
 | @followed _ _ _ t result reported ran =>
  have first:=tableMapping_keeps reported
  have second:=inner ran
  cases result with
  | error =>
   exact ⟨first.grows.trans (second.grows.trans (.of_eq rfl rfl)),nofun,second.ends⟩
  | ok =>
   exact ⟨first.grows.trans second.grows,fun _=>(second.path rfl).trans (first.path rfl),
    second.ends⟩

lemma EntryVisits.keeps {page:List UInt8} {indices:List ℕ}
 (inner:∀{pfn here s t out},(nested pfn here s).Exec t out→Keeps limits s out)
 (visits:EntryVisits limits target targetPfn level nested tablePfn above page indices s t
  out) : Keeps limits s out := by
 induction visits with
 | nil s => exact .refl s (ends_ok limits)
 | stop turn => exact turn.keeps inner
 | next turn _ ih =>
  have first:=turn.keeps inner
  exact ⟨first.grows.trans ih.grows,fun done=>(ih.path done).trans (first.path rfl),ih.ends⟩

lemma TableVisit.keeps (low:1 ≤ level) (high:level≤5)
 (inner:∀{pfn here s t out},(nested pfn here s).Exec t out→Keeps limits s out)
 (visit:TableVisit limits target targetPfn level nested tablePfn above s t out) :
 Keeps limits s out := by
 cases visit with
 | failed _ t code => exact .refl s (ends_error code)
 | active | beyond => exact .refl s (ends_ok limits)
 | unread _ none => exact ⟨.of_eq rfl rfl,fun _=>rfl,tablePage_ends none⟩
 | @read _ _ t result after count _ _ ran =>
  have kept:=(visitEntries_exec low high ran).keeps inner
  have entered:Grows s { s.enter tablePfn with tablePagesRead := count }:=.of_eq rfl rfl
  cases result with
  | error => exact ⟨entered.trans kept.grows,nofun,kept.ends⟩
  | ok =>
   refine ⟨entered.trans (kept.grows.trans (.of_eq rfl rfl)),fun _ => ?_,kept.ends⟩
   have same:after.activePath=tablePfn::s.activePath:=kept.path rfl
   change after.activePath.erase tablePfn=s.activePath
   rw [same,List.erase_cons_head]

lemma walk_keeps (high:level≤5)
 (ran:(walk limits target targetPfn level tablePfn above s).Exec t out) :
 Keeps limits s out := by
 induction level generalizing tablePfn above s t out with
 | zero =>
  obtain ⟨rfl,rfl⟩:=ran.of_pure
  exact .refl s (ends_ok limits)
 | succ _ ih =>
  exact (walkTable_exec ran).keeps (by omega) high fun ran=>ih (by omega) ran

end Keeps

end PageTableReverseMapper
end KDbg
