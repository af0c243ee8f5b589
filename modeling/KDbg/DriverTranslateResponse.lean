import KDbg.DriverTranslateWalk
set_option autoImplicit false
/-! The fields of a translation response, in terms of the walk it reports. -/
namespace KDbg
open Interaction BitFields

def Device.TranslateResponse.stepList (response : TranslateResponse) : List WireTranslationStep :=
 (List.range response.stepCount.toNat).map response.steps

namespace Driver
open Device (TranslateRequest TranslateResponse WireTranslationStep kTranslateFlagLa57Active
 kTranslateFlagLargePage kTranslateFlagPresent kTranslateFlagProcessCr3)

variable {response:TranslateResponse}

def pushVisits (response : TranslateResponse) (visits : List Visit) : TranslateResponse :=
 visits.foldl (fun response visit=>pushStep response visit.wire) response

lemma toNat_stepCount_pushStep (step:WireTranslationStep)
 (fits:response.stepCount.toNat+1<2^32) :
 (pushStep response step).stepCount.toNat=response.stepCount.toNat+1 := by
 change (response.stepCount+1).toNat=_
 exact Nat.mod_eq_of_lt fits

lemma stepList_pushStep (step:WireTranslationStep)
 (fits:response.stepCount.toNat+1<2^32) :
 (pushStep response step).stepList=response.stepList++[step] := by
 unfold TranslateResponse.stepList
 rw [toNat_stepCount_pushStep step fits,List.range_succ,List.map_append]
 congr 1
 · apply List.map_congr_left
   intro i mem
   exact if_neg (List.mem_range.1 mem).ne
 · exact congrArg (fun x=>[x]) (if_pos rfl)

variable {visits:List Visit}

lemma stepList_pushVisits (fits:response.stepCount.toNat+visits.length<2^32) :
 (pushVisits response visits).stepList=response.stepList++visits.map Visit.wire := by
 induction visits generalizing response with
 | nil => simp [pushVisits]
 | cons visit visits ih =>
  rw [List.length_cons] at fits
  have one : (pushStep response visit.wire).stepCount.toNat=response.stepCount.toNat+1 :=
   toNat_stepCount_pushStep visit.wire (by omega)
  change (pushVisits (pushStep response visit.wire) visits).stepList=_
  rw [ih (by omega),stepList_pushStep visit.wire (by omega),List.append_assoc]
  rfl

lemma pushVisits_field {α:Type} (field:TranslateResponse → α) (response:TranslateResponse)
 (visits:List Visit)
 (keeps:∀response step,field (pushStep response step)=field response := by intros;rfl) :
 field (pushVisits response visits)=field response := by
 induction visits generalizing response with
 | nil => rfl
 | cons _ _ ih => exact (ih _).trans (keeps _ _)

lemma walkResponse_eq (request:TranslateRequest) (response:TranslateResponse)
 (visits:List Visit) (last:Visit) (translated:Bool) :
 walkResponse request response visits last translated =
  if translated then
   mapPage request (leafPageSize last.level) (leafMask last.level) (leafFlags last.level)
    last.entry (pushVisits response visits)
  else pushVisits response visits := rfl

lemma walkResponse_field {α:Type} (field:TranslateResponse → α)
 (request:TranslateRequest) (response:TranslateResponse) (visits:List Visit)
 (last:Visit) (translated:Bool)
 (steps:∀response step,field (pushStep response step)=field response := by intros;rfl)
 (page:∀request pageSize mask flags entry response,
  field (mapPage request pageSize mask flags entry response)=field response := by intros;rfl) :
 field (walkResponse request response visits last translated)=field response := by
 rw [walkResponse_eq]
 split
 · rw [page,pushVisits_field field _ _ steps]
 · rw [pushVisits_field field _ _ steps]

lemma flags_walkResponse (request:TranslateRequest) (response:TranslateResponse)
 (visits:List Visit) (last:Visit) (translated:Bool) :
 (walkResponse request response visits last translated).flags =
  if translated then response.flags ||| leafFlags last.level else response.flags := by
 have kept:=pushVisits_field (·.flags) response visits
 cases translated with
 | false => exact kept
 | true => exact congrArg (· ||| leafFlags last.level) kept

lemma stepList_walkResponse (request:TranslateRequest)
 (last:Visit) (translated:Bool) (fits:response.stepCount.toNat+visits.length<2^32) :
 (walkResponse request response visits last translated).stepList =
  response.stepList++visits.map Visit.wire := by
 rw [walkResponse_eq]
 split
 · exact stepList_pushVisits fits
 · exact stepList_pushVisits fits

def walkFlags (la57 translated : Bool) (level : ℕ) : UInt32 :=
 let start := if la57 then 0 ||| kTranslateFlagLa57Active else 0
 if translated then start ||| leafFlags level else start

structure FlagsTell (flags : UInt32) (la57 translated large : Bool) : Prop where
 valid : flags &&& ~~~(kTranslateFlagLa57Active ||| kTranslateFlagLargePage |||
  kTranslateFlagPresent ||| kTranslateFlagProcessCr3)=0
 la57 : (flags &&& kTranslateFlagLa57Active != 0)=la57
 process : flags &&& kTranslateFlagProcessCr3=0
 present : (flags &&& kTranslateFlagPresent != 0)=translated
 large : (flags &&& kTranslateFlagLargePage != 0)=large
 absent : translated=false → flags &&& (kTranslateFlagPresent ||| kTranslateFlagLargePage)=0

lemma walkFlags_tell (la57 translated:Bool) {level:ℕ}
 (page:translated=true → level=1 ∨ level=2 ∨ level=3) :
 FlagsTell (walkFlags la57 translated level) la57 translated
  (translated && decide (level≠1)) := by
 cases translated with
 | false =>
  change FlagsTell (if la57 then 0 ||| kTranslateFlagLa57Active else 0) la57 false false
  cases la57 <;> exact ⟨rfl,rfl,rfl,rfl,rfl,fun _=>rfl⟩
 | true =>
  rcases page rfl with rfl|rfl|rfl <;> cases la57 <;>
   exact ⟨rfl,rfl,rfl,rfl,rfl,nofun⟩

lemma walkResponse_tell {Holds:UInt64→UInt64→Prop} {la57 translated:Bool} {address:ℕ}
 {table:UInt64} {last:Visit} (request:TranslateRequest) (base:UInt64)
 (walk:PageWalk Holds address (pagingLevels la57) table visits last translated) :
 FlagsTell (walkResponse request (startResponse request base 0 la57) visits last translated).flags
  la57 translated (translated && decide (last.level≠1)) := by
 rw [flags_walkResponse]
 apply walkFlags_tell
 rintro rfl
 exact level_of_leafEntry walk.leafEntry

end Driver
end KDbg
