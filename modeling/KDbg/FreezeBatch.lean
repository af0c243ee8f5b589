import KDbg.WriteArmFailClosed
set_option autoImplicit false
/-!
# The worker of a watch batch

One batch refreshes a window of the watch list and rewrites the frozen entries in
it. The cancellation checks are answered by a pattern: one answer before each
entry and one after the loop.
-/
namespace KDbg
open Interaction ProcessSession

/-- The first read of an entry: its error, if any, and the entry after it. -/
def refreshWatchEntry (entry : WatchEntry) (width : ℕ) : ProcessM (Result Unit×WatchEntry) := do
 match ← ProcessMemory.read entry.address (UInt32.ofNat width) with
 | .error error => return (.error error,entry.failed error.message)
 | .ok bytes =>
  if bytes.length≠width then
   let message := "Watch refresh returned a short read"
   return (.error (makeError .shortRead message "ProcessScannerPanel::RefreshWatchEntry" 0
    (UInt64.ofNat width) (UInt64.ofNat bytes.length)),entry.failed message)
  else return (.ok (),entry.refreshed bytes)

/-- The write of a frozen entry and what is checked after it. -/
def freezeWatchEntry (entry : WatchEntry) : ProcessM (Result Unit×WatchEntry) := do
 let operation := "ProcessScannerPanel::FreezeWatchEntry"
 let size := UInt64.ofNat entry.frozenValue.length
 match ← ProcessMemory.setWritesArmed true with
 | .error error => return (.error error,entry.failed error.message)
 | .ok () =>
  let written ← ProcessMemory.write entry.address entry.frozenValue
  match ← ProcessMemory.setWritesArmed false with
  | .error error =>
   let message := "Freeze write returned, but the process write gate could not be " ++
    "confirmed locked: " ++ error.message
   return (.error (makeError .writeLocked message (operation ++ "/lock") error.nativeCode size
    (match written with | .ok count => count.toUInt64 | .error error => error.completed)),
    entry.failed message)
  | .ok () =>
   match written with
   | .error error => return (.error error,entry.failed error.message)
   | .ok count =>
    if count.toNat≠entry.frozenValue.length then
     let message := "Freeze write was incomplete"
     return (.error (makeError .shortWrite message operation 0 size count.toUInt64),
      entry.failed message)
    else match ← ProcessMemory.read entry.address (UInt32.ofNat entry.frozenValue.length) with
    | .error error => return (.error error,entry.failed error.message)
    | .ok readback =>
     if readback≠entry.frozenValue then
      let message := "Freeze read-back verification failed"
      return (.error (makeError .verificationMismatch message operation 0 size
       (UInt64.ofNat readback.length)),entry.failed message)
     else return (.ok (),entry.refreshed readback)

def refreshAndMaybeFreezeEntryOneShot (entry : WatchEntry) (includeFreeze : Bool) :
 ProcessM (Result Unit×WatchEntry) := do
 let width := fixedValueWidth entry.type
 let operation := "ProcessScannerPanel::FreezeWatchEntry"
 if width=0 ∨ 0xFFFFFFFF < width then
  let message := "Watch entry has an invalid fixed width"
  return (.error (makeError .invalidArgument message "ProcessScannerPanel::RefreshWatchEntry"),
   entry.failed message)
 else
  let (refreshed,entry) ← refreshWatchEntry entry width
  if !includeFreeze ∨ !entry.frozen then return (refreshed,entry)
  else match refreshed with
  | .error error => return (.error error,entry)
  | .ok () =>
   if entry.frozenValue.length≠width then
    let message := "Frozen value has an invalid width"
    return (.error (makeError .invalidArgument message operation),entry.failed message)
   else match ← ProcessMemory.read entry.address (UInt32.ofNat width) with
   | .error error => return (.error error,entry.failed error.message)
   | .ok expectedBefore =>
    if expectedBefore.length≠width then
     let message := "Freeze expected-before read was incomplete"
     return (.error (makeError .shortRead message operation 0 (UInt64.ofNat width)
      (UInt64.ofNat expectedBefore.length)),entry.failed message)
    else if expectedBefore≠entry.value then
     let message := "Value changed during freeze preflight; no write was attempted"
     return (.error (makeError .concurrentModification message operation),
      entry.failed message)
    else freezeWatchEntry entry

structure FreezeFailClosedState where
 disarmedEntries : ℕ := 0
 gateLocked : Bool := false
 cleanupRetryUsed : Bool := false
 cleanupError : Option Error := none

def unfreezeEntry (entry : WatchEntry) : WatchEntry :=
 { entry with
   lastError :=
    if entry.frozen ∧ entry.lastError = "" then
     "Freeze automatically disarmed after an unsafe batch outcome"
    else entry.lastError
   frozen := false
   frozenValue := [] }

def failCloseFreeze (entries : List WatchEntry) :
 ProcessM (FreezeFailClosedState×List WatchEntry) := do
 let state : FreezeFailClosedState := { disarmedEntries := entries.countP (·.frozen) }
 let entries := entries.map unfreezeEntry
 match ← ProcessMemory.setWritesArmed false with
 | .ok () => return ({ state with gateLocked := true },entries)
 | .error error =>
  match ← ProcessMemory.setWritesArmed false with
  | .ok () => return ({ state with gateLocked := true,cleanupRetryUsed := true },entries)
  | .error retry =>
   return ({ state with
    cleanupRetryUsed := true
    cleanupError := some { error with
     message := error.message ++ "; cleanup retry also failed: " ++ retry.message } },entries)

def hasFrozenEntries (entries : List WatchEntry) : Bool := entries.any (·.frozen)

def watchBatchCount (total begin : ℕ) : ℕ := if total ≤ begin then 0 else min 64 (total-begin)

structure WatchBatchOutcome where
 begin : ℕ
 total : ℕ
 completed : ℕ := 0
 rows : List WatchEntry := []
 error : Option Error := none
 cancelled : Bool := false
 freezeMode : Bool := false
 freezeFailClosed : Bool := false
 gateLocked : Bool := false
 gateLockRetryUsed : Bool := false
 disarmedEntries : ℕ := 0
 gateLockError : Option Error := none

/-- What the worker holds between two entries. -/
structure WatchBatch where
 outcome : WatchBatchOutcome
 entries : List WatchEntry
 failures : ℕ := 0

namespace WatchBatch

def cancel (s : WatchBatch) : WatchBatch :=
 { s with outcome := { s.outcome with cancelled := true } }

def failClose (s : WatchBatch) : ProcessM WatchBatch := do
 if !s.outcome.freezeMode ∨ s.outcome.freezeFailClosed then return s
 else
  let (cleanup,entries) ← failCloseFreeze s.entries
  return { s with
   entries
   outcome := { s.outcome with
    freezeFailClosed := true
    gateLocked := cleanup.gateLocked
    gateLockRetryUsed := cleanup.cleanupRetryUsed
    disarmedEntries := cleanup.disarmedEntries
    gateLockError := cleanup.cleanupError } }

/-- The state after an entry was worked on, before a failure of it is dealt with. -/
def put (s : WatchBatch) (index : ℕ) (entry : WatchEntry) (result : Result Unit) : WatchBatch :=
 let s := { s with entries := s.entries.set index entry }
 match result with
 | .ok () => s
 | .error error =>
  { s with failures := s.failures+1,outcome := { s.outcome with error := some error } }

def publish (s : WatchBatch) (index : ℕ) : WatchBatch :=
 { s with outcome := { s.outcome with
  rows := s.outcome.rows++s.entries[index]?.toList
  completed := s.outcome.completed+1 } }

/-- The loop over the window; `cancelled` answers the check before each entry. -/
def loop (includeFreeze : Bool) (cancelled : ℕ→Bool) : ℕ→ℕ→WatchBatch→ProcessM WatchBatch
 | 0,_,s => return s
 | remaining+1,offset,s => do
  if cancelled offset then s.cancel.failClose
  else
   let index := s.outcome.begin+offset
   match s.entries[index]? with
   | none => return s
   | some entry =>
    let (refreshed,entry') ← refreshAndMaybeFreezeEntryOneShot entry includeFreeze
    let s := s.put index entry' refreshed
    let s ←
     if !refreshed.isOk && includeFreeze && entry.frozen then s.failClose else pure s
    let s := s.publish index
    if s.outcome.freezeFailClosed then return s
    else loop includeFreeze cancelled remaining (offset+1) s

def checkStopped (stopped : Bool) (s : WatchBatch) : ProcessM WatchBatch :=
 if stopped && !s.outcome.cancelled then s.cancel.failClose else return s

def report (s : WatchBatch) : WatchBatchOutcome :=
 if s.failures≠0 ∧ !s.outcome.freezeFailClosed then
  { s.outcome with error := some (makeError .verificationMismatch
    "One or more scheduled watch operations failed" "ProcessScannerPanel::StartWatchBatch" 0
    (UInt64.ofNat s.outcome.completed) (UInt64.ofNat s.failures)) }
 else s.outcome

def start (includeFreeze : Bool) (begin : ℕ) (entries : List WatchEntry) : WatchBatch where
 outcome :=
  { begin
    total := entries.length
    freezeMode := includeFreeze && hasFrozenEntries entries }
 entries

/-- The worker: `stopped` answers the check after the loop. -/
def run (includeFreeze : Bool) (cancelled : ℕ→Bool) (stopped : Bool) (begin : ℕ)
 (entries : List WatchEntry) : ProcessM (WatchBatchOutcome×List WatchEntry) := do
 let s ← loop includeFreeze cancelled (watchBatchCount entries.length begin) 0
  (start includeFreeze begin entries)
 let s ← s.checkStopped stopped
 return (s.report,s.entries)

end WatchBatch

structure SameFreeze (entry entry' : WatchEntry) : Prop where
 address : entry'.address=entry.address
 type : entry'.type=entry.type
 frozen : entry'.frozen=entry.frozen
 frozenValue : entry'.frozenValue=entry.frozenValue

lemma SameFreeze.refl (entry:WatchEntry) : SameFreeze entry entry := ⟨rfl,rfl,rfl,rfl⟩

lemma SameFreeze.trans {entry entry' entry'':WatchEntry} (h:SameFreeze entry entry')
 (h':SameFreeze entry' entry'') : SameFreeze entry entry'' :=
 ⟨h'.address.trans h.address,h'.type.trans h.type,h'.frozen.trans h.frozen,
  h'.frozenValue.trans h.frozenValue⟩

section Entry
variable {entry entry':WatchEntry} {t:List ProcessEvent} {r:Result Unit}

end Entry

structure Turn where
 entry : WatchEntry
 trace : List ProcessEvent
 result : Result Unit
 after : WatchEntry

def Turn.Valid (x : Turn) : Prop :=
 (refreshAndMaybeFreezeEntryOneShot x.entry true).Exec x.trace (x.result,x.after)

def Turn.Failed (x : Turn) : Prop := x.entry.frozen=true ∧ x.result.isOk=false

/-- The attempts to disarm at the end, and whether one of them succeeds. -/
inductive Closure : List ProcessEvent→Bool→Prop where
 | first : Closure [disarmed (.ok ())] true
 | second (e:Error) : Closure [disarmed (.error e),disarmed (.ok ())] true
 | never (e e':Error) : Closure [disarmed (.error e),disarmed (.error e')] false

section Closure
variable {closing:List ProcessEvent} {locked:Bool}

lemma Closure.disarms (h:Closure closing locked) : Disarms closing := by
 cases h with
 | first => exact disarms_nil.cons _
 | second e | never e => exact (disarms_nil.cons _).cons _

lemma Closure.winding (h:Closure closing locked) : Winding closing := by
 refine ⟨h.disarms.calm,?_⟩
 cases h <;> exact ⟨_,List.mem_cons_self⟩

end Closure

namespace WatchBatch

structure FailedClosed (closing : List ProcessEvent) (s : WatchBatch) : Prop where
 closure : Closure closing s.outcome.gateLocked
 flag : s.outcome.freezeFailClosed=true
 thawed : ∀ entry∈s.entries,entry.frozen=false ∧ entry.frozenValue=[]

section Loop
variable {s s':WatchBatch} {t:List ProcessEvent}

section
variable {remaining:ℕ} {turns:List Turn} {x:Turn} {mode stopped:Bool}
 {closing:List ProcessEvent}

lemma thawed_unfreezeEntry (entries:List WatchEntry) :
 ∀entry∈entries.map unfreezeEntry,entry.frozen=false ∧ entry.frozenValue=[] := by
 intro _ mem
 obtain ⟨_,-,rfl⟩:=List.mem_map.1 mem
 exact ⟨rfl,rfl⟩

lemma failClose_exec (h:s.failClose.Exec t s') (unset:s.outcome.freezeFailClosed=false) :
 (s.outcome.freezeMode=false ∧ t=[] ∧ s'=s) ∨
  (s.outcome.freezeMode=true ∧ FailedClosed t s') := by
 unfold failClose at h
 split at h
 · rename_i idle
   obtain ⟨rfl,rfl⟩:=h.of_pure
   simp only [unset,Bool.not_eq_true',Bool.false_eq_true,or_false] at idle
   exact .inl ⟨idle,rfl,rfl⟩
 · rename_i active
   have mode:s.outcome.freezeMode=true:=by
    simp only [unset,Bool.not_eq_true',Bool.false_eq_true,or_false,Bool.not_eq_false]
     at active
    exact active
   refine .inr ⟨mode,?_⟩
   obtain ⟨u,⟨_,_⟩,v,rfl,hu,hv⟩:=h.of_bind
   obtain ⟨rfl,rfl⟩:=hv.of_pure
   obtain ⟨locked,w,rfl,hw⟩:=hu.of_ask
   have thawed:=thawed_unfreezeEntry s.entries
   cases locked with
   | ok =>
    obtain ⟨rfl,rfl,rfl⟩:=hw.of_pure_prod
    exact ⟨.first,rfl,thawed⟩
   | error e =>
    obtain ⟨retry,x,rfl,hx⟩:=hw.of_ask
    cases retry with
    | ok =>
     obtain ⟨rfl,rfl,rfl⟩:=hx.of_pure_prod
     exact ⟨.second e,rfl,thawed⟩
    | error e' =>
     obtain ⟨rfl,rfl,rfl⟩:=hx.of_pure_prod
     exact ⟨.never e e',rfl,thawed⟩

/-- How the loop ends after the turns `turns`: it has failed closed, or there was no reason to. -/
inductive LoopEnd (mode:Bool) (turns:List Turn) : List ProcessEvent→WatchBatch→Prop where
 | through {s':WatchBatch} (fine:∀ x∈turns,¬ x.Failed)
  (unset:s'.outcome.freezeFailClosed=false) (kept:s'.outcome.freezeMode=mode)
  (calm:s'.outcome.cancelled=true → mode=false) : LoopEnd mode turns [] s'
 | closed {closing:List ProcessEvent} {s':WatchBatch}
  (earlier:∀ x∈turns.dropLast,¬ x.Failed) (closed:FailedClosed closing s') :
  LoopEnd mode turns closing s'

/-- The turns of a loop that starts at `index`, in the entries it finds. -/
def TurnsFrom (entries : List WatchEntry) (index remaining : ℕ) (turns : List Turn) : Prop :=
 ∀ i x,turns[i]?=some x → x.Valid ∧ i < remaining ∧ entries[index+i]?=some x.entry

lemma TurnsFrom.cons {entries:List WatchEntry} {index:ℕ} (valid:x.Valid)
 (found:entries[index]?=some x.entry)
 (rest:TurnsFrom (entries.set index x.after) (index+1) remaining turns) :
 TurnsFrom entries index (remaining+1) (x::turns) := by
 intro i y at_
 cases i with
 | zero =>
  cases at_
  exact ⟨valid,by omega,found⟩
 | succ i =>
  obtain ⟨valid',_,found'⟩:=rest i y at_
  rw [List.getElem?_set_ne (by omega)] at found'
  refine ⟨valid',by omega,?_⟩
  rw [←found']
  congr 1
  omega

lemma LoopEnd.cons (h:LoopEnd mode turns closing s') (fine:¬x.Failed) :
 LoopEnd mode (x::turns) closing s' := by
 cases h with
 | through all unset kept calm =>
  refine .through (fun y mem => ?_) unset kept calm
  rcases List.mem_cons.1 mem with rfl|mem
  · exact fine
  · exact all y mem
 | closed earlier closed =>
  refine .closed (fun y mem => ?_) closed
  cases turns with
  | nil => simp at mem
  | cons z =>
   rcases List.mem_cons.1 mem with rfl|mem
   · exact fine
   · exact earlier y mem

/-- A check after the loop that cancels the batch ends it like one inside. -/
lemma LoopEnd.checkStopped {u:List ProcessEvent} {after:WatchBatch}
 (end_:LoopEnd mode turns closing s') (h:(s'.checkStopped stopped).Exec u after) :
 LoopEnd mode turns (closing++u) after := by
 unfold WatchBatch.checkStopped at h
 split at h
 · cases end_ with
   | through fine unset kept =>
    rcases failClose_exec h unset with ⟨off,rfl,rfl⟩|⟨-,closed⟩
    · exact .through fine unset kept fun _=>kept.symm.trans off
    · exact .closed (fun x mem=>fine x (List.mem_of_mem_dropLast mem)) closed
   | closed earlier closed =>
    unfold failClose at h
    rw [if_pos (.inr closed.flag)] at h
    obtain ⟨rfl,rfl⟩:=h.of_pure
    rw [List.append_nil]
    exact .closed earlier ⟨closed.closure,closed.flag,closed.thawed⟩
 · obtain ⟨rfl,rfl⟩:=h.of_pure
   rwa [List.append_nil]

end

end Loop

end WatchBatch

end KDbg
