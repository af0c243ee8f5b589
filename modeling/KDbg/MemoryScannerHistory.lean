import KDbg.InteractionRuns
import KDbg.MemoryScannerBatch
set_option autoImplicit false
/-!
What a next scan does to a scanner, and the scanner over any sequence of first
scans, next scans and resets: a scan that fails changes nothing but its report.
-/
namespace KDbg
open Interaction

namespace MemoryScanner

variable {compiled:CompiledScanQuery} {scanner:MemoryScanner}

def Sized (width : ℕ) (candidates : List ScanCandidate) : Prop :=
 ∀ candidate∈candidates,candidate.previous.length=width ∧ candidate.current.length=width

variable {carry window:List UInt8} {s:Scan}

section Sized
variable {query:CompiledScanQuery} {regionBase regionEnd:ℕ}

lemma visitOffset_sized {windowBase offset:ℕ} (within:offset+query.width ≤ window.length)
 (sized:Sized query.width s.output) :
 Sized query.width
  (visitOffset query regionBase regionEnd windowBase carry window offset s).output := by
 unfold visitOffset
 dsimp only
 split
 · exact sized
 split
 · exact sized
 split
 · exact sized
 refine List.forall_mem_append.2 ⟨sized,List.forall_mem_singleton.2 ?_⟩
 have length:((window.drop offset).take query.width).length=query.width:=by
  rw [List.length_take,List.length_drop]
  omega
 exact ⟨length,length⟩

lemma Sized.congr {width:ℕ} {candidates same:List ScanCandidate}
 (sized:Sized width candidates) (eq:same=candidates) : Sized width same :=
 eq ▸ sized

lemma output_reporting (s:Scan) (report:ScanReadReport) :
 { s with report }.output=s.output := rfl

lemma failedRead_output (s:Scan) (error:Error) : (s.failedRead error).output=s.output :=
 output_reporting s _

lemma shortRead_output (s:Scan) (error:Error) : (s.shortRead error).output=s.output :=
 output_reporting s _

/-- A scan whose loops store values of the width of the query, however it ends. -/
def KeepsSized (width : ℕ) {α : Type} (p : ScanM (α×Scan)) : Prop :=
 p.Ensures fun _ out=>Sized width out.2.output

lemma keepsSized_pure {width:ℕ} {α:Type} {a:α} (sized:Sized width s.output) :
 KeepsSized width (pure (a,s)) :=
 Prog.ensures_pure sized

lemma keepsSized_ask {width:ℕ} {α:Type} {c:ScanCall} {f:ScanAnswer c→ScanM (α×Scan)}
 (rest:∀answer,KeepsSized width (f answer)) : KeepsSized width (Prog.ask c >>= f) :=
 Prog.ensures_ask_bind rest

lemma keepsSized_bind {width:ℕ} {α β:Type} {p:ScanM (α×Scan)}
 {f:α×Scan→ScanM (β×Scan)} (first:KeepsSized width p)
 (rest:∀a s,Sized width s.output→KeepsSized width (f (a,s))) :
 KeepsSized width (p >>= f) :=
 Prog.ensures_bind first fun _ out sized=>rest out.1 out.2 sized

lemma scanOffsets_sized {windowBase offset counter:ℕ} (sized:Sized query.width s.output) :
 KeepsSized query.width
  (scanOffsets query regionBase regionEnd windowBase carry window offset counter s) := by
 fun_induction scanOffsets query regionBase regionEnd windowBase carry window offset counter s with
 | case1 => exact keepsSized_pure sized
 | case2 offset counter s _ ih =>
  have visited : Sized query.width
   (visitOffset query regionBase regionEnd windowBase carry window offset s).output :=
   visitOffset_sized (by omega) sized
  have polled:(pollStop counter).Ensures fun _ _=>True:=fun _ _ _=>trivial
  refine Prog.ensures_bind polled fun t _ _ => ?_
  split
  · exact keepsSized_pure sized
  · dsimp only
    split
    · exact keepsSized_pure visited
    · exact ih visited

lemma scanWindow_sized {windowBase:ℕ} (sized:Sized query.width s.output) :
 KeepsSized query.width
  (scanWindow query regionBase regionEnd windowBase carry window s) := by
 unfold scanWindow
 split
 · exact keepsSized_pure sized
 · exact scanOffsets_sized sized

lemma reportDue_sized {width:ℕ} {nextReport:UInt64} (sized:Sized width s.output) :
 KeepsSized width (reportDue nextReport s) := by
 unfold reportDue
 split
 · exact keepsSized_ask fun _=>keepsSized_pure sized
 · exact keepsSized_pure sized

lemma scanChunks_sized {positive:0 < query.width} {cursor:ℕ} {nextReport:UInt64}
 (sized:Sized query.width s.output) :
 KeepsSized query.width
  (scanChunks query positive regionBase regionEnd cursor carry nextReport s) := by
 fun_induction scanChunks query positive regionBase regionEnd cursor carry nextReport s with
 | case1 => exact keepsSized_pure sized
 | case2 cursor _ _ s _ ih₁ ih₂ =>
  have attempted:=kept_attempted s (chunkRequest query (regionEnd-cursor))
  refine keepsSized_ask fun _ => ?_
  split
  · exact keepsSized_pure sized
  · refine keepsSized_ask fun answer => ?_
    cases answer with
    | error error =>
     have failed:=(failedRead_output _ error).trans attempted.output
     refine keepsSized_bind (reportDue_sized (sized.congr failed)) fun next after kept => ?_
     exact ih₁ next after kept
    | ok data =>
     have received:=attempted.trans (kept_received _ data.length)
     have short (error:Error) := (shortRead_output _ error).trans received.output
     have completed:=received.trans (kept_completed _)
     dsimp only
     split
     · exact keepsSized_pure (sized.congr (short _))
     · refine keepsSized_bind (scanWindow_sized (sized.congr completed.output))
        fun outcome _ kept => ?_
       cases outcome with
       | error => exact keepsSized_pure kept
       | ok =>
        dsimp only
        split
        · exact keepsSized_pure kept
        · exact keepsSized_bind (reportDue_sized kept) fun next after kept =>
           ih₂ data next after kept

lemma scanRegion_sized {region:MemoryRegion} (sized:Sized query.width s.output) :
 KeepsSized query.width (scanRegion query region s) := by
 unfold scanRegion
 split
 · exact keepsSized_pure sized
 split
 · exact keepsSized_pure sized
 · exact scanChunks_sized sized

lemma scanRegions_sized {regions:List MemoryRegion} (sized:Sized query.width s.output) :
 KeepsSized query.width (scanRegions query regions s) := by
 induction regions generalizing s with
 | nil => exact keepsSized_pure sized
 | cons _ _ ih =>
  refine keepsSized_ask fun _ => ?_
  split
  · exact keepsSized_pure sized
  · refine keepsSized_bind (scanRegion_sized sized) fun outcome _ kept => ?_
    cases outcome with
    | error => exact keepsSized_pure kept
    | ok =>
     refine keepsSized_ask fun _ => ?_
     split
     · exact keepsSized_pure kept
     · exact ih kept

end Sized

inductive ScanOp where
 | firstScan (query : ScanQuery)
 | nextScan (query : ScanQuery)
 | reset

section History
variable (library:FloatingText) (arithmetic:FloatingArithmetic)

/-- The public operations; a reset has nothing to return. -/
def exec : ScanOp→MemoryScanner→ScanM (Result ScanSummary×MemoryScanner)
 | .firstScan query,scanner => firstScan library query scanner
 | .nextScan query,scanner => nextScan library arithmetic query scanner
 | .reset,scanner => return (.ok {},scanner.reset)

def machine : Machine ScanCall ScanAnswer ScanOp MemoryScanner (Result ScanSummary) where
 init := {}
 exec := exec library arithmetic

abbrev ScanStep := Step ScanCall ScanAnswer ScanOp MemoryScanner (Result ScanSummary)

structure SameHistory (before after : MemoryScanner) : Prop where
 candidates : after.candidates=before.candidates
 activeQuery : after.activeQuery=before.activeQuery
 hasScan : after.hasScan=before.hasScan
 generation : after.generation=before.generation

/-- The candidates are some of those before, in their order, and each remembers the value it
 had. -/
def Narrowed (before after : MemoryScanner) : Prop :=
 ∃ kept,kept.Sublist before.candidates ∧
  List.Forall₂ (fun former candidate=>candidate.address=former.address ∧
   candidate.previous=former.current) kept after.candidates

inductive HistoryStep (before after:MemoryScanner) : ScanOp→Result ScanSummary→Prop where
 | failed (op:ScanOp) (error:Error) (same:SameHistory before after) :
  HistoryStep before after op (.error error)
 | scanned (query:ScanQuery) (summary:ScanSummary)
  (sized:Sized after.activeQuery.width after.candidates) :
  HistoryStep before after (.firstScan query) (.ok summary)
 | narrowed (query:ScanQuery) (summary:ScanSummary) (narrowed:Narrowed before after)
  (sized:Sized before.activeQuery.width before.candidates →
   Sized after.activeQuery.width after.candidates) :
  HistoryStep before after (.nextScan query) (.ok summary)
 | reset (summary:ScanSummary) (empty:after.candidates=[]) :
  HistoryStep before after .reset (.ok summary)

variable {library arithmetic}

/-- The survivors of readings, in their order, each with the value it had and a new one. -/
lemma survivors_narrowed (arithmetic:FloatingArithmetic) (compiled:CompiledScanQuery)
 (readings:List Reading) :
 ∃ kept,kept.Sublist (readings.map Prod.fst) ∧
  List.Forall₂ (fun former candidate=>candidate.address=former.address ∧
   candidate.previous=former.current ∧ candidate.current.length=compiled.width) kept
   (readings.filterMap (survivor arithmetic compiled)) := by
 induction readings with
 | nil => exact ⟨[], .slnil, .nil⟩
 | cons reading _ ih =>
  obtain ⟨kept,sub,all⟩:=ih
  obtain ⟨candidate,answer⟩:=reading
  cases found:survivor arithmetic compiled (candidate,answer) with
  | none =>
   rw [List.filterMap_cons_none found]
   exact ⟨kept,sub.cons candidate,all⟩
  | some =>
   rw [List.filterMap_cons_some found]
   refine ⟨candidate::kept,sub.cons_cons candidate, .cons ?_ all⟩
   cases answer with
   | error => cases found
   | ok =>
    simp only [survivor] at found
    split at found
    · rename_i whole
      cases found
      exact ⟨rfl,rfl,whole.1⟩
    · cases found

lemma narrow_history {query:ScanQuery} {t:List ScanEvent} {readings:List Reading}
 (compiles:compileNext library query scanner=.ok compiled)
 (visited:Visited arithmetic compiled (fun memory=>Static memory ∧ Agrees memory t)
  scanner.candidates { progress := nextProgress compiled scanner.candidates.length } s
  readings) :
 Narrowed scanner (scanner.narrow compiled s) ∧
  (Sized scanner.activeQuery.width scanner.candidates→Sized compiled.width s.output) := by
 obtain ⟨limits,width,-⟩:=compileNext_ok compiles
 obtain ⟨kept,sub,all⟩:=survivors_narrowed arithmetic compiled readings
 have collected:=naiveScan_collected arithmetic readings (s := {}) ⟨rfl,limits.room⟩
 have output : s.output =
  (readings.filterMap (survivor arithmetic compiled)).take compiled.query.maxResults :=
  (congrArg Scan.output visited.tally).trans collected.output
 have fewer:=List.forall₂_take compiled.query.maxResults all
 rw [←output] at fewer
 have former : (kept.take compiled.query.maxResults).Sublist scanner.candidates :=
  (List.take_sublist _ _).trans (sub.trans visited.order.sublist)
 refine ⟨⟨_,former,fewer.imp fun _ _ both=>⟨both.1,both.2.1⟩⟩,fun sized => ?_⟩
 intro _ mem
 obtain ⟨⟨i,inside⟩,rfl⟩:=List.mem_iff_get.1 mem
 obtain ⟨same,related⟩:=List.forall₂_iff_get.1 fewer
 obtain ⟨-,previous,current⟩:=related i (same ▸ inside) inside
 rw [previous,width]
 exact ⟨(sized _ (former.subset (List.get_mem _ _))).2,current.trans width⟩

lemma step_history (x:ScanStep) (valid:(machine library arithmetic).Valid x) :
 HistoryStep x.before x.after x.op x.result := by
 obtain ⟨op,scanner,t,r,after⟩:=x
 change (exec library arithmetic op scanner).Exec t (r,after) at valid
 cases op with
 | reset =>
  obtain ⟨rfl,rfl,rfl⟩:=valid.of_pure_prod
  exact .reset _ rfl
 | firstScan query =>
  generalize out : (r,after)=result at valid
  cases firstScan_exit valid with
  | refused error =>
   cases out
   exact .failed _ error ⟨rfl,rfl,rfl,rfl⟩
  | @scanned _ _ u s _ _ _ _ ran _ =>
   cases out
   exact .scanned query _ (scanRegions_sized (fun _ mem=>absurd mem List.not_mem_nil) _ _ ran)
 | nextScan query =>
  generalize out : (r,after)=result at valid
  cases nextScan_exit valid with
  | refused error | cancelled error =>
   cases out
   exact .failed _ error ⟨rfl,rfl,rfl,rfl⟩
  | narrowed compiles visited =>
   cases out
   obtain ⟨narrowed,sized⟩:=narrow_history compiles visited
   exact .narrowed query _ narrowed sized

lemma HistoryStep.sized {before after:MemoryScanner} {op:ScanOp} {r:Result ScanSummary}
 (step:HistoryStep before after op r)
 (sized:Sized before.activeQuery.width before.candidates) :
 Sized after.activeQuery.width after.candidates := by
 cases step with
 | failed _ _ same =>
  rw [same.candidates,same.activeQuery]
  exact sized
 | scanned _ _ sized' => exact sized'
 | narrowed _ _ _ keeps => exact keeps sized
 | reset _ empty =>
  rw [empty]
  exact fun _ mem=>absurd mem List.not_mem_nil

lemma run_sized {h:List ScanStep} (run:(machine library arithmetic).Run h scanner) :
 Sized scanner.activeQuery.width scanner.candidates :=
 run.invariant (fun scanner=>Sized scanner.activeQuery.width scanner.candidates)
  (fun _ mem=>absurd mem List.not_mem_nil) fun x valid=>(step_history x valid).sized

/-- A scan that fails leaves the history of the scans as it was; one that narrows the candidates
 keeps their order and their former values. -/
theorem run_scan_history {h : List ScanStep} {scanner : MemoryScanner}
 (run : (machine library arithmetic).Run h scanner) {x : ScanStep} (mem : x∈h) :
 (∀ error,x.result=.error error→SameHistory x.before x.after) ∧
  ∀ query summary,x.op=.nextScan query → x.result=.ok summary →
   Narrowed x.before x.after ∧ Sized x.after.activeQuery.width x.after.candidates := by
 obtain ⟨⟨_,before⟩,valid⟩ := run.valid_of_mem mem
 have step := step_history x valid
 have sized := step.sized (run_sized before)
 obtain ⟨_,_,t,r,_⟩ := x
 cases step with
 | failed _ _ same => exact ⟨fun _ _=>same,fun _ _ _ ok=>nomatch ok⟩
 | scanned | reset =>
  exact ⟨fun _ failed=>(nomatch failed),fun _ _ named=>nomatch named⟩
 | narrowed _ _ narrowed =>
  exact ⟨fun _ failed=>(nomatch failed),fun _ _ _ _=>⟨narrowed,sized⟩⟩

/-- An operation against a process of the sample, with the run that it makes. -/
def sampleStep (content : UInt64→UInt8) (stop : Bool) (op : ScanOp) (before : MemoryScanner)
 (t : List ScanEvent) : ScanStep where
 op := op
 before := before
 trace := t
 result := ((exec sampleLibrary sampleArithmetic op before).run (sampleProcess content stop)).1
 after := ((exec sampleLibrary sampleArithmetic op before).run (sampleProcess content stop)).2

lemma exists_sampleStep {h:List ScanStep} {before:MemoryScanner}
 (run:(machine sampleLibrary sampleArithmetic).Run h before) (content:UInt64→UInt8) (stop:Bool)
 (op:ScanOp) : ∃ t,(machine sampleLibrary sampleArithmetic).Run
  (h++[sampleStep content stop op before t]) (sampleStep content stop op before t).after := by
 obtain ⟨t,ran,-⟩:=Prog.exec_run (sampleProcess content stop)
  (exec sampleLibrary sampleArithmetic op before)
 exact ⟨t,run.snoc (sampleStep content stop op before t) rfl ran⟩

def sampleFirst : List ScanEvent→ScanStep := sampleStep sampleContent false (.firstScan sampleQuery) {}

def sampleCancelled : List ScanEvent→ScanStep :=
 sampleStep sampleContent true (.nextScan sampleQuery) (sampleFirst []).after

def sampleNarrowed : List ScanEvent→ScanStep :=
 sampleStep sampleLater false (.nextScan sampleQuery) (sampleCancelled []).after

lemma sampleScans_run : ∃ t u v,(machine sampleLibrary sampleArithmetic).Run
 [sampleFirst t,sampleCancelled u,sampleNarrowed v] (sampleNarrowed v).after := by
 obtain ⟨t,first⟩:=exists_sampleStep .nil sampleContent false (.firstScan sampleQuery)
 obtain ⟨u,second⟩:=exists_sampleStep first sampleContent true (.nextScan sampleQuery)
 obtain ⟨v,third⟩:=exists_sampleStep second sampleLater false (.nextScan sampleQuery)
 exact ⟨t,u,v,third⟩

lemma sampleCancelled_result :
 (sampleCancelled []).result=.error (cancelledError "MemoryScanner::NextScan") := by
 decide +kernel

lemma sampleNarrowed_result : (sampleNarrowed []).result=.ok ⟨1,4,false⟩ := by
 decide +kernel

theorem sampleScans_history : ∃ u v,
 SameHistory (sampleCancelled u).before (sampleCancelled u).after ∧
  Narrowed (sampleNarrowed v).before (sampleNarrowed v).after := by
 obtain ⟨t,u,v,run⟩ := sampleScans_run
 have cancelled := (run_scan_history run (x := sampleCancelled u) (by simp)).1
 have narrowed := (run_scan_history run (x := sampleNarrowed v) (by simp)).2
 exact ⟨u,v,cancelled _ sampleCancelled_result,(narrowed _ _ rfl sampleNarrowed_result).1⟩

lemma Narrowed.addresses {before after:MemoryScanner} (narrowed:Narrowed before after) :
 (after.candidates.map (·.address)).Sublist (before.candidates.map (·.address)) := by
 obtain ⟨kept,sub,same⟩:=narrowed
 have addresses : List.Forall₂ Eq (kept.map (·.address)) (after.candidates.map (·.address)) :=
  List.forall₂_map_left_iff.2 (List.forall₂_map_right_iff.2 (same.imp fun _ _ pair=>pair.1.symm))
 rw [List.forall₂_eq_eq_eq] at addresses
 exact addresses ▸ sub.map _

def NextOrFailed (x : ScanStep) : Prop :=
 (∃ query,x.op=.nextScan query) ∨ ∃ error,x.result=.error error

/-- However often a scan is narrowed, it only loses candidates: their addresses are, in order, among
 those that the last other step left. -/
theorem run_only_narrows {h : List ScanStep} {scanner : MemoryScanner}
 (run : (machine library arithmetic).Run h scanner) {y : ScanStep}
 (since : Since NextOrFailed h y) :
 (scanner.candidates.map (·.address)).Sublist (y.after.candidates.map (·.address)) := by
 induction run with
 | nil => exact absurd since.mem List.not_mem_nil
 | snoc _ x start valid ih =>
  rcases since.of_snoc with rfl|⟨since,kind⟩
  · exact .refl _
  refine .trans ?_ (start ▸ ih since)
  have step:=step_history x valid
  obtain ⟨_,_,_,_,_⟩ := x
  cases step with
  | failed _ _ same => exact same.candidates ▸ .refl _
  | scanned | reset => simp [NextOrFailed] at kind
  | narrowed _ _ narrowed => exact narrowed.addresses

/-- The cancelled scan loses nothing, the one after it the value that has become nine. -/
theorem sampleScans_narrow : ∃ t v,
 ((sampleNarrowed v).after.candidates.map (·.address)).Sublist
  ((sampleFirst t).after.candidates.map (·.address)) ∧
 (sampleFirst t).after.candidates.map (·.address)=[0x1001,0x2001] ∧
 (sampleNarrowed v).after.candidates.map (·.address)=[0x1001] := by
 obtain ⟨t,u,v,run⟩ := sampleScans_run
 have first : (sampleFirst []).after.candidates.map (·.address)=[0x1001,0x2001] := by
  decide +kernel
 have last : (sampleNarrowed []).after.candidates.map (·.address)=[0x1001] := by
  decide +kernel
 have since : Since NextOrFailed [sampleFirst t,sampleCancelled u,sampleNarrowed v]
  (sampleFirst t) :=
  ((Since.here _ [] _).snoc (.inr ⟨_,sampleCancelled_result⟩)).snoc (.inl ⟨_,rfl⟩)
 exact ⟨t,v,run_only_narrows run since,first,last⟩

end History

end MemoryScanner
end KDbg
