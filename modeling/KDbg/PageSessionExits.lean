import KDbg.PageSessionOutcomes
set_option autoImplicit false
/-!
Every way in which a backend operation of the page session can return, with
its complete trace. The later modules argue from these lists of exits and
never unfold an operation again.
-/
namespace KDbg.PageSession
open Interaction

/-- What `ValidatePageRange` makes of the ranges the backend reports. -/
def rangeVerdict (target : PhysicalWriteTarget) : Result (List PhysicalRange)→Result Unit
 | .error e => .error e
 | .ok ranges =>
  if ranges.any (fun range=>range.contains target.address.physicalAddress
   (UInt64.ofNat kPhysicalPageSize)) then .ok ()
  else .error (makeError .outsidePhysicalRam
   "The complete 4 KiB page is not inside a physical RAM range"
   "PhysicalPageSession::ValidatePageRange")

/-- What `ReadExactPage` makes of the bytes the backend returns. -/
def pageVerdict : Result (List UInt8)→Result Page
 | .error e => .error e
 | .ok bytes =>
  if h : bytes.length=kPhysicalPageSize then .ok (pageOfBytes bytes h)
  else .error (makeError .shortRead "Backend did not return a complete 4 KiB page"
   "PhysicalPageSession::ReadExactPage" 0 (UInt64.ofNat kPhysicalPageSize)
   (UInt64.ofNat bytes.length))

def pageRead (target : PhysicalWriteTarget) : BackendCall :=
 .readPhysical target.address.physicalAddress (UInt32.ofNat kPhysicalPageSize)

variable {s s':PageSession} {target:PhysicalWriteTarget} {t:List BackendEvent}
 {r:Result Unit}

lemma validatePageRange_exec (loaded:s.target=some target) :
 s.validatePageRange.Exec t r ↔
  ∃ ranges,t=[⟨.getPhysicalRanges,ranges⟩] ∧ r=rangeVerdict target ranges := by
 unfold validatePageRange
 rw [loaded]
 refine (Prog.exec_ask_bind _ _ _ _).trans (exists_congr fun ranges => ?_)
 cases ranges with
 | error => simp [rangeVerdict]
 | ok ranges =>
  by_cases h:ranges.any (fun range=>range.contains target.address.physicalAddress
   (UInt64.ofNat kPhysicalPageSize))=true
  · simp [rangeVerdict,h]
  · simp [rangeVerdict,h]

lemma readExactPage_exec (loaded:s.target=some target) {r:Result Page} :
 s.readExactPage.Exec t r ↔
  ∃ bytes,t=[⟨pageRead target,bytes⟩] ∧ r=pageVerdict bytes := by
 unfold readExactPage
 rw [loaded]
 refine (Prog.exec_ask_bind _ _ _ _).trans (exists_congr fun bytes => ?_)
 cases bytes with
 | error => simp [pageVerdict,pageRead]
 | ok bytes =>
  by_cases h:bytes.length=kPhysicalPageSize
  · simp [pageVerdict,pageRead,h]
  · simp [pageVerdict,pageRead,h]

/-- An operation that starts with `ValidatePageRange` fails with its error, or the rest runs. -/
lemma validated_cases {k:Result Unit→BackendM (Result Unit×PageSession)}
 (h:(s.validatePageRange >>= k).Exec t (r,s')) (loaded:s.target=some target)
 (refuses:∀ e,k (.error e)=pure (s.failWith e .error)) :
 (∃ ranges e,rangeVerdict target ranges=.error e ∧ FailedWith s e .error s' ∧
  t=[⟨.getPhysicalRanges,ranges⟩] ∧ r=.error e) ∨
 ∃ ranges u,rangeVerdict target ranges=.ok () ∧ (k (.ok ())).Exec u (r,s') ∧
  t=⟨.getPhysicalRanges,ranges⟩::u := by
 obtain ⟨u,verdict,v,rfl,hu,hv⟩:=h.of_bind
 obtain ⟨ranges,rfl,hr⟩:=(validatePageRange_exec loaded).1 hu
 cases verdict with
 | error e =>
  rw [refuses] at hv
  obtain ⟨rfl,hs⟩:=hv.of_pure
  obtain ⟨rfl,failed⟩:=failWith_cases hs
  exact .inl ⟨ranges,e,hr.symm,failed,rfl,rfl⟩
 | ok => exact .inr ⟨ranges,v,hr.symm,hv,rfl⟩

def unloaded (s : PageSession) : PageSession :=
 { s.lockWrite.clearPageData with state := .error }

def loadedPage (s : PageSession) (target : PhysicalWriteTarget) (page : Page) : PageSession :=
 { s.lockWrite.clearPageData with
   target := some target
   baseline := page
   working := page
   evidence := { baseline := some page }
   revision := s.revision+1
   state := .clean }

inductive LoadExit (s:PageSession) (target:PhysicalWriteTarget) :
 List BackendEvent→Result Unit→PageSession→Prop where
 | inconsistent (e:Error) : LoadExit s target [] (.error e) s.unloaded
 | rejected (ranges:Result (List PhysicalRange)) (e:Error)
  (verdict:rangeVerdict target ranges=.error e) :
  LoadExit s target [⟨.getPhysicalRanges,ranges⟩] (.error e) s.unloaded
 | unread (ranges:Result (List PhysicalRange)) (bytes:Result (List UInt8)) (e:Error)
  (verdict:rangeVerdict target ranges=.ok ()) (read:pageVerdict bytes=.error e) :
  LoadExit s target [⟨.getPhysicalRanges,ranges⟩,⟨pageRead target,bytes⟩] (.error e)
   s.unloaded
 | loaded (ranges:Result (List PhysicalRange)) (bytes:Result (List UInt8)) (page:Page)
  (verdict:rangeVerdict target ranges=.ok ()) (read:pageVerdict bytes=.ok page) :
  LoadExit s target [⟨.getPhysicalRanges,ranges⟩,⟨pageRead target,bytes⟩] (.ok ())
   (s.loadedPage target page)

lemma load_exit (h:(s.load target).Exec t (r,s')) : LoadExit s target t r s' := by
 unfold load at h
 split at h
 · obtain ⟨rfl,rfl,rfl⟩:=h.of_pure_prod
   exact .inconsistent _
 · split at h
   · obtain ⟨rfl,rfl,rfl⟩:=h.of_pure_prod
     exact .inconsistent _
   · obtain ⟨u,verdict,v,rfl,hu,hv⟩:=h.of_bind
     obtain ⟨ranges,rfl,hr⟩:=(validatePageRange_exec rfl).1 hu
     cases verdict with
     | error e =>
      obtain ⟨rfl,rfl,rfl⟩:=hv.of_pure_prod
      exact .rejected ranges e hr.symm
     | ok =>
      obtain ⟨w,page,x,rfl,hw,hx⟩:=hv.of_bind
      obtain ⟨bytes,rfl,hb⟩:=(readExactPage_exec rfl).1 hw
      cases page with
      | error e =>
       obtain ⟨rfl,rfl,rfl⟩:=hx.of_pure_prod
       exact .unread ranges bytes e hr.symm hb.symm
      | ok page =>
       obtain ⟨rfl,rfl,rfl⟩:=hx.of_pure_prod
       exact .loaded ranges bytes page hr.symm hb.symm

/-- The guards of `ReloadPreservingRollback` pass. -/
structure ReloadReady (s : PageSession) (target : PhysicalWriteTarget) : Prop where
 loaded : s.target=some target
 staged : s.isDirty=true → s.recoveryObservationRequired=true
 snapshot : s.rollbackSnapshot.isSome=true
 idle : s.operationActive=false

inductive ReloadExit (s:PageSession) :
 List BackendEvent→Result Unit→PageSession→Prop where
 | refused (e:Error) (guard:∀ target,¬ ReloadReady s target) : ReloadExit s [] (.error e) s
 | rejected {target:PhysicalWriteTarget} (ready:ReloadReady s target)
  (ranges:Result (List PhysicalRange)) (e:Error)
  (verdict:rangeVerdict target ranges=.error e) {s':PageSession}
  (failed:FailedWith s.beginReload e .error s') :
  ReloadExit s [⟨.getPhysicalRanges,ranges⟩] (.error e) s'
 | unread {target:PhysicalWriteTarget} (ready:ReloadReady s target)
  (ranges:Result (List PhysicalRange)) (bytes:Result (List UInt8)) (e:Error)
  (verdict:rangeVerdict target ranges=.ok ()) (read:pageVerdict bytes=.error e)
  {s':PageSession}
  (failed:FailedWith { s.beginReload with state := .verifying } e .verificationFailed s') :
  ReloadExit s [⟨.getPhysicalRanges,ranges⟩,⟨pageRead target,bytes⟩] (.error e) s'
 | observed {target:PhysicalWriteTarget} (ready:ReloadReady s target)
  (ranges:Result (List PhysicalRange)) (bytes:Result (List UInt8)) (page:Page)
  (verdict:rangeVerdict target ranges=.ok ()) (read:pageVerdict bytes=.ok page)
  {r:Result Unit} {s':PageSession}
  (settled:ReloadObserved { s.beginReload with state := .verifying } page r s') :
  ReloadExit s [⟨.getPhysicalRanges,ranges⟩,⟨pageRead target,bytes⟩] r s'

lemma reload_exit (h:s.reloadPreservingRollback.Exec t (r,s')) : ReloadExit s t r s' := by
 unfold reloadPreservingRollback at h
 simp only [Bool.and_eq_true,Bool.not_eq_eq_eq_not,Bool.not_true] at h
 split at h
 · rename_i hn
   obtain ⟨rfl,rfl,rfl⟩:=h.of_pure_prod
   exact .refused _ fun _ ready=>by simp [ready.loaded] at hn
 · rename_i hn
   obtain ⟨target,loaded⟩:=Option.ne_none_iff_exists'.1 (by simpa using hn)
   split at h
   · rename_i hd
     obtain ⟨rfl,rfl,rfl⟩:=h.of_pure_prod
     exact .refused _ fun _ ready=>by simp [ready.staged hd.1] at hd
   · rename_i hd
     split at h
     · obtain ⟨rfl,rfl,rfl⟩:=h.of_pure_prod
       exact .refused _ fun _ ready=>by
        have := ready.snapshot
        simp_all
     · rename_i hs
       split at h
       · rename_i ha
         obtain ⟨rfl,rfl,rfl⟩:=h.of_pure_prod
         exact .refused _ fun _ ready=>by simp [ready.idle] at ha
       · rename_i ha
         have ready : ReloadReady s target :=
          ⟨loaded,fun h=>by simpa using fun hr=>hd ⟨h,hr⟩,
           by simpa [Option.isSome_iff_ne_none] using hs,by simpa using ha⟩
         rcases validated_cases h loaded fun _=>rfl with
          ⟨ranges,e,verdict,failed,rfl,rfl⟩ | ⟨ranges,v,verdict,hv,rfl⟩
         · exact .rejected ready ranges e verdict failed
         · obtain ⟨w,page,x,rfl,hw,hx⟩:=hv.of_bind
           obtain ⟨bytes,rfl,hb⟩:=(readExactPage_exec loaded).1 hw
           cases page with
           | error e =>
            obtain ⟨rfl,hs⟩:=hx.of_pure
            obtain ⟨rfl,failed⟩:=failWith_cases hs
            exact .unread ready ranges bytes e verdict hb.symm failed
           | ok page =>
            obtain ⟨rfl,hs⟩:=hx.of_pure
            obtain ⟨rfl,rfl⟩:=Prod.mk.inj hs
            exact .observed ready ranges bytes page verdict hb.symm
             (observeReload_observed _ rfl page)

def transactionTrace (target : PhysicalWriteTarget) (expected desired : Page)
 (ranges : Result (List PhysicalRange)) (answer : Result PhysicalPageCompareWriteResult)
 (closing : List BackendEvent) : List BackendEvent :=
 ⟨.getPhysicalRanges,ranges⟩::⟨.setWriteEnabled true, .ok ()⟩ ::
  ⟨.compareWritePhysicalPage target.address.physicalAddress expected desired,answer⟩::closing

lemma mem_transactionTrace (target:PhysicalWriteTarget) (expected desired:Page)
 (ranges:Result (List PhysicalRange)) (answer:Result PhysicalPageCompareWriteResult)
 (closing:List BackendEvent) :
 ⟨.compareWritePhysicalPage target.address.physicalAddress expected desired,answer⟩ ∈
  transactionTrace target expected desired ranges answer closing := by
 simp [transactionTrace]

/-- The guards of `ApplyAndVerify` pass. -/
structure ApplyReady (s : PageSession) (target : PhysicalWriteTarget) : Prop where
 loaded : s.target=some target
 dirty : s.isDirty=true
 unlocked : s.writeUnlocked=true

inductive ApplyExit (s:PageSession) :
 List BackendEvent→Result Unit→PageSession→Prop where
 | refused (e:Error) (guard:∀ target,¬ ApplyReady s target) : ApplyExit s [] (.error e) s
 | rejected {target:PhysicalWriteTarget} (ready:ApplyReady s target)
  (ranges:Result (List PhysicalRange)) (e:Error)
  (verdict:rangeVerdict target ranges=.error e) {s':PageSession}
  (failed:FailedWith s.beginApply e .error s') :
  ApplyExit s [⟨.getPhysicalRanges,ranges⟩] (.error e) s'
 | gateRefused {target:PhysicalWriteTarget} (ready:ApplyReady s target)
  (ranges:Result (List PhysicalRange)) (verdict:rangeVerdict target ranges=.ok ())
  (gate:List BackendEvent) (e:Error) (opening:WriteGateGuard.Opening gate (.error e))
  {s':PageSession}
  (failed:FailedWith { s.beginApply.stageApply with rollbackSnapshot := none } e .error s') :
  ApplyExit s (⟨.getPhysicalRanges,ranges⟩::gate) (.error e) s'
 | transacted {target:PhysicalWriteTarget} (ready:ApplyReady s target)
  (ranges:Result (List PhysicalRange)) (verdict:rangeVerdict target ranges=.ok ())
  (answer:Result PhysicalPageCompareWriteResult) (closing:List BackendEvent)
  (closed:Result Unit) (closes:WriteGateGuard.Closing closing closed)
  {r:Result Unit} {s':PageSession}
  (settled:ApplySettled { s.beginApply.stageApply with state := .writing } answer closed
   r s') :
  ApplyExit s (transactionTrace target s.baseline s.working ranges answer closing) r s'

lemma apply_exit (h:s.applyAndVerify.Exec t (r,s')) : ApplyExit s t r s' := by
 unfold applyAndVerify at h
 cases loaded:s.target with
 | none =>
  simp only [loaded] at h
  obtain ⟨rfl,rfl,rfl⟩:=h.of_pure_prod
  exact .refused _ fun _ ready=>by simp [ready.loaded] at loaded
 | some target =>
  simp only [loaded,Bool.not_eq_eq_eq_not,Bool.not_true] at h
  split at h
  · rename_i hd
    obtain ⟨rfl,rfl,rfl⟩:=h.of_pure_prod
    exact .refused _ fun _ ready=>by simp [ready.dirty] at hd
  · rename_i hd
    split at h
    · rename_i hw
      obtain ⟨rfl,rfl,rfl⟩:=h.of_pure_prod
      exact .refused _ fun _ ready=>by simp [ready.unlocked] at hw
    · rename_i hw
      have ready:ApplyReady s target:=⟨loaded,by simpa using hd,by simpa using hw⟩
      rcases validated_cases h loaded fun _=>rfl with
       ⟨ranges,e,verdict,failed,rfl,rfl⟩ | ⟨ranges,v,verdict,hv,rfl⟩
      · exact .rejected ready ranges e verdict failed
      · rcases WriteGateGuard.transact_exec hv with
         ⟨e,opening,hs⟩ | ⟨answer,closing,closed,closes,hs,rfl⟩
        · obtain ⟨rfl,failed⟩:=failWith_cases hs
          exact .gateRefused ready ranges verdict v e opening failed
        · obtain ⟨rfl,rfl⟩:=Prod.mk.inj hs
          exact .transacted ready ranges verdict answer closing closed closes
           (settleApply_settled _ rfl answer closed)

/-- The guards of `RollbackBaseline` pass. -/
structure RollbackReady (s : PageSession) (target : PhysicalWriteTarget)
 (snapshot expected : Page) : Prop where
 loaded : s.target=some target
 snapshot : s.rollbackSnapshot=some snapshot
 expected : s.rollbackExpected=some expected
 unlocked : s.writeUnlocked=true

inductive RollbackExit (s:PageSession) :
 List BackendEvent→Result Unit→PageSession→Prop where
 | refused (e:Error) (guard:∀ target snapshot expected,
  ¬ RollbackReady s target snapshot expected) : RollbackExit s [] (.error e) s
 | rejected {target:PhysicalWriteTarget} {snapshot expected:Page}
  (ready:RollbackReady s target snapshot expected)
  (ranges:Result (List PhysicalRange)) (e:Error)
  (verdict:rangeVerdict target ranges=.error e) {s':PageSession}
  (failed:FailedWith s.beginRollback e .error s') :
  RollbackExit s [⟨.getPhysicalRanges,ranges⟩] (.error e) s'
 | gateRefused {target:PhysicalWriteTarget} {snapshot expected:Page}
  (ready:RollbackReady s target snapshot expected)
  (ranges:Result (List PhysicalRange)) (verdict:rangeVerdict target ranges=.ok ())
  (gate:List BackendEvent) (e:Error) (opening:WriteGateGuard.Opening gate (.error e))
  {s':PageSession} (failed:FailedWith s.beginRollback e .error s') :
  RollbackExit s (⟨.getPhysicalRanges,ranges⟩::gate) (.error e) s'
 | transacted {target:PhysicalWriteTarget} {snapshot expected:Page}
  (ready:RollbackReady s target snapshot expected)
  (ranges:Result (List PhysicalRange)) (verdict:rangeVerdict target ranges=.ok ())
  (answer:Result PhysicalPageCompareWriteResult) (closing:List BackendEvent)
  (closed:Result Unit) (closes:WriteGateGuard.Closing closing closed)
  {r:Result Unit} {s':PageSession}
  (settled:RollbackSettled { s.beginRollback with state := .writing } snapshot answer
   closed r s') :
  RollbackExit s (transactionTrace target expected snapshot ranges answer closing) r s'

lemma rollback_exit (h:s.rollbackBaseline.Exec t (r,s')) : RollbackExit s t r s' := by
 unfold rollbackBaseline at h
 cases loaded:s.target with
 | none =>
  simp only [loaded] at h
  obtain ⟨rfl,rfl,rfl⟩:=h.of_pure_prod
  exact .refused _ fun _ _ _ ready=>by simp [ready.loaded] at loaded
 | some target =>
  simp only [loaded,Bool.not_eq_eq_eq_not,Bool.not_true] at h
  split at h
  · rename_i snapshot expected hs he
    split at h
    · rename_i hw
      obtain ⟨rfl,rfl,rfl⟩:=h.of_pure_prod
      exact .refused _ fun _ _ _ ready=>by simp [ready.unlocked] at hw
    · rename_i hw
      have ready:RollbackReady s target snapshot expected:=⟨loaded,hs,he,by simpa using hw⟩
      rcases validated_cases h loaded fun _=>rfl with
       ⟨ranges,e,verdict,failed,rfl,rfl⟩ | ⟨ranges,v,verdict,hv,rfl⟩
      · exact .rejected ready ranges e verdict failed
      · rcases WriteGateGuard.transact_exec hv with
         ⟨e,opening,hs⟩ | ⟨answer,closing,closed,closes,hs,rfl⟩
        · obtain ⟨rfl,failed⟩:=failWith_cases hs
          exact .gateRefused ready ranges verdict v e opening failed
        · obtain ⟨rfl,rfl⟩:=Prod.mk.inj hs
          exact .transacted ready ranges verdict answer closing closed closes
           (settleRollback_settled _ rfl snapshot expected answer closed)
  · rename_i hpair
    obtain ⟨rfl,rfl,rfl⟩:=h.of_pure_prod
    exact .refused _ fun _ snapshot expected ready =>
     hpair snapshot expected ready.snapshot ready.expected

end KDbg.PageSession
