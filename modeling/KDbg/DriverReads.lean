import KDbg.StaticMemory
set_option autoImplicit false
/-! What the driver reads of physical memory for a caller. Page tables may name any physical
address; memory that is not RAM must not be touched. -/
namespace KDbg
open Interaction Prog

namespace Driver
open Device (TranslateRequest TranslateResponse kTranslateFlagLa57Active kTranslateFlagPresent
 kTranslateFlagProcessCr3 kTranslateRequestSize)

def readPhysical (address length : UInt64) : KernelM (NtStatus×List UInt8) := do
 match ← Kernel.physicalMemoryRanges with
 | none => return (.insufficientResources,[])
 | some ranges => readPhysicalWithSnapshot ranges address length

def Reports (report : Option (List PhysicalMemoryRange)) (e : KernelEvent) : Prop :=
 ∀ answer,e=⟨.physicalMemoryRanges,answer⟩ → answer=report

def ReadsRam (report : Option (List PhysicalMemoryRange)) (e : KernelEvent) : Prop :=
 ∀ address length,e.call=.copyPhysical address length →
  ∃ range∈reportedRanges (report.getD []),range.Covers address.toNat length.toNat

/-- If the kernel reports these ranges as RAM, or none, each read lies inside one of them. -/
abbrev KeepsToRam (report : Option (List PhysicalMemoryRange)) {α : Type} (p : KernelM α) : Prop :=
 p.Keeps (Reports report) (ReadsRam report)

variable {ranges:List PhysicalMemoryRange}

lemma keepsToRam_reported {α:Type} {f:Option (List PhysicalMemoryRange)→KernelM α}
 {report:Option (List PhysicalMemoryRange)} (rest:KeepsToRam report (f report)) :
 KeepsToRam report (Kernel.physicalMemoryRanges >>= f) := by
 refine keeps_ask_bind fun answer told => ?_
 obtain rfl := told answer rfl
 exact ⟨fun _ _ same=>(by cases same),rest⟩

lemma readPhysicalWithSnapshot_keepsToRam (address length:UInt64) :
 KeepsToRam (some ranges) (readPhysicalWithSnapshot ranges address length) := by
 unfold readPhysicalWithSnapshot
 split
 · exact keeps_pure _
 split
 · exact keeps_pure _
 rename_i ram
 refine keeps_ask_bind (f := pure) fun _ _=>⟨?_,keeps_pure _⟩
 rintro _ _ ⟨⟩
 exact covers_of_isPhysicalRamRange (by simpa using ram)

lemma translateSlots_keepsToRam (request:TranslateRequest) (slots:List (UInt32×UInt32))
 (table:UInt64) (response:TranslateResponse) :
 KeepsToRam (some ranges) (translateSlots ranges request slots table response) := by
 induction slots generalizing table response with
 | nil => exact keeps_pure _
 | cons slot slots ih =>
  have entry (address:UInt64) : KeepsToRam (some ranges) (readPhysicalU64 ranges address) := by
   refine keeps_bind (readPhysicalWithSnapshot_keepsToRam _ _) fun answer => ?_
   dsimp only
   split
   · exact keeps_pure _
   · split <;> exact keeps_pure _
  refine keeps_bind (entry _) fun read => ?_
  cases read with
  | error => exact keeps_pure _
  | ok =>
   dsimp only
   split
   · exact keeps_pure _
   · exact ih _ _

lemma translationBase_keepsToRam (report:Option (List PhysicalMemoryRange))
 (registers:ControlRegisters) (request:TranslateRequest) :
 KeepsToRam report (translationBase registers request) := by
 unfold translationBase referenceProcessCr3
 dsimp only
 split
 · refine keeps_bind ?_ fun found => ?_
   · split
     · exact keeps_pure _
     · refine keeps_ask_bind fun _ _=>⟨fun _ _ same=>(by cases same),?_⟩
       split <;> exact keeps_pure _
   · split <;> exact keeps_pure _
 · exact keeps_pure _

/-- However memory looks and whatever the tables hold, the two requests that read physical memory
 read only what the kernel reports as RAM. -/
theorem physical_reads_keep_to_ram (report : Option (List PhysicalMemoryRange))
 (registers : ControlRegisters) (request : TranslateRequest) (address length : UInt64) :
 KeepsToRam report (translateVirtual registers request) ∧
  KeepsToRam report (readPhysical address length) := by
 constructor
 · unfold translateVirtual
   split
   · exact keeps_pure _
   refine keeps_bind (translationBase_keepsToRam report registers request) fun base => ?_
   cases base with
   | error => exact keeps_pure _
   | ok =>
    dsimp only
    split
    · exact keeps_pure _
    refine keepsToRam_reported ?_
    cases report with
    | none => exact keeps_pure _
    | some => exact translateSlots_keepsToRam request _ _ _
 · refine keepsToRam_reported ?_
   cases report with
   | none => exact keeps_pure _
   | some => exact readPhysicalWithSnapshot_keepsToRam address length

lemma translationBase_flags {registers:ControlRegisters} {request:TranslateRequest}
 {t:List KernelEvent} {base:UInt64} {flags:UInt32}
 (ran:(translationBase registers request).Exec t (.ok (base,flags))) :
 flags=0 ∨ flags=kTranslateFlagProcessCr3 := by
 unfold translationBase at ran
 dsimp only at ran
 split at ran
 · obtain ⟨_,found,_,rfl,-,rest⟩:=ran.of_bind
   cases found with
   | error => simp at rest
   | ok =>
    obtain ⟨-,same⟩:=rest.of_pure
    cases same
    exact .inr rfl
 · obtain ⟨-,same⟩:=ran.of_pure
   cases same
   exact .inl rfl

/-- A response to an address whose walk does not end at a page does not say that it does. -/
lemma translated_of_present {request:TranslateRequest} {base:UInt64} {flags:UInt32} {la57:Bool}
 {visits:List Visit} {last:Visit} {translated:Bool}
 (origin:flags=0 ∨ flags=kTranslateFlagProcessCr3)
 (mapped:(walkResponse request (startResponse request base flags la57) visits last
  translated).flags &&& kTranslateFlagPresent≠0) : translated=true := by
 rw [flags_walkResponse] at mapped
 cases translated with
 | true => rfl
 | false =>
  change (if la57 then flags ||| kTranslateFlagLa57Active else flags) &&&
   kTranslateFlagPresent≠0 at mapped
  rcases origin with rfl|rfl <;> cases la57 <;> exact (mapped rfl).elim

lemma isCanonical_of_same_page {address address':UInt64} {la57:Bool} {level:ℕ}
 (page:level=1 ∨ level=2 ∨ level=3)
 (same:address.toNat/2^levelShift level=address'.toNat/2^levelShift level)
 (canonical:isCanonical address la57=true) : isCanonical address' la57=true := by
 have pos:=Nat.two_pow_pos (levelShift level)
 -- both bounds of the canonical addresses are bounds of pages
 have bounds : 2^levelShift level ∣ 2^(addressBits la57-1) ∧
  2^levelShift level ∣ 2^64-2^(addressBits la57-1) := by
  rcases page with rfl|rfl|rfl <;> cases la57 <;> decide
 obtain ⟨_,lower⟩:=exists_eq_mul_left_of_dvd bounds.1
 obtain ⟨_,upper⟩:=exists_eq_mul_left_of_dvd bounds.2
 rw [isCanonical_iff,upper,lower,←Nat.div_lt_iff_lt_mul pos,←Nat.le_div_iff_mul_le pos]
  at canonical ⊢
 rwa [←same]

/-- The walk of a translation that a kernel of fixed answers leads to: its entries are those that
 the driver reads at their addresses. -/
lemma translateVirtual_reads {kernel:(c:KernelCall)→KernelAnswer c} {registers:ControlRegisters}
 {request:TranslateRequest} {response:TranslateResponse}
 (ran:(translateVirtual registers request).run kernel=.ok response) :
 Wellformed request ∧ isCanonical request.virtualAddress registers.la57=true ∧
  ∃ base flags ranges visits last translated,
   (translationBase registers request).run kernel=.ok (base,flags) ∧
   (flags=0 ∨ flags=kTranslateFlagProcessCr3) ∧ kernel .physicalMemoryRanges=some ranges ∧
   PageWalk (fun place entry=>(readPhysicalU64 ranges place).run kernel=.ok entry)
    request.virtualAddress.toNat (pagingLevels registers.la57) base visits last translated ∧
   response=walkResponse request (startResponse request base flags registers.la57) visits last
    translated := by
 obtain ⟨t,exec,answered⟩:=exec_run kernel (translateVirtual registers request)
 rw [ran] at exec
 obtain ⟨wellformed,canonical,base,flags,ranges,u,v,rfl,based,rest⟩:=translateVirtual_exec exec
 have reads : Reads ranges (fun place entry=>(readPhysicalU64 ranges place).run kernel=.ok entry)
  v := by
  intro w _ _ sub read
  exact (read.eq_run fun e mem=>answered e
   (List.mem_append_right _ (List.mem_cons_of_mem _ (sub mem)))).symm
 have levels:=pagingLevels_le registers.la57
 obtain ⟨visits,last,translated,walk,same⟩ :=
  translateSlots_walk (pagingLevels_pos _) levels (startResponse_room _ _ _ _ levels) rest reads
 refine ⟨wellformed,canonical,base,flags,ranges,visits,last,translated,?_,
  translationBase_flags based,?_,walk,same⟩
 · exact (based.eq_run fun e mem=>answered e (List.mem_append_left _ mem)).symm
 · exact (answered _ (List.mem_append_right _ List.mem_cons_self)).symm

/-- A page is translated as a whole. When a kernel of fixed answers lets the driver answer a
 request with a page, it lets it answer the request for any other address of that page, with the
 same page, and the two physical addresses are as far apart as the two virtual ones. -/
theorem translation_shifts_page {kernel : (c : KernelCall)→KernelAnswer c}
 {registers : ControlRegisters} {request : TranslateRequest} {response : TranslateResponse}
 (ran : (translateVirtual registers request).run kernel=.ok response)
 (mapped : response.flags &&& kTranslateFlagPresent≠0) (length : UInt32)
 (virtualAddress : UInt64) (nonzero : length≠0) (fits : length.toNat ≤ kMaxTransferSize)
 (inside : request.virtualAddress.toNat/response.pageSize.toNat =
  virtualAddress.toNat/response.pageSize.toNat) :
 ∃ response',
  (translateVirtual registers { request with length,virtualAddress }).run kernel=.ok response' ∧
  response'.flags=response.flags ∧ response'.pageSize=response.pageSize ∧
  response'.directoryTableBase=response.directoryTableBase ∧
  response'.physicalAddress.toNat+request.virtualAddress.toNat =
   response.physicalAddress.toNat+virtualAddress.toNat := by
 obtain ⟨⟨size,noFlags,-,-,single,aligned⟩,canonical,base,flags,ranges,visits,last,translated,
  based,origin,snapshot,walk,rfl⟩ := translateVirtual_reads ran
 obtain rfl:=translated_of_present origin mapped
 have page:=level_of_leafEntry walk.leafEntry
 have inside : request.virtualAddress.toNat/2^levelShift last.level =
  virtualAddress.toNat/2^levelShift last.level := toNat_leafPageSize page ▸ inside
 -- neither the walk nor the check of the address looks below the page
 have walk':=walk.of_same_page inside
 have wellformed : Wellformed { request with length,virtualAddress } :=
  ⟨size,noFlags,nonzero,fits,single,aligned⟩
 have ran' := translateVirtual_run wellformed (isCanonical_of_same_page page inside canonical)
  based snapshot walk' walk'.held
 refine ⟨_,ran',?_,rfl,?_,?_⟩
 · rw [flags_walkResponse,flags_walkResponse]
   rfl
 · rw [walkResponse_field (·.directoryTableBase),walkResponse_field (·.directoryTableBase)]
   rfl
 · -- the response has the low bits of the address in place of those of the page
   have low:=Nat.div_add_mod request.virtualAddress.toNat (2^levelShift last.level)
   have low':=Nat.div_add_mod virtualAddress.toNat (2^levelShift last.level)
   rw [←inside] at low'
   refine (congrArg (·+_) (toNat_physicalAddress page last.entry virtualAddress)).trans ?_
   refine Eq.trans ?_ (congrArg (·+_) (toNat_physicalAddress page last.entry
    request.virtualAddress)).symm
   omega

/-- A request for the process 4, whose CR3 names the first sample table. -/
def sampleRequest : TranslateRequest := ⟨kTranslateRequestSize,0,4,1,0,0x123000⟩

def sampleTranslation (request : TranslateRequest) : Except NtStatus TranslateResponse :=
 (translateVirtual ⟨0x5000,0,fun _=>0x1000⟩ request).run sampleKernel

lemma sampleTranslation_ok : ∃ response,sampleTranslation sampleRequest=.ok response ∧
 response.flags &&& kTranslateFlagPresent≠0 ∧ response.pageSize=0x40000000 ∧
 response.physicalAddress=0x40123000 :=
 ⟨_,rfl,by decide,rfl,rfl⟩

theorem sampleTranslation_shifts : ∃ response',
 sampleTranslation { sampleRequest with length := 64,virtualAddress := 0x456789 }=.ok response' ∧
 response'.physicalAddress.toNat=0x40456789 := by
 obtain ⟨response,ran,mapped,size,physical⟩ := sampleTranslation_ok
 obtain ⟨response',ran',-,-,-,shifted⟩ :=
  translation_shifts_page ran mapped 64 0x456789 (by decide) (by decide) (by rw [size];rfl)
 rw [physical] at shifted
 exact ⟨response',ran',Nat.add_right_cancel shifted⟩

end Driver
end KDbg
