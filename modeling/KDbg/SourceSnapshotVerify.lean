import KDbg.SourceSnapshotManifest
set_option autoImplicit false
/-! Verifying a snapshot against the tree that it was taken from. -/
namespace KDbg.SourceSnapshot
open WideText Fallible

/-- The tree after the outputs are written: only they, and directories, can differ. -/
structure Unchanged (root after : Node) (outputs : List Output) : Prop where
 legal : after.Legal
 isDirectory : after.isDirectory=true
 same : ∀ path leaf,Output.inside path ∉ outputs → leaf.isDirectory=false →
  (root.find path=some leaf ↔ after.find path=some leaf)

section Verify
variable {fnmatchcase:Text→Text→Bool} {hash:Hash} {scope:ScopeConfig}
 {root after:Node} {outputs:List Output}

lemma Unchanged.mem_candidates (h:Unchanged root after outputs) {path:Components}
 (fresh:Output.inside path ∉ outputs) :
 path∈(searchRoots scope).flatMap (rootCandidates fnmatchcase scope after) ↔
  path∈(searchRoots scope).flatMap (rootCandidates fnmatchcase scope root) := by
 simp only [List.mem_flatMap,mem_rootCandidates]
 refine exists_congr fun _=>and_congr_right fun _=>exists_congr fun _ =>
  exists_congr fun leaf=>and_congr_right fun _ => ?_
 by_cases isLeaf:leaf.isDirectory=false
 · rw [h.same path leaf fresh isLeaf]
 · simp [isLeaf]

/-- The loop succeeds if every candidate that is selected is a file. -/
lemma collect_of_files {candidates yielded:List Components}
 (files:∀path∈candidates,selected fnmatchcase scope (posix path)=true →
  ∃ content,root.find path=some (.file content)) :
 ∃ result,collect fnmatchcase scope root yielded candidates=.ok result := by
 induction candidates generalizing yielded with
 | nil => exact ⟨[],rfl⟩
 | cons candidate candidates ih =>
  have later (yielded:List Components) :
   ∃ result,collect fnmatchcase scope root yielded candidates=.ok result :=
   ih fun path member=>files path (List.mem_cons_of_mem _ member)
  rw [collect]
  split
  · exact later yielded
  · rename_i taken
    have chosen:=Bool.eq_true_of_not_eq_false (not_or.1 taken).2
    obtain ⟨_,file⟩:=files candidate List.mem_cons_self chosen
    obtain ⟨result,rest⟩:=later (candidate::yielded)
    exact ⟨candidate::result,by rw [file];rw [rest];rfl⟩

lemma Captured.unique {records others:List Record}
 (first:Captured fnmatchcase hash scope root records)
 (second:Captured fnmatchcase hash scope after others)
 (same:∀path content,Selected fnmatchcase scope root path content ↔
  Selected fnmatchcase scope after path content) : others=records := by
 refine second.sorted.eq_of_mem_iff first.sorted fun _ => ?_
 rw [first.exact,second.exact]
 simp only [same]

lemma captureTree_unchanged {records:List Record} (legal:root.Legal)
 (h:Unchanged root after outputs)
 (unselected:∀path,Output.inside path∈outputs →
  selected fnmatchcase scope (posix path)=false)
 (captured:captureTree fnmatchcase hash root scope=.ok records) :
 captureTree fnmatchcase hash after scope=.ok records := by
 have fresh {path:Components} (chosen:selected fnmatchcase scope (posix path)=true) :
  Output.inside path ∉ outputs := fun member=>by
  rw [unselected path member] at chosen
  cases chosen
 have same : ∀path content,Selected fnmatchcase scope root path content ↔
  Selected fnmatchcase scope after path content := by
  intro path _
  refine and_congr_left fun chosen=>h.same path _ (fresh chosen) rfl
 obtain ⟨_,filled,exact⟩:=captureTree_eq_ok legal captured
 have paths:∃ paths,candidatePaths fnmatchcase scope after=.ok paths:=by
  obtain ⟨⟨⟩,-,captured⟩:=exists_of_bind captured
  obtain ⟨_,collected,-⟩:=exists_of_bind captured
  obtain ⟨-,files,taken⟩:=collect_eq_ok collected
  refine collect_of_files fun path candidate chosen => ?_
  have before:=(h.mem_candidates (fresh chosen)).1 candidate
  obtain ⟨content,file⟩:=files path ((taken path).2 ⟨before,by simp,chosen⟩)
  exact ⟨content,(h.same path _ (fresh chosen) rfl).1 file⟩
 obtain ⟨_,collected⟩:=paths
 have again:=exact.unique (captured_of_candidates h.legal h.isDirectory collected) same
 rw [captureTree,bind_of_ok (require_eq_ok.2 h.isDirectory),bind_of_ok collected]
 rw [again,bind_of_ok (require_eq_ok.2 filled)]
 rfl

lemma requireUnselected_eq_ok {output:Output} {path:Components}
 (h:requireUnselected fnmatchcase scope output=.ok ()) (inside:output=.inside path) :
 selected fnmatchcase scope (posix path)=false := by
 rw [inside] at h
 exact require_eq_ok.1 h

structure Snapshot (fnmatchcase : Text→Text→Bool) (hash : Hash) (scope : ScopeConfig)
 (root : Node) (outputs : List Output) (written : Written) : Prop where
 captured : captureTree fnmatchcase hash root scope=.ok written.records
 unselected : ∀ path,Output.inside path∈outputs →
  selected fnmatchcase scope (posix path)=false
 manifest : manifestBytes written.records=.ok written.manifest
 metadata : written.metadata={
  digest := hash.hexdigest written.manifest,count := written.records.length
  scopeVersion := scope.version,scopeSha256 := scope.sha256 }

lemma writeSnapshot_eq_ok {scopeFile:JsonFile} {manifest metadata:Output}
 {stored:Output→Bool} {written:Written} (loaded:loadScope hash scopeFile=.ok scope)
 (h:writeSnapshot fnmatchcase hash root scopeFile manifest metadata stored=.ok written) :
 Snapshot fnmatchcase hash scope root [manifest,metadata] written := by
 rw [writeSnapshot,bind_of_ok loaded] at h
 obtain ⟨_,captured,h⟩:=exists_of_bind h
 obtain ⟨⟨⟩,-,h⟩:=exists_of_bind h
 obtain ⟨⟨⟩,first,h⟩:=exists_of_bind h
 obtain ⟨⟨⟩,second,h⟩:=exists_of_bind h
 obtain ⟨_,encoded,h⟩:=exists_of_bind h
 obtain ⟨⟨⟩,-,h⟩:=exists_of_bind h
 obtain ⟨⟨⟩,-,h⟩:=exists_of_bind h
 obtain ⟨⟨⟩,-,h⟩:=exists_of_bind h
 cases h
 refine ⟨captured,fun _ member => ?_,encoded,rfl⟩
 rcases List.mem_cons.1 member with same|member
 · exact requireUnselected_eq_ok first same.symm
 · exact requireUnselected_eq_ok second (List.mem_singleton.1 member).symm

lemma requireText_ok {value:Option Json} {text:Text} {failure:Failure}
 (h:value=some (.string text)) : requireText value text failure=.ok () := by
 rw [h]
 exact require_eq_ok.2 rfl

lemma loadMetadata_object {fields:List (Text×Json)} {digest:Text} {count:ℤ}
 (keys:(∀field∈fields,field.1∈metadataKeys) ∧
  ∀key∈metadataKeys,key∈fields.map (·.1))
 (schema:Json.field fields schemaKey=some (.string metadataSchema))
 (hashed:Json.field fields digestKey=some (.string digest)) (isDigest:IsDigest digest)
 (counted:Json.field fields countKey=some (.number count)) (positive:1 ≤ count)
 (content:Json.field fields contentHashKey=some (.string contentHash))
 (format:Json.field fields recordFormatKey=some (.string recordFormat))
 (order:Json.field fields pathOrderKey=some (.string pathOrder)) :
 loadMetadata (.object fields) =
  .ok (digest,count,Json.field fields versionKey,Json.field fields scopeHashKey) := by
 rw [loadMetadata,bind_of_ok (require_eq_ok.2 keys),bind_of_ok (requireText_ok schema),hashed]
 dsimp only
 rw [bind_of_ok (require_eq_ok.2 isDigest),counted]
 dsimp only
 rw [bind_of_ok (require_eq_ok.2 positive),bind_of_ok (requireText_ok content),
  bind_of_ok (requireText_ok format),bind_of_ok (requireText_ok order)]
 rfl

lemma loadMetadata_json {metadata:Metadata} (isDigest:IsDigest metadata.digest)
 (positive:1 ≤ metadata.count) :
 loadMetadata metadata.json=.ok (metadata.digest,metadata.count,
  some (.string metadata.scopeVersion),some (.string metadata.scopeSha256)) :=
 loadMetadata_object (by simp [metadataKeys]) rfl rfl isDigest rfl positive rfl rfl rfl

lemma shaOf_isSome {records:List Record} {path:Text} :
 (shaOf records path).isSome=true ↔ path∈records.map (·.path) := by
 simp [shaOf]

lemma missingFrom_eq_nil {before after:List Record} :
 missingFrom before after=[] ↔
  ∀path∈before.map (·.path),path∈after.map (·.path) := by
 rw [missingFrom,List.filter_eq_nil_iff]
 simp only [Bool.not_eq_true,Option.isNone_eq_false_iff,shaOf_isSome]

lemma changedIn_self (records:List Record) : changedIn records records=[] := by
 simp [changedIn]

variable {scopeFile:JsonFile} {written:Written}

section Verified
variable {manifest:List UInt8} {metadata metadata':Json} {records others:List Record}

lemma verifySnapshot_eq_ok (loaded:loadScope hash scopeFile=.ok scope)
 (h:verifySnapshot fnmatchcase hash root scopeFile manifest metadata=.ok records) :
 captureTree fnmatchcase hash root scope=.ok records ∧ ∃ expected,
  parseManifest manifest=.ok expected ∧ missingFrom expected records=[] ∧
   missingFrom records expected=[] ∧ changedIn expected records=[] := by
 rw [verifySnapshot,bind_of_ok loaded] at h
 obtain ⟨_,parsed,h⟩:=exists_of_bind h
 obtain ⟨⟨_,_,_,_⟩,-,h⟩:=exists_of_bind h
 obtain ⟨⟨⟩,-,h⟩:=exists_of_bind h
 obtain ⟨⟨⟩,-,h⟩:=exists_of_bind h
 obtain ⟨_,-,h⟩:=exists_of_bind h
 obtain ⟨⟨⟩,-,h⟩:=exists_of_bind h
 obtain ⟨⟨⟩,-,h⟩:=exists_of_bind h
 obtain ⟨_,captured,h⟩:=exists_of_bind h
 obtain ⟨⟨⟩,same,h⟩:=exists_of_bind h
 obtain ⟨_,-,h⟩:=exists_of_bind h
 obtain ⟨⟨⟩,-,h⟩:=exists_of_bind h
 cases h
 exact ⟨captured,_,parsed,require_eq_ok.1 same⟩

lemma plain_of_verifySnapshot (loaded:loadScope hash scopeFile=.ok scope)
 (h:verifySnapshot fnmatchcase hash root scopeFile manifest metadata=.ok records) :
 captureTree fnmatchcase hash root scope=.ok records ∧
  ∀record∈records,Plain record.path := by
 obtain ⟨captured,_,parsed,-,none,-⟩:=verifySnapshot_eq_ok loaded h
 refine ⟨captured,fun _ member => ?_⟩
 obtain ⟨other,found,path⟩ :=
  List.mem_map.1 (missingFrom_eq_nil.1 none _ (List.mem_map_of_mem member))
 exact path ▸ plain_of_parseManifest parsed other found

/-- The three lists of differences are empty only if the records name the same digests. -/
lemma shaOf_congr {expected:List Record} (missing:missingFrom expected records=[])
 (extra:missingFrom records expected=[]) (changed:changedIn expected records=[])
 (path:Text) : shaOf expected path=shaOf records path := by
 by_cases listed:path∈expected.map (·.path)
 · have found:=shaOf_isSome.2 (missingFrom_eq_nil.1 missing path listed)
   simpa [found] using List.filter_eq_nil_iff.1 changed path listed
 · have absent:=mt (missingFrom_eq_nil.1 extra path) listed
   rw [←shaOf_isSome,Option.not_isSome_iff_eq_none] at listed absent
   rw [listed,absent]

lemma Captured.selected_of_shaOf {path:Components} {sha:Text} (legal:root.Legal)
 (h:Captured fnmatchcase hash scope root records)
 (named:∀name∈path,LegalName name) (below:path≠[])
 (told:shaOf records (posix path)=some sha) : ∃ content,
  Selected fnmatchcase scope root path content ∧ hash.hexdigest content=sha := by
 obtain ⟨record,found,rfl⟩:=Option.map_eq_some_iff.1 told
 have same : record.path=posix path := by simpa using List.find?_some found
 obtain ⟨_,content,chosen,-,rfl⟩ :=
  (h.exact _).1 (List.mem_reverse.1 (List.mem_of_find?_eq_some found))
 obtain rfl := posix_injective named (Node.find_legal legal chosen.1).1 below same.symm
 exact ⟨content,chosen,rfl⟩

/-- A manifest fixes the files in its scope: if two trees verify against it, what the walk comes to
 in one is in the other, with the same digest. -/
theorem verified_trees_agree (legal : root.Legal) (legal' : after.Legal)
 (loaded : loadScope hash scopeFile=.ok scope)
 (first : verifySnapshot fnmatchcase hash root scopeFile manifest metadata=.ok records)
 (second : verifySnapshot fnmatchcase hash after scopeFile manifest metadata'=.ok others)
 {path : Components} {content : List UInt8}
 (chosen : Selected fnmatchcase scope root path content)
 (visible : Visible fnmatchcase scope path) : ∃ content',
  Selected fnmatchcase scope after path content' ∧
   hash.hexdigest content'=hash.hexdigest content := by
 obtain ⟨captured,_,parsed,missing,extra,changed⟩ := verifySnapshot_eq_ok loaded first
 obtain ⟨captured',_,parsed',missing',extra',changed'⟩ := verifySnapshot_eq_ok loaded second
 cases parsed.symm.trans parsed'
 obtain ⟨isDirectory,-,exact⟩ := captureTree_eq_ok legal captured
 obtain ⟨-,-,exact'⟩ := captureTree_eq_ok legal' captured'
 have named:=(Node.find_legal legal chosen.1).1
 have below:=Node.ne_nil_of_file isDirectory chosen.1
 have recorded:=(exact.exact _).2 ⟨path,content,chosen,visible,rfl⟩
 obtain ⟨sha,told⟩ :=
  Option.isSome_iff_exists.1 (shaOf_isSome.2 (List.mem_map_of_mem (f := Record.path) recorded))
 obtain ⟨_,here,rfl⟩ := exact.selected_of_shaOf legal named below told
 cases chosen.1.symm.trans here.1
 -- both trees have the digest that the manifest names
 rw [←shaOf_congr missing extra changed,shaOf_congr missing' extra' changed'] at told
 exact exact'.selected_of_shaOf legal' named below told

end Verified

lemma verifySnapshot_ok {outputs:List Output} (loaded:loadScope hash scopeFile=.ok scope)
 (snapshot:Snapshot fnmatchcase hash scope root outputs written)
 (parsed:parseManifest written.manifest=.ok written.records)
 (filled:written.records≠[])
 (again:captureTree fnmatchcase hash after scope=.ok written.records) :
 verifySnapshot fnmatchcase hash after scopeFile written.manifest written.metadata.json =
  .ok written.records := by
 have count:1≤(written.records.length : ℤ):=by
  have := List.length_pos_iff.2 filled
  omega
 have isDigest:IsDigest written.metadata.digest:=by
  rw [snapshot.metadata]
  exact hash.isDigest _
 have metadata:=loadMetadata_json isDigest (by rw [snapshot.metadata];exact count)
 have none : missingFrom written.records written.records=[] :=
  missingFrom_eq_nil.2 fun _ member=>member
 rw [verifySnapshot,bind_of_ok loaded,bind_of_ok parsed,bind_of_ok metadata]
 dsimp only
 rw [snapshot.metadata,bind_of_ok (requireText_ok rfl),bind_of_ok (requireText_ok rfl),
  bind_of_ok snapshot.manifest,bind_of_ok (require_eq_ok.2 rfl),bind_of_ok (require_eq_ok.2 rfl),
  bind_of_ok again,bind_of_ok (require_eq_ok.2 ⟨none,none,changedIn_self _⟩),bind_of_ok snapshot.manifest,
  bind_of_ok (require_eq_ok.2 rfl)]
 rfl

/-- A snapshot verifies against the tree that it was taken from exactly if every path in it is one
 that a manifest can hold. -/
theorem snapshot_verifies_iff {manifest metadata : Output} {stored : Output→Bool}
 (legal : root.Legal) (loaded : loadScope hash scopeFile=.ok scope)
 (h : writeSnapshot fnmatchcase hash root scopeFile manifest metadata stored=.ok written)
 (unchanged : Unchanged root after [manifest,metadata]) :
 (∃ records,verifySnapshot fnmatchcase hash after scopeFile written.manifest
  written.metadata.json=.ok records) ↔
  ∀ path content,Selected fnmatchcase scope root path content →
   Visible fnmatchcase scope path→Plain (posix path) := by
 have snapshot := writeSnapshot_eq_ok loaded h
 obtain ⟨isDirectory,filled,captured⟩ := captureTree_eq_ok legal snapshot.captured
 have again := captureTree_unchanged legal unchanged snapshot.unselected snapshot.captured
 constructor
 · rintro ⟨_,verified⟩ path content chosen visible
   obtain ⟨captured',plain⟩ := plain_of_verifySnapshot loaded verified
   cases again.symm.trans captured'
   exact plain _ ((captured.exact _).2 ⟨path,content,chosen,visible,rfl⟩)
 · intro plain
   have storable : ∀ record∈written.records,Storable record := by
    intro record member
    obtain ⟨path,content,chosen,visible,rfl⟩ := (captured.exact record).1 member
    have names := (Node.find_legal legal chosen.1).1
    have below := Node.ne_nil_of_file isDirectory chosen.1
    have plain := plain path content chosen visible
    obtain ⟨_,_,head,-⟩ := posix_head names below
    exact ⟨hash.isDigest content,by simp [head],validateRelativePath_posix names below plain,
     plain.2⟩
   have parsed := parseManifest_manifestBytes filled captured.sorted storable snapshot.manifest
   exact ⟨written.records,verifySnapshot_ok loaded snapshot parsed filled again⟩

end Verify

def singleWritten (name : Text) : Written where
 records := [⟨name,lengthHash.hexdigest []⟩]
 manifest := utf8 ((recordLine ⟨name,lengthHash.hexdigest []⟩).map Char.ofNat)
 metadata := {
  digest := lengthHash.hexdigest
   (utf8 ((recordLine ⟨name,lengthHash.hexdigest []⟩).map Char.ofNat))
  count := 1
  scopeVersion := ascii ['1']
  scopeSha256 := lengthHash.hexdigest [] }

def elsewhere (name : Char) : Output := .outside (ascii ['/',name])

section Single
variable {name:Text}

lemma starsFile_loaded : loadScope lengthHash (starsFile [])=.ok (starsScope []) := by
 decide

lemma singleTree_written
 (encoded:((recordLine ⟨name,lengthHash.hexdigest []⟩).all
  fun code=>decide code.isValidChar)=true) :
 writeSnapshot starMatch lengthHash (singleTree name) (starsFile []) (elsewhere 'm')
  (elsewhere 'd') (fun _=>true)=.ok (singleWritten name) := by
 have differ : elsewhere 'm' ≠ elsewhere 'd' := by decide
 have outside (c:Char) : requireUnselected starMatch (starsScope []) (elsewhere c)=.ok () :=
  rfl
 have bytes : manifestBytes [⟨name,lengthHash.hexdigest []⟩] =
  .ok (singleWritten name).manifest := by
  rw [manifestBytes,manifestText,List.flatMap_singleton,encodeUtf8,if_pos encoded]
  rfl
 rw [writeSnapshot,bind_of_ok starsFile_loaded,bind_of_ok singleTree_captured,
  bind_of_ok bytes]
 rfl

end Single

def sampleFile : JsonFile := starsFile [ascii ['d','/','o']]

def sampleManifest : List UInt8 := utf8 ((manifestText sampleRecords).map Char.ofNat)

def sampleWritten : Written where
 records := sampleRecords
 manifest := sampleManifest
 metadata := {
  digest := lengthHash.hexdigest sampleManifest
  count := 2
  scopeVersion := ascii ['1']
  scopeSha256 := lengthHash.hexdigest [] }

lemma sampleFile_loaded : loadScope lengthHash sampleFile=.ok sampleScope := by
 decide

lemma sampleTree_written (notes:List UInt8) :
 writeSnapshot starMatch lengthHash (sampleTree notes) sampleFile (elsewhere 'm')
  (elsewhere 'd') (fun _=>true)=.ok sampleWritten := by
 have bytes:manifestBytes sampleRecords=.ok sampleManifest:=by
  rw [manifestBytes,encodeUtf8,if_pos (by decide)]
  rfl
 rw [writeSnapshot,bind_of_ok sampleFile_loaded,bind_of_ok sampleTree_captured,
  bind_of_ok bytes]
 rfl

theorem sampleTree_verified : (sampleTree [7]).Legal ∧
 writeSnapshot starMatch lengthHash (sampleTree [7]) sampleFile (elsewhere 'm')
  (elsewhere 'd') (fun _=>true)=.ok sampleWritten ∧
 ∃ records,verifySnapshot starMatch lengthHash (sampleTree [7]) sampleFile
  sampleWritten.manifest sampleWritten.metadata.json=.ok records := by
 have written := sampleTree_written [7]
 refine ⟨sampleTree_legal,written,(snapshot_verifies_iff sampleTree_legal sampleFile_loaded
  written ⟨sampleTree_legal,rfl,fun _ _ _ _=>Iff.rfl⟩).2 fun _ _ chosen _ => ?_⟩
 rcases sampleTree_selected chosen with rfl|rfl <;> decide

lemma sampleTree_accepted (notes:List UInt8) :
 verifySnapshot starMatch lengthHash (sampleTree notes) sampleFile sampleWritten.manifest
  sampleWritten.metadata.json=.ok sampleRecords := by
 have snapshot:=writeSnapshot_eq_ok sampleFile_loaded (sampleTree_written [])
 obtain ⟨-,filled,captured⟩:=captureTree_eq_ok sampleTree_legal snapshot.captured
 have parsed:=parseManifest_manifestBytes filled captured.sorted (fun record member=>by
  rcases List.mem_cons.1 member with rfl|member
  · exact ⟨by decide,by decide,by decide,by decide⟩
  · obtain rfl := List.mem_singleton.1 member
    exact ⟨by decide,by decide,by decide,by decide⟩) snapshot.manifest
 have accepted:=verifySnapshot_ok sampleFile_loaded snapshot parsed filled
  (@sampleTree_captured notes)
 exact accepted

/-- Two trees that differ in the file that the scope leaves out verify against one manifest. -/
theorem sampleTrees_agree :
 (sampleTree []).find [ascii ['d'],ascii ['o']]≠
  (sampleTree [7]).find [ascii ['d'],ascii ['o']] ∧
 (∀ notes∈[[],[7]],verifySnapshot starMatch lengthHash (sampleTree notes) sampleFile
  sampleWritten.manifest sampleWritten.metadata.json=.ok sampleRecords) ∧
 ∃ content,Selected starMatch sampleScope (sampleTree [7]) [ascii ['d'],ascii ['b']] content ∧
  lengthHash.hexdigest content=lengthHash.hexdigest [1,2] := by
 refine ⟨fun same => ?_,fun notes _=>sampleTree_accepted notes,?_⟩
 · cases Node.file.inj (Option.some.inj same)
 · exact verified_trees_agree sampleTree_legal sampleTree_legal sampleFile_loaded
    (sampleTree_accepted []) (sampleTree_accepted [7]) ⟨rfl,by decide⟩
    (visible_of_inits (by decide))

def backslashName : Text := [0x61,backslash,0x62]

/-- A snapshot of the file `a\b` is written and cannot be verified. -/
theorem backslash_not_verified : (singleTree backslashName).Legal ∧
 writeSnapshot starMatch lengthHash (singleTree backslashName) (starsFile []) (elsewhere 'm')
  (elsewhere 'd') (fun _=>true)=.ok (singleWritten backslashName) ∧
 ¬∃ records,verifySnapshot starMatch lengthHash (singleTree backslashName) (starsFile [])
  (singleWritten backslashName).manifest (singleWritten backslashName).metadata.json =
   .ok records := by
 refine ⟨singleTree_legal (by decide),singleTree_written (by decide),?_⟩
 rintro ⟨_,verified⟩
 obtain ⟨captured,plain⟩ := plain_of_verifySnapshot starsFile_loaded verified
 cases singleTree_captured.symm.trans captured
 exact absurd (plain _ List.mem_cons_self) (by decide)

end KDbg.SourceSnapshot
