import KDbg.SourceSnapshot
set_option autoImplicit false
/-! What `capture_tree` records: the selected files to which the walk gets, from the literal prefix
of an include pattern through directories whose probe is not excluded. -/
namespace KDbg.SourceSnapshot
open Fallible

structure LegalName (name : Text) : Prop where
 filled : name≠[]
 solid : slash ∉ name
 clean : 0 ∉ name
 notHere : name≠ascii ['.']
 notAbove : name≠ascii ['.','.']

instance (name : Text) : Decidable (LegalName name) :=
 decidable_of_iff
  (name≠[] ∧ slash ∉ name ∧ 0 ∉ name ∧ name≠ascii ['.'] ∧ name≠ascii ['.','.'])
  ⟨fun ⟨a,b,c,d,e⟩=>⟨a,b,c,d,e⟩,fun ⟨a,b,c,d,e⟩=>⟨a,b,c,d,e⟩⟩

/-- Every name in the tree is one that a file can have, and stands once in its directory. -/
def Node.Legal : Node→Prop
 | .directory names child => names.Nodup ∧ ∀ name∈names,LegalName name ∧ (child name).Legal
 | _ => True

variable {path:Components}

namespace Node
variable {node:Node}

@[simp] lemma find_nil (node:Node) : node.find []=some node := by
 rw [find]

lemma find_append (node:Node) (base rest:Components) :
 node.find (base++rest)=(node.find base).bind (·.find rest) := by
 induction base generalizing node with
 | nil => simp
 | cons name _ ih =>
  cases node with
  | file | special => simp [find]
  | directory names =>
   by_cases member:name∈names
   · simp [find,member,ih]
   · simp [find,member]

lemma exists_of_find_cons {name:Text} {found:Node}
 (h:node.find (name::path)=some found) : ∃ names child,node=.directory names child ∧
  name∈names ∧ (child name).find path=some found := by
 cases node with
 | file | special => simp [find] at h
 | directory names child =>
  rw [find] at h
  split at h
  · rename_i member
    exact ⟨names,child,rfl,member,h⟩
  · cases h

lemma find_legal {found:Node} (legal:node.Legal)
 (h:node.find path=some found) : (∀name∈path,LegalName name) ∧ found.Legal := by
 induction path generalizing node with
 | nil =>
  rw [find_nil] at h
  cases h
  exact ⟨by simp,legal⟩
 | cons name _ ih =>
  obtain ⟨_,_,rfl,member,rest⟩:=exists_of_find_cons h
  obtain ⟨here,below⟩:=legal.2 name member
  obtain ⟨names',legal'⟩:=ih below rest
  exact ⟨List.forall_mem_cons.2 ⟨here,names'⟩,legal'⟩

lemma isDirectory_of_find {name:Text} {found:Node}
 (h:node.find (name::path)=some found) : node.isDirectory=true := by
 obtain ⟨_,_,rfl,-⟩:=exists_of_find_cons h
 rfl

lemma ne_nil_of_file {content:List UInt8}
 (isDirectory:node.isDirectory=true) (h:node.find path=some (.file content)) :
 path≠[] := by
 rintro rfl
 rw [find_nil] at h
 cases h
 cases isDirectory

end Node

lemma split_posix {parts:Components} (legal:∀name∈parts,LegalName name)
 (filled:parts≠[]) : split (posix parts)=parts :=
 List.splitOn_intercalate slash (fun name member=>(legal name member).solid) filled

lemma posix_injective {p q:Components} (hp:∀name∈p,LegalName name)
 (hq:∀name∈q,LegalName name) (filled:p≠[]) (same:posix p=posix q) : p=q := by
 by_cases empty:q=[]
 · -- only the root itself has an empty path
   subst empty
   obtain ⟨name,rest,rfl⟩:=List.exists_cons_of_ne_nil filled
   have named:name≠[]:=(hp name (by simp)).filled
   exfalso
   cases rest with
   | nil => exact named (by simpa [posix] using same)
   | cons => simp [posix,List.intercalate] at same
 · rw [←split_posix hp filled,same,split_posix hq empty]

section Walk
variable {fnmatchcase:Text→Text→Bool} {scope:ScopeConfig}

section
variable {base:Components} {root:Node}

/-- What the walk from a directory meets below it. -/
structure Reached (fnmatchcase : Text→Text→Bool) (scope : ScopeConfig) (base : Components)
 (node : Node) (suffix : Components) : Prop where
 below : suffix≠[]
 found : ∃ leaf,node.find suffix=some leaf ∧ leaf.isDirectory=false
 kept : ∀ d,d≠[] → d <+: suffix → d≠suffix → pruned fnmatchcase scope (base++d)=false

lemma mem_walk {node:Node} :
 path∈walk fnmatchcase scope base node ↔
  ∃ suffix,path=base++suffix ∧ Reached fnmatchcase scope base node suffix := by
 induction node generalizing base path with
 | file | special =>
  simp only [walk,List.not_mem_nil,false_iff,not_exists,not_and]
  rintro _-⟨below,⟨_,found,-⟩,-⟩
  obtain ⟨_,_,rfl⟩:=List.exists_cons_of_ne_nil below
  simp [Node.find] at found
 | directory _ child ih =>
  simp only [walk,List.mem_append,List.mem_map,List.mem_flatMap,List.mem_filter,sortTexts,
   List.mem_mergeSort,Bool.not_eq_true',ih]
  constructor
  · rintro (⟨name,⟨member,leaf⟩,rfl⟩ |
     ⟨name,⟨⟨member,_⟩,kept⟩,suffix,rfl,reached⟩)
    · refine ⟨[name],rfl,by simp,⟨child name,by simp [Node.find,member],leaf⟩,?_⟩
      intro d filled part whole
      rcases List.prefix_cons_iff.1 part with rfl|⟨_,rfl,none⟩
      · exact absurd rfl filled
      · rw [List.prefix_nil.1 none] at whole
        exact absurd rfl whole
    · refine ⟨name::suffix,by simp,by simp,?_,?_⟩
      · obtain ⟨leaf,found,isLeaf⟩:=reached.found
        exact ⟨leaf,by simp [Node.find,member,found],isLeaf⟩
      · intro d filled part whole
        rcases List.prefix_cons_iff.1 part with rfl|⟨rest,rfl,below⟩
        · exact absurd rfl filled
        · by_cases first:rest=[]
          · rw [first]
            exact kept
          · have step:=reached.kept rest first below (by rintro rfl;exact whole rfl)
            simpa using step
  · rintro ⟨_,rfl,below,⟨leaf,found,isLeaf⟩,kept⟩
    obtain ⟨name,rest,rfl⟩:=List.exists_cons_of_ne_nil below
    rw [Node.find] at found
    split at found
    · rename_i member
      cases rest with
      | nil =>
       rw [Node.find_nil] at found
       cases found
       exact .inl ⟨name,⟨member,isLeaf⟩,rfl⟩
      | cons next rest =>
       refine .inr ⟨name,⟨⟨member,Node.isDirectory_of_find found⟩,?_⟩,next::rest,by simp,
        by simp,⟨leaf,found,isLeaf⟩,?_⟩
       · exact kept [name] (by simp) (by simp) (by simp)
       · intro d _ part whole
         have step:=kept (name::d) (by simp) (List.cons_prefix_cons.2 ⟨rfl,part⟩)
          (by simpa using whole)
         simpa using step
    · cases found

/-- A path that the search comes to: from the literal prefix of an include pattern, through
 directories whose probe no exclude pattern matches. -/
def Visible (fnmatchcase : Text→Text→Bool) (scope : ScopeConfig) (path : Components) : Prop :=
 ∃ pattern∈scope.includes,literalPrefix pattern <+: path ∧
  ∀ d,literalPrefix pattern <+: d → d <+: path → d≠literalPrefix pattern → d≠path →
   pruned fnmatchcase scope d=false

lemma mem_searchRoots :
 base∈searchRoots scope ↔ ∃ pattern∈scope.includes,literalPrefix pattern=base := by
 simp [searchRoots,List.mem_mergeSort]

/-- The search of one root gives the files below it that the walk meets, and the root itself only if
 it is a regular file. -/
lemma mem_rootCandidates :
 path∈rootCandidates fnmatchcase scope root base ↔ ∃ suffix leaf,path=base++suffix ∧
  root.find path=some leaf ∧ leaf.isDirectory=false ∧
   (suffix=[] → ∃ content,leaf=.file content) ∧
    ∀d,d≠[] → d <+: suffix → d≠suffix →
     pruned fnmatchcase scope (base++d)=false := by
 constructor
 · intro candidate
   unfold rootCandidates at candidate
   split at candidate
   · rename_i content file
     obtain rfl := List.mem_singleton.1 candidate
     refine ⟨[],_,by simp,file,rfl,fun _=>⟨content,rfl⟩,fun d filled part => ?_⟩
     exact absurd (List.prefix_nil.1 part) filled
   · rename_i names child found
     obtain ⟨suffix,rfl,below,⟨leaf,inside,isLeaf⟩,kept⟩:=mem_walk.1 candidate
     exact ⟨suffix,leaf,rfl,by rw [Node.find_append,found];exact inside,isLeaf,
      fun none=>absurd none below,kept⟩
   · cases candidate
 · rintro ⟨suffix,_,rfl,found,isLeaf,regular,kept⟩
   rw [Node.find_append] at found
   obtain ⟨node,base,inside⟩:=Option.bind_eq_some_iff.1 found
   cases suffix with
   | nil =>
    obtain ⟨_,rfl⟩:=regular rfl
    rw [Node.find_nil] at inside
    cases inside
    rw [List.append_nil,rootCandidates,base]
    exact List.mem_singleton.2 rfl
   | cons name rest =>
    have isDirectory:=Node.isDirectory_of_find inside
    cases node with
    | file | special => cases isDirectory
    | directory =>
     rw [rootCandidates,base]
     exact mem_walk.2 ⟨name::rest,rfl,by simp,⟨_,inside,isLeaf⟩,kept⟩

lemma mem_candidates {content:List UInt8}
 (file:root.find path=some (.file content)) :
 path∈(searchRoots scope).flatMap (rootCandidates fnmatchcase scope root) ↔
  Visible fnmatchcase scope path := by
 simp only [List.mem_flatMap,mem_searchRoots,mem_rootCandidates]
 constructor
 · rintro ⟨_,⟨pattern,member,rfl⟩,_,_,rfl,-,-,-,kept⟩
   refine ⟨pattern,member,List.prefix_append _ _,fun d above below differs whole => ?_⟩
   obtain ⟨rest,rfl⟩:=above
   exact kept rest (by rintro rfl;simp at differs) ((List.prefix_append_right_inj _).1 below)
    (by rintro rfl;exact whole rfl)
 · rintro ⟨pattern,member,⟨suffix,rfl⟩,kept⟩
   refine ⟨_,⟨pattern,member,rfl⟩,suffix,_,rfl,file,rfl,fun _=>⟨content,rfl⟩,?_⟩
   intro d filled part whole
   refine kept _ (List.prefix_append _ _) ((List.prefix_append_right_inj _).2 part) ?_ ?_
   · simpa using filled
   · simpa using whole

/-- The loop over the candidates keeps each selected one once, and all it keeps are files. -/
lemma collect_eq_ok {candidates yielded result:List Components}
 (h:collect fnmatchcase scope root yielded candidates=.ok result) :
 result.Nodup ∧ (∀path∈result,∃ content,root.find path=some (.file content)) ∧
  ∀path,path∈result ↔ path∈candidates ∧ path ∉ yielded ∧
   selected fnmatchcase scope (posix path)=true := by
 induction candidates generalizing yielded result with
 | nil =>
  cases h
  simp
 | cons candidate candidates ih =>
  rw [collect] at h
  split at h
  · rename_i skipped
    obtain ⟨distinct,files,exact⟩:=ih h
    refine ⟨distinct,files,fun path => ?_⟩
    rw [exact path,List.mem_cons]
    constructor
    · rintro ⟨member,rest⟩
      exact ⟨.inr member,rest⟩
    · rintro ⟨rfl | member,fresh,chosen⟩
      · rcases skipped with seen|unselected
        · exact absurd seen fresh
        · rw [chosen] at unselected
          cases unselected
      · exact ⟨member,fresh,chosen⟩
  · rename_i taken
    obtain ⟨fresh,chosen⟩:=not_or.1 taken
    split at h
    · rename_i content file
      cases rest:collect fnmatchcase scope root (candidate::yielded) candidates with
      | error =>
       rw [rest] at h
       cases h
      | ok paths =>
       rw [rest] at h
       cases h
       obtain ⟨distinct,files,exact⟩:=ih rest
       have once:candidate ∉ paths:=fun member =>
        ((exact candidate).1 member).2.1 (by simp)
       refine ⟨List.nodup_cons.2 ⟨once,distinct⟩,fun path member => ?_,fun path => ?_⟩
       · rcases List.mem_cons.1 member with rfl|member
         · exact ⟨content,file⟩
         · exact files path member
       · rw [List.mem_cons,exact path,List.mem_cons]
         by_cases same:path=candidate
         · subst same
           simp [fresh,chosen]
         · simp [same]
    · cases h

end

end Walk

section Capture
variable {fnmatchcase:Text→Text→Bool} {hash:Hash} {scope:ScopeConfig} {root:Node}
 {records:List Record}

def Selected (fnmatchcase : Text→Text→Bool) (scope : ScopeConfig) (root : Node)
 (path : Components) (content : List UInt8) : Prop :=
 root.find path=some (.file content) ∧ selected fnmatchcase scope (posix path)=true

/-- What a successful capture records, and in which order. -/
structure Captured (fnmatchcase : Text→Text→Bool) (hash : Hash) (scope : ScopeConfig)
 (root : Node) (records : List Record) : Prop where
 sorted : records.Pairwise fun a b=>a.path < b.path
 exact : ∀ record,record∈records ↔ ∃ path content,
  Selected fnmatchcase scope root path content ∧ Visible fnmatchcase scope path ∧
   record=⟨posix path,hash.hexdigest content⟩

lemma sortRecords_pairwise {records:List Record} (distinct:(records.map (·.path)).Nodup) :
 (sortRecords records).Pairwise fun a b=>a.path < b.path := by
 have ordered:(sortRecords records).Pairwise fun a b=>a.path ≤ b.path:=by
  have trans : ∀a b c : Record,decide (a.path ≤ b.path)=true →
   decide (b.path ≤ c.path)=true → decide (a.path ≤ c.path)=true := by
   intro a b c first second
   rw [decide_eq_true_eq] at first second ⊢
   exact first.trans second
  have total : ∀a b : Record,
   (decide (a.path ≤ b.path) || decide (b.path ≤ a.path))=true := by
   intro a b
   rw [Bool.or_eq_true,decide_eq_true_eq,decide_eq_true_eq]
   exact le_total _ _
  simpa [sortRecords] using List.pairwise_mergeSort trans total records
 have differs:(sortRecords records).Pairwise fun a b=>a.path≠b.path:=by
  have same:=(List.mergeSort_perm records fun a b=>decide (a.path ≤ b.path)).map (·.path)
  exact List.pairwise_map.1 (same.nodup_iff.2 distinct)
 exact (ordered.and differs).imp fun both=>lt_of_le_of_ne both.1 both.2

/-- The records of the paths that the search gives. -/
lemma captured_of_candidates {paths:List Components} (legal:root.Legal)
 (isDirectory:root.isDirectory=true) (collected:candidatePaths fnmatchcase scope root=.ok paths) :
 Captured fnmatchcase hash scope root (sortRecords (paths.map fun path =>
  ⟨posix path,hash.hexdigest (contentOf (root.find path))⟩)) := by
 obtain ⟨distinct,files,exact⟩:=collect_eq_ok collected
 -- a recorded path is a file below the root
 have named:∀path∈paths,(∀name∈path,LegalName name) ∧ path≠[]:=by
  intro path member
  obtain ⟨_,file⟩:=files path member
  exact ⟨(Node.find_legal legal file).1,Node.ne_nil_of_file isDirectory file⟩
 refine ⟨sortRecords_pairwise ?_,fun _ => ?_⟩
 · rw [List.map_map]
   refine (List.nodup_map_iff_inj_on distinct).2 fun p hp q hq same => ?_
   exact posix_injective (named p hp).1 (named q hq).1 (named p hp).2 same
 · rw [sortRecords,List.mem_mergeSort,List.mem_map]
   constructor
   · rintro ⟨path,member,rfl⟩
     obtain ⟨content,file⟩:=files path member
     obtain ⟨candidate,-,chosen⟩:=(exact path).1 member
     exact ⟨path,content,⟨file,chosen⟩,(mem_candidates file).1 candidate,by rw [file];rfl⟩
   · rintro ⟨path,_,⟨file,chosen⟩,visible,rfl⟩
     exact ⟨path,(exact path).2 ⟨(mem_candidates file).2 visible,by simp,chosen⟩,
      by rw [file];rfl⟩

lemma captureTree_eq_ok (legal:root.Legal)
 (h:captureTree fnmatchcase hash root scope=.ok records) :
 root.isDirectory=true ∧ records≠[] ∧ Captured fnmatchcase hash scope root records := by
 obtain ⟨⟨⟩,isDirectory,h⟩:=exists_of_bind h
 obtain ⟨_,collected,h⟩:=exists_of_bind h
 obtain ⟨⟨⟩,filled,h⟩:=exists_of_bind h
 cases h
 have isDirectory:=require_eq_ok.1 isDirectory
 exact ⟨isDirectory,require_eq_ok.1 filled,captured_of_candidates legal isDirectory collected⟩

/-- The records are the selected files, sorted by path and without duplicates. -/
structure Exact (fnmatchcase : Text→Text→Bool) (hash : Hash) (scope : ScopeConfig)
 (root : Node) (records : List Record) : Prop where
 sorted : records.Pairwise fun a b=>a.path < b.path
 exact : ∀ record,record∈records ↔ ∃ path content,
  Selected fnmatchcase scope root path content ∧ record=⟨posix path,hash.hexdigest content⟩

/-- A snapshot covers the selected files exactly if the walk comes to every one of them. -/
theorem capture_exact_iff (legal : root.Legal)
 (captured : captureTree fnmatchcase hash root scope=.ok records) :
 Exact fnmatchcase hash scope root records ↔
  ∀ path content,Selected fnmatchcase scope root path content →
   Visible fnmatchcase scope path := by
 obtain ⟨isDirectory,-,h⟩ := captureTree_eq_ok legal captured
 constructor
 · intro all path content chosen
   obtain ⟨_,_,⟨file,-⟩,visible,same⟩ :=
    (h.exact _).1 ((all.exact _).2 ⟨path,content,chosen,rfl⟩)
   rw [posix_injective (Node.find_legal legal chosen.1).1 (Node.find_legal legal file).1
    (Node.ne_nil_of_file isDirectory chosen.1) (congrArg Record.path same)]
   exact visible
 · intro all
   refine ⟨h.sorted,fun record=>(h.exact record).trans ⟨?_,?_⟩⟩
   · rintro ⟨path,content,chosen,-,same⟩
     exact ⟨path,content,chosen,same⟩
   · rintro ⟨path,content,chosen,same⟩
     exact ⟨path,content,chosen,all path content chosen,same⟩

end Capture

/-- `fnmatchcase` on patterns without other wildcards than a single star. -/
def starMatch (name pattern : Text) : Bool := pattern == ascii ['*'] || name == pattern

/-- A digest that only tells lengths apart. -/
def lengthHash : Hash where
 hexdigest data := List.replicate 63 0x30++[0x30+data.length%10]
 isDigest data := by
  have digit:data.length%10<10:=Nat.mod_lt _ (by decide)
  refine ⟨by simp,?_⟩
  simp only [isLowerHex,List.all_append,List.all_replicate,List.all_cons,List.all_nil]
  simp
  omega

/-- A scope file that includes `**`, with version `1`. -/
def starsFile (excludes : List Text) : JsonFile where
 bytes := []
 value := some (.object [(schemaKey, .string scopeSchema),(versionKey, .string (ascii ['1'])),
  (includeKey, .array [.string stars]),(excludeKey, .array (excludes.map .string))])

def starsScope (excludes : List Text) : ScopeConfig where
 version := ascii ['1']
 includes := [stars]
 excludes
 sha256 := lengthHash.hexdigest []

lemma searchRoots_stars (excludes:List Text) : searchRoots (starsScope excludes)=[[]] := by
 have prefixes:([stars].map literalPrefix).dedup=[[]]:=by decide
 rw [searchRoots,starsScope,prefixes,List.mergeSort_singleton]

lemma sortTexts_of_pairwise {texts:List Text} (sorted:texts.Pairwise (· ≤ ·)) :
 sortTexts texts=texts :=
 List.mergeSort_of_pairwise (sorted.imp decide_eq_true)

/-- The walk of a directory whose names come in order. -/
lemma walk_directory {scope:ScopeConfig} {base:Components} {names:List Text} {child:Text→Node}
 (files directories:List Text) (leaves:(names.filter fun name => !(child name).isDirectory)=files)
 (inner:(names.filter fun name=>(child name).isDirectory)=directories)
 (ordered:files.Pairwise (· ≤ ·)) (ordered':directories.Pairwise (· ≤ ·)) :
 walk starMatch scope base (.directory names child)=files.map (base++[·]) ++
  (directories.filter fun name => !pruned starMatch scope (base++[name])).flatMap
   fun name=>walk starMatch scope (base++[name]) (child name) := by
 rw [walk,leaves,inner,sortTexts_of_pairwise ordered,sortTexts_of_pairwise ordered']

/-- The records of a walk that meets the files in the order of their paths. -/
lemma captureTree_stars {root:Node} {excludes:List Text} {met:List Components}
 (paths:List Components) (isDirectory:root.isDirectory=true)
 (walked:walk starMatch (starsScope excludes) [] root=met)
 (kept:collect starMatch (starsScope excludes) root [] met=.ok paths)
 (sorted:paths.Pairwise fun a b=>posix a ≤ posix b) (filled:paths≠[]) :
 captureTree starMatch lengthHash root (starsScope excludes)=.ok (paths.map fun path =>
  ⟨posix path,lengthHash.hexdigest (contentOf (root.find path))⟩) := by
 have candidates:candidatePaths starMatch (starsScope excludes) root=.ok paths:=by
  rw [candidatePaths,searchRoots_stars,List.flatMap_singleton]
  cases root with
  | file | special => cases isDirectory
  | directory =>
   rw [rootCandidates,Node.find_nil]
   dsimp only
   rw [walked]
   exact kept
 have order (f:Components→Record) (named:∀path,(f path).path=posix path) :
  sortRecords (paths.map f)=paths.map f := by
  refine List.mergeSort_of_pairwise (List.pairwise_map.2 (sorted.imp fun less => ?_))
  rw [named,named]
  exact decide_eq_true less
 rw [captureTree,bind_of_ok (require_eq_ok.2 isDirectory),bind_of_ok candidates,
  order _ fun _=>rfl,bind_of_ok (require_eq_ok.2 (by simpa using filled))]
 rfl

def singleTree (name : Text) : Node := .directory [name] fun _ => .file []

section Single
variable {name:Text}

lemma singleTree_legal (legal:LegalName name) : (singleTree name).Legal :=
 ⟨by simp,fun _ member=>by
  obtain rfl := List.mem_singleton.1 member
  exact ⟨legal,trivial⟩⟩

lemma singleTree_captured : captureTree starMatch lengthHash (singleTree name) (starsScope []) =
 .ok [⟨name,lengthHash.hexdigest []⟩] := by
 have file:(singleTree name).find [name]=some (.file []):=by simp [singleTree,Node.find]
 have line:posix [name]=name:=by simp [posix,List.intercalate]
 have chosen:selected starMatch (starsScope []) (posix [name])=true:=by
  have all:split stars=[stars]:=by decide
  simp [selected,starsScope,globMatches,all,matchParts]
 have walked:walk starMatch (starsScope []) [] (singleTree name)=[[name]]:=
  walk_directory [name] [] rfl rfl (List.pairwise_singleton _ _) .nil
 have records:=captureTree_stars [[name]] rfl walked (by
  simp [collect,chosen,file,Except.map]) (List.pairwise_singleton _ _) (List.cons_ne_nil _ _)
 rw [List.map_singleton,line] at records
 exact records.trans (by rw [file];rfl)

end Single

/-- Two files, one of them in a directory, and another one there that the scope leaves out. -/
def sampleTree (notes : List UInt8) : Node :=
 .directory [ascii ['a'],ascii ['d']] fun name =>
  if name=ascii ['a'] then .file [1]
  else .directory [ascii ['b'],ascii ['o']] fun name =>
   if name=ascii ['b'] then .file [1,2] else .file notes

def sampleScope : ScopeConfig := starsScope [ascii ['d','/','o']]

def sampleRecords : List Record :=
 [⟨ascii ['a'],lengthHash.hexdigest [1]⟩,⟨ascii ['d','/','b'],lengthHash.hexdigest [1,2]⟩]

section Sample
variable {notes:List UInt8}

lemma sampleTree_legal : (sampleTree notes).Legal := by
 refine ⟨by decide,fun _ member => ?_⟩
 rcases List.mem_cons.1 member with rfl|member
 · exact ⟨by decide,trivial⟩
 · obtain rfl := List.mem_singleton.1 member
   refine ⟨by decide,by decide,fun _ member => ?_⟩
   rcases List.mem_cons.1 member with rfl|member
   · exact ⟨by decide,trivial⟩
   · obtain rfl := List.mem_singleton.1 member
     exact ⟨by decide,trivial⟩

lemma sampleTree_captured : captureTree starMatch lengthHash (sampleTree notes) sampleScope =
 .ok sampleRecords := by
 have inner:walk starMatch sampleScope [ascii ['d']] (.directory [ascii ['b'],ascii ['o']]
  fun name=>if name=ascii ['b'] then .file [1,2] else .file notes)=_:=
  walk_directory [ascii ['b'],ascii ['o']] [] rfl rfl (by decide) .nil
 have outer:walk starMatch sampleScope [] (sampleTree notes)=_:=
  walk_directory [ascii ['a']] [ascii ['d']] rfl rfl (by decide) (by decide)
 have entered:([ascii ['d']].filter fun name => !pruned starMatch sampleScope ([]++[name])) =
  [ascii ['d']] := by decide
 rw [entered,List.flatMap_singleton] at outer
 exact captureTree_stars [[ascii ['a']],[ascii ['d'],ascii ['b']]] rfl
  (outer.trans (congrArg ([ascii ['a']] :: ·) inner)) rfl (by decide) (List.cons_ne_nil _ _)

lemma sampleTree_selected {content:List UInt8}
 (chosen:Selected starMatch sampleScope (sampleTree notes) path content) :
 path=[ascii ['a']] ∨ path=[ascii ['d'],ascii ['b']] := by
 obtain ⟨file,included⟩:=chosen
 rcases path with _|⟨first,rest⟩
 · cases file
 obtain ⟨_,_,same,member,below⟩:=Node.exists_of_find_cons file
 cases same
 rcases List.mem_cons.1 member with rfl|member
 · rcases rest with _|⟨_,_⟩
   · exact .inl rfl
   · cases below
 obtain rfl := List.mem_singleton.1 member
 rcases rest with _|⟨second,rest⟩
 · cases below
 obtain ⟨_,_,same,member,below⟩:=Node.exists_of_find_cons below
 cases same
 rcases rest with _|⟨_,_⟩
 · rcases List.mem_cons.1 member with rfl|member
   · exact .inr rfl
   · obtain rfl := List.mem_singleton.1 member
     exact absurd included (by decide)
 · rcases List.mem_cons.1 member with rfl|member
   · cases below
   · obtain rfl := List.mem_singleton.1 member
     cases below

lemma visible_of_inits {excludes:List Text} (clear:∀d∈path.inits,d≠[] →
 d≠path → pruned starMatch (starsScope excludes) d=false) :
 Visible starMatch (starsScope excludes) path :=
 ⟨stars,by simp [starsScope],List.nil_prefix,fun d _ below filled proper =>
  clear d ((List.mem_inits _ _).2 below) filled proper⟩

end Sample

theorem sampleTree_exact : (sampleTree [7]).Legal ∧
 captureTree starMatch lengthHash (sampleTree [7]) sampleScope=.ok sampleRecords ∧
 Exact starMatch lengthHash sampleScope (sampleTree [7]) sampleRecords := by
 refine ⟨sampleTree_legal,sampleTree_captured,
  (capture_exact_iff sampleTree_legal sampleTree_captured).2 fun _ _ chosen => ?_⟩
 rcases sampleTree_selected chosen with rfl|rfl
 · exact visible_of_inits (by decide)
 · exact visible_of_inits (by decide)

def nestedTree : Node :=
 .directory [ascii ['a'],ascii ['d']] fun name =>
  if name=ascii ['a'] then .file []
  else .directory [ascii ['s']] fun _ => .directory [ascii ['f']] fun _ => .file []

/-- Everything but the files directly in `d`. -/
def shallowScope : ScopeConfig := starsScope [ascii ['d','/','*']]

lemma nestedTree_legal : nestedTree.Legal := by
 refine ⟨by decide,fun _ member => ?_⟩
 rcases List.mem_cons.1 member with rfl|member
 · exact ⟨by decide,trivial⟩
 · obtain rfl := List.mem_singleton.1 member
   refine ⟨by decide,by simp,fun _ member => ?_⟩
   obtain rfl := List.mem_singleton.1 member
   refine ⟨by decide,by simp,fun _ member => ?_⟩
   obtain rfl := List.mem_singleton.1 member
   exact ⟨by decide,trivial⟩

lemma nestedTree_captured : captureTree starMatch lengthHash nestedTree shallowScope =
 .ok [⟨ascii ['a'],lengthHash.hexdigest []⟩] :=
 captureTree_stars [[ascii ['a']]] rfl
  (walk_directory [ascii ['a']] [ascii ['d']] rfl rfl (by decide) (by decide)) rfl
  (List.pairwise_singleton _ _) (List.cons_ne_nil _ _)

/-- The pattern `d/*` leaves `d/s/f` selected, but it matches the probe of `d`. -/
theorem nestedTree_not_exact : nestedTree.Legal ∧
 loadScope lengthHash (starsFile [ascii ['d','/','*']])=.ok shallowScope ∧
 captureTree starMatch lengthHash nestedTree shallowScope =
  .ok [⟨ascii ['a'],lengthHash.hexdigest []⟩] ∧
 ¬Exact starMatch lengthHash shallowScope nestedTree [⟨ascii ['a'],lengthHash.hexdigest []⟩] := by
 refine ⟨nestedTree_legal,by decide,nestedTree_captured,fun all => ?_⟩
 have chosen : Selected starMatch shallowScope nestedTree [ascii ['d'],ascii ['s'],ascii ['f']]
  [] := ⟨rfl,by decide⟩
 have recorded := (all.exact _).2 ⟨_,_,chosen,rfl⟩
 exact absurd (congrArg Record.path (List.mem_singleton.1 recorded)) (by decide)

end KDbg.SourceSnapshot
