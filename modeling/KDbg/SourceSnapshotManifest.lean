import KDbg.SourceSnapshotCapture
set_option autoImplicit false
/-! What `parse_manifest` reads back from the manifest of a snapshot. Lines end at every boundary of
`str.splitlines`, and a path with a backslash is not valid, so not every path that a file can have
comes back. -/
namespace KDbg.SourceSnapshot

variable {records:List Record}
open WideText Fallible

/-- A path that a manifest can hold: no backslash and no line boundary. -/
def Plain (path : Text) : Prop := backslash ∉ path ∧ ∀ code∈path,code ∉ breaks

instance (path : Text) : Decidable (Plain path) := inferInstanceAs (Decidable (_ ∧ _))

lemma splitlines_line {line:Text} (rest:Text) (whole:∀code∈line,code ∉ breaks) :
 splitlines (line++lineFeed::rest)=line::splitlines rest := by
 induction line with
 | nil =>
  rw [List.nil_append,splitlines.eq_def]
  dsimp only
  rw [if_pos (by decide)]
  cases rest with
  | nil => rfl
  | cons next =>
   have single:¬(lineFeed=carriageReturn ∧ next=lineFeed):=fun both =>
    absurd both.1 (by decide)
   exact if_neg single
 | cons code _ ih =>
  rw [List.cons_append,splitlines.eq_def]
  dsimp only
  rw [if_neg (whole code (by simp)),ih fun other member=>whole other (by simp [member])]

lemma whole_of_mem_splitlines {text line:Text} (member:line∈splitlines text) :
 ∀code∈line,code ∉ breaks := by
 fun_induction splitlines text generalizing line with
 | case1 => cases member
 | case2 _ _ _ _ _ ih =>
  rcases List.mem_cons.1 member with rfl|member
  · simp
  · exact ih member
 | case3 _ _ _ _ _ ih =>
  rcases List.mem_cons.1 member with rfl|member
  · simp
  · exact ih member
 | case4 =>
  obtain rfl := List.mem_singleton.1 member
  simp
 | case5 _ _ whole =>
  obtain rfl := List.mem_singleton.1 member
  simpa using whole
 | case6 _ _ whole _ _ split ih =>
  rw [split] at ih
  rcases List.mem_cons.1 member with rfl|member
  · intro other found
    rcases List.mem_cons.1 found with rfl|found
    · exact whole
    · exact ih List.mem_cons_self other found
  · exact ih (List.mem_cons_of_mem _ member)

lemma digit_whole {digest:Text} (h:IsDigest digest) : ∀code∈digest,code ∉ breaks := by
 intro code member broken
 have digit:=List.all_eq_true.1 h.2 code member
 have range:0x30 ≤ code ∧ code≤0x66:=by
  simp only [isLowerHex,Bool.or_eq_true,Bool.and_eq_true,decide_eq_true_eq] at digit
  omega
 simp only [breaks,List.mem_cons,List.not_mem_nil,or_false] at broken
 omega

/-- A record of a path that `parse_manifest` takes. -/
structure Storable (record : Record) : Prop where
 digest : IsDigest record.sha256
 filled : record.path≠[]
 valid : validateRelativePath record.path=.ok ()
 whole : ∀ code∈record.path,code ∉ breaks

def recordText (record : Record) : Text := record.sha256++[space,space]++record.path

lemma matchRecord_text {record:Record} (h:Storable record) :
 matchRecord (recordText record)=some record := by
 have width:record.sha256.length=64:=h.digest.1
 have digest:(recordText record).take 64=record.sha256:=by
  rw [recordText,List.append_assoc,←width,List.take_left]
 have after:(recordText record).drop 64=[space,space]++record.path:=by
  rw [recordText,List.append_assoc,←width,List.drop_left]
 have path:(recordText record).drop 66=record.path:=by
  have later:=congrArg (List.drop 2) after
  rwa [List.drop_drop] at later
 have plain : carriageReturn ∉ record.path ∧ lineFeed ∉ record.path :=
  ⟨fun member=>h.whole _ member (by decide),fun member=>h.whole _ member (by decide)⟩
 rw [matchRecord,digest,after,path,if_pos ⟨h.digest,rfl,h.filled,plain⟩]

lemma splitlines_manifest (h:∀record∈records,Storable record) :
 splitlines (manifestText records)=records.map recordText := by
 induction records with
 | nil => rfl
 | cons record records ih =>
  have here:=h record (by simp)
  have whole:∀code∈recordText record,code ∉ breaks:=by
   intro code member
   simp only [recordText,List.mem_append] at member
   rcases member with (member|member) | member
   · exact digit_whole here.digest code member
   · rw [show code=space by simpa using member]
     decide
   · exact here.whole code member
  have first : manifestText (record::records) =
   recordText record++lineFeed::manifestText records := by
   simp [manifestText,recordLine,recordText]
  rw [first,splitlines_line _ whole,ih fun other member=>h other (by simp [member]),
   List.map_cons]

lemma parseLines_records (h:∀record∈records,Storable record)
 (number:ℕ) : parseLines number (records.map recordText)=.ok records := by
 induction records generalizing number with
 | nil => rfl
 | cons record _ ih =>
  have here:=h record (by simp)
  have rest:=ih (fun other member=>h other (by simp [member])) (number+1)
  rw [List.map_cons,parseLines,matchRecord_text here]
  dsimp only
  rw [bind_of_ok here.valid,bind_of_ok rest]
  rfl

lemma plain_of_parseLines {number:ℕ} {lines:List Text}
 (whole:∀line∈lines,∀code∈line,code ∉ breaks)
 (h:parseLines number lines=.ok records) : ∀record∈records,Plain record.path := by
 induction lines generalizing number records with
 | nil =>
  cases h
  simp
 | cons line _ ih =>
  rw [parseLines] at h
  split at h
  · cases h
  · rename_i record matched
    obtain ⟨⟨⟩,valid,h⟩:=exists_of_bind h
    obtain ⟨_,parsed,h⟩:=exists_of_bind h
    cases h
    intro other member
    rcases List.mem_cons.1 member with rfl|member
    · obtain ⟨⟨⟩,-,valid⟩:=exists_of_bind valid
      obtain ⟨⟨⟩,safe,-⟩:=exists_of_bind valid
      refine ⟨(require_eq_ok.1 safe).1,fun code found => ?_⟩
      rw [matchRecord] at matched
      split at matched
      · cases matched
        exact whole line (by simp) code (List.mem_of_mem_drop found)
      · cases matched
    · exact ih (fun other found=>whole other (by simp [found])) parsed other member

lemma mem_posix {parts:Components} {code:ℕ} (member:code∈posix parts) :
 code=slash ∨ ∃ name∈parts,code∈name := by
 induction parts with
 | nil => simp [posix] at member
 | cons name parts ih =>
  cases parts with
  | nil =>
   rw [posix,List.intercalate_singleton] at member
   exact .inr ⟨name,by simp,member⟩
  | cons =>
   rw [posix,List.intercalate_cons_cons,List.mem_append,List.mem_append] at member
   rcases member with (here|between) | later
   · exact .inr ⟨name,by simp,here⟩
   · exact .inl (List.mem_singleton.1 between)
   · rcases ih later with between|⟨other,found,inside⟩
     · exact .inl between
     · exact .inr ⟨other,List.mem_cons_of_mem _ found,inside⟩

section Paths
variable {parts:Components}

lemma pureParts_posix (legal:∀name∈parts,LegalName name) (filled:parts≠[]) :
 pureParts (posix parts)=parts := by
 rw [pureParts,split_posix legal filled,List.filter_eq_self]
 intro name member
 have named:=legal name member
 simp [named.filled,named.notHere]

lemma posix_head (legal:∀name∈parts,LegalName name) (filled:parts≠[]) :
 ∃ code rest,posix parts=code::rest ∧ code≠slash := by
 obtain ⟨name,rest,rfl⟩:=List.exists_cons_of_ne_nil filled
 have named:=legal name (by simp)
 obtain ⟨code,later,rfl⟩:=List.exists_cons_of_ne_nil named.filled
 have differs:code≠slash:=fun same=>named.solid (by simp [same])
 cases rest with
 | nil => exact ⟨code,later,by rw [posix,List.intercalate_singleton],differs⟩
 | cons next rest =>
  exact ⟨code,later++[slash]++posix (next::rest),
   by rw [posix,List.intercalate_cons_cons];rfl,differs⟩

/-- A plain path of a file is one that a manifest may have. -/
lemma validateRelativePath_posix (legal:∀name∈parts,LegalName name) (filled:parts≠[])
 (plain:Plain (posix parts)) : validateRelativePath (posix parts)=.ok () := by
 obtain ⟨_,_,head,relative⟩:=posix_head legal filled
 have named:posix parts≠[]:=by simp [head]
 have safe : backslash ∉ posix parts ∧ carriageReturn ∉ posix parts ∧
  lineFeed ∉ posix parts ∧ 0 ∉ posix parts := by
  refine ⟨plain.1,fun member=>plain.2 _ member (by decide),
   fun member=>plain.2 _ member (by decide),fun member => ?_⟩
  rcases mem_posix member with same|⟨name,found,inside⟩
  · exact absurd same (by decide)
  · exact (legal name found).clean inside
 have below : (posix parts).head?≠some slash ∧ ascii ['.','.'] ∉ pureParts (posix parts) := by
  refine ⟨by simpa [head] using relative,fun member => ?_⟩
  rw [pureParts_posix legal filled] at member
  exact (legal _ member).notAbove rfl
 have canonical:pureAsPosix (posix parts)=posix parts:=by
  rw [pureAsPosix,pureParts_posix legal filled,if_neg filled]
 rw [validateRelativePath,bind_of_ok (require_eq_ok.2 named),bind_of_ok (require_eq_ok.2 safe),
  bind_of_ok (require_eq_ok.2 below),require_eq_ok.2 canonical]

end Paths

variable {bytes:List UInt8}

lemma encodeUtf8_eq_some {text:Text} (h:encodeUtf8 text=some bytes) :
 (∀code∈text,code.isValidChar) ∧ bytes=utf8 (text.map Char.ofNat) := by
 unfold encodeUtf8 at h
 split at h
 · rename_i valid
   cases h
   exact ⟨by simpa using valid,rfl⟩
 · cases h

lemma decodeUtf8_encode {text:Text} (h:encodeUtf8 text=some bytes) :
 decodeUtf8 bytes=some text := by
 obtain ⟨valid,rfl⟩:=encodeUtf8_eq_some h
 rw [decodeUtf8,ofUtf8_utf8,Option.map_some,List.map_map]
 refine congrArg some ((List.map_congr_left fun code member => ?_).trans (List.map_id' text))
 exact toNat_ofNat_of_valid (valid code member)

lemma mem_of_mem_encode {text:Text} {byte:UInt8} (h:encodeUtf8 text=some bytes)
 (member:byte∈bytes) (small:byte.toNat<0x80) : byte.toNat∈text := by
 obtain ⟨valid,rfl⟩:=encodeUtf8_eq_some h
 obtain ⟨c,found,inside⟩:=List.mem_flatMap.1 member
 obtain ⟨code,here,rfl⟩:=List.mem_map.1 found
 have same:=ascii_of_mem_utf8EncodeChar inside small
 rw [toNat_ofNat_of_valid (valid code here)] at same
 exact same ▸ here

lemma manifestText_ends (filled:records≠[]) :
 ∃ before,manifestText records=before++[lineFeed] := by
 obtain ⟨before,last,rfl⟩:=List.eq_nil_or_concat records |>.resolve_left filled
 exact ⟨manifestText before++recordText last,by simp [manifestText,recordLine,recordText]⟩

lemma manifestBytes_eq_ok (h:manifestBytes records=.ok bytes) :
 encodeUtf8 (manifestText records)=some bytes := by
 unfold manifestBytes at h
 split at h
 · cases h
 · rename_i found encoded
   cases h
   exact encoded

lemma Storable.no_return (storable:∀record∈records,Storable record) :
 carriageReturn ∉ manifestText records := by
 intro member
 obtain ⟨record,found,inside⟩:=List.mem_flatMap.1 member
 have here:=storable record found
 simp only [recordLine,List.mem_append] at inside
 rcases inside with ((inside|inside) | inside) | inside
 · exact digit_whole here.digest _ inside (by decide)
 · exact absurd inside (by decide)
 · exact here.whole _ inside (by decide)
 · exact absurd inside (by decide)

/-- The manifest of storable records in order parses as these records. -/
lemma parseManifest_manifestBytes (filled:records≠[])
 (sorted:records.Pairwise fun a b=>a.path < b.path)
 (storable:∀record∈records,Storable record) (h:manifestBytes records=.ok bytes) :
 parseManifest bytes=.ok records := by
 have encoded:=manifestBytes_eq_ok h
 have text:bytes.getLast?=some 0x0A ∧ 0x0D ∉ bytes:=by
  constructor
  · obtain ⟨_,ends⟩:=manifestText_ends filled
    obtain ⟨-,rfl⟩:=encodeUtf8_eq_some encoded
    have last:utf8 [Char.ofNat lineFeed]=[0x0A]:=by decide
    rw [ends,List.map_append,utf8,List.flatMap_append]
    change (_++utf8 [Char.ofNat lineFeed]).getLast?=_
    rw [List.getLast?_append]
    rfl
  · intro member
    exact Storable.no_return storable (mem_of_mem_encode encoded member (by decide))
 have ordered:records.map (·.path)=sortTexts (records.map (·.path)):=by
  refine (List.mergeSort_of_pairwise (List.pairwise_map.2 (sorted.imp fun less => ?_))).symm
  exact decide_eq_true (le_of_lt less)
 have distinct : (records.map (·.path)).Nodup :=
  List.pairwise_map.2 (sorted.imp fun less=>ne_of_lt less)
 have parsed:parseLines 1 (splitlines (manifestText records))=.ok records:=by
  rw [splitlines_manifest storable,parseLines_records storable]
 rw [parseManifest,bind_of_ok (require_eq_ok.2 text),decodeUtf8_encode encoded]
 dsimp only
 rw [bind_of_ok parsed,bind_of_ok (require_eq_ok.2 ordered),bind_of_ok (require_eq_ok.2 distinct),
  bind_of_ok h,bind_of_ok (require_eq_ok.2 rfl)]
 rfl

lemma plain_of_parseManifest {data:List UInt8}
 (h:parseManifest data=.ok records) : ∀record∈records,Plain record.path := by
 obtain ⟨⟨⟩,-,h⟩:=exists_of_bind h
 split at h
 · cases h
 · obtain ⟨_,lines,h⟩:=exists_of_bind h
   obtain ⟨⟨⟩,-,h⟩:=exists_of_bind h
   obtain ⟨⟨⟩,-,h⟩:=exists_of_bind h
   obtain ⟨_,-,h⟩:=exists_of_bind h
   obtain ⟨⟨⟩,-,h⟩:=exists_of_bind h
   cases h
   exact plain_of_parseLines (fun _ member=>whole_of_mem_splitlines member) lines

end KDbg.SourceSnapshot
