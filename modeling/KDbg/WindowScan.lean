import Mathlib.Algebra.Order.Ring.Nat
import Mathlib.Data.List.Range
set_option autoImplicit false
/-!
# Windows over data that arrives in chunks

Every window of a fixed width is looked at, in the order of the positions. When
the data arrives in chunks it is enough to carry the end of each chunk over to
the next; a chunk that is lost ends the span of data it stands in.
-/
namespace WindowScan
variable {α β:Type} {width:ℕ} {select:ℕ→List α→Option β}

def hits (width : ℕ) (select : ℕ→List α→Option β) (start : ℕ) (data : List α) : List β :=
 (List.range (data.length+1-width)).filterMap fun i =>
  select (start+i) ((data.drop i).take width)

def tail (width : ℕ) (data : List α) : List α := data.drop (data.length+1-width)

lemma length_tail (positive:0 < width) (data:List α) :
 (tail width data).length=min (width-1) data.length := by
 rw [tail,List.length_drop]
 omega

lemma tail_nil : tail width ([] : List α)=[] := List.drop_nil

lemma tail_append (positive:0 < width) (data more:List α) :
 tail width (tail width data++more)=tail width (data++more) := by
 have joined : tail width data++more=(data++more).drop (data.length+1-width) :=
  (List.drop_append_of_le_length (by omega)).symm
 rw [joined,tail,tail,List.drop_drop,List.length_drop,List.length_append]
 congr 1
 omega

lemma hits_nil (positive:0 < width) (start:ℕ) : hits width select start []=[] := by
 rw [hits,List.length_nil,Nat.sub_eq_zero_of_le (by omega)]
 rfl

/-- The windows that begin before the end of some data, and those that reach past it. -/
lemma hits_append (positive:0 < width) (start:ℕ) (data more:List α) :
 hits width select start (data++more) =
  hits width select start data ++
   hits width select (start+(data.length+1-width)) (tail width data++more) := by
 have joined : tail width data++more=(data++more).drop (data.length+1-width) :=
  (List.drop_append_of_le_length (by omega)).symm
 have count : (data++more).length+1-width =
  (data.length+1-width)+((tail width data++more).length+1-width) := by
  rw [List.length_append,List.length_append,length_tail positive]
  omega
 rw [hits,count,List.range_add,List.filterMap_append,List.filterMap_map]
 congr 1
 · refine List.filterMap_congr fun i mem => ?_
   have inside:=List.mem_range.1 mem
   rw [List.drop_append_of_le_length (by omega),List.take_append_of_le_length]
   rw [List.length_drop]
   omega
 · refine List.filterMap_congr fun i _ => ?_
   rw [Function.comp,joined,List.drop_drop,Nat.add_assoc]

inductive Chunk (α : Type) where
 | read (data : List α)
 | lost (length : ℕ)

/-- The maximal spans of chunks that were read, each with its position; `data` was read right
 before the chunks. -/
def spans (start : ℕ) (data : List α) : List (Chunk α)→List (ℕ×List α)
 | [] => [(start,data)]
 | .read more::rest => spans start (data++more) rest
 | .lost length::rest => (start,data)::spans (start+data.length+length) [] rest

def spanHits (width : ℕ) (select : ℕ→List α→Option β) (found : List (ℕ×List α)) : List β :=
 found.flatMap fun span=>hits width select span.1 span.2

/-- What a pass over the chunks gives that carries the end of a chunk over to the next. -/
def chunkHits (width : ℕ) (select : ℕ→List α→Option β) :
 ℕ→List α→List (Chunk α)→List β
 | _,_,[] => []
 | cursor,carry, .read more::rest =>
  hits width select (cursor-carry.length) (carry++more) ++
   chunkHits width select (cursor+more.length) (tail width (carry++more)) rest
 | cursor,_, .lost length::rest => chunkHits width select (cursor+length) [] rest

lemma hits_append_chunkHits (positive:0 < width) (start:ℕ) (data:List α)
 (chunks:List (Chunk α)) :
 hits width select start data ++
  chunkHits width select (start+data.length) (tail width data) chunks =
  spanHits width select (spans start data chunks) := by
 induction chunks generalizing start data with
 | nil => simp [chunkHits,spanHits,spans]
 | cons chunk _ ih =>
  cases chunk with
  | read =>
   have place : start+data.length-(tail width data).length =
    start+(data.length+1-width) := by
    rw [length_tail positive]
    omega
   rw [chunkHits,place,tail_append positive,←List.append_assoc,←hits_append positive,
    Nat.add_assoc,←List.length_append,ih,spans]
  | lost length =>
   have later:=ih (start+data.length+length) []
   rw [hits_nil positive,tail_nil,List.length_nil] at later
   exact congrArg _ later

/-- A pass that carries the ends over gives what the windows of the spans give. -/
lemma chunkHits_eq (positive:0 < width) (start:ℕ) (chunks:List (Chunk α)) :
 chunkHits width select start [] chunks=spanHits width select (spans start [] chunks) := by
 rw [←hits_append_chunkHits positive start [] chunks,hits_nil positive,tail_nil]
 rfl

lemma mem_hits {start:ℕ} {data:List α} {hit:β} :
 hit∈hits width select start data ↔
  ∃ i,i+width ≤ data.length ∧ select (start+i) ((data.drop i).take width)=some hit := by
 rw [hits,List.mem_filterMap]
 refine exists_congr fun i=>and_congr_left fun _ => ?_
 rw [List.mem_range]
 omega

/-- When every chunk was read there is one span. -/
lemma spans_read (start:ℕ) (data:List α) (pieces:List (List α)) :
 spans start data (pieces.map .read)=[(start,data++pieces.flatten)] := by
 induction pieces generalizing data with
 | nil => simp [spans]
 | cons _ _ ih =>
  rw [List.map_cons,spans,ih,List.flatten_cons,List.append_assoc]

def Chunk.length : Chunk α→ℕ
 | .read data => data.length
 | .lost length => length

/-- The positions of the spans lie between the two ends of the data, and one after the other. -/
lemma spans_ordered (start:ℕ) (data:List α) (chunks:List (Chunk α)) :
 (spans start data chunks).Pairwise (fun span later=>span.1+span.2.length ≤ later.1) ∧
  ∀span∈spans start data chunks,start ≤ span.1 ∧
   span.1+span.2.length ≤ start+data.length+(chunks.map Chunk.length).sum := by
 induction chunks generalizing start data with
 | nil => simp [spans]
 | cons chunk _ ih =>
  cases chunk with
  | read more =>
   obtain ⟨ordered,inside⟩:=ih start (data++more)
   refine ⟨ordered,fun span mem => ?_⟩
   obtain ⟨_,high⟩:=inside span mem
   rw [List.length_append] at high
   rw [List.map_cons,List.sum_cons,Chunk.length]
   omega
  | lost length =>
   obtain ⟨ordered,inside⟩:=ih (start+data.length+length) []
   rw [List.map_cons,List.sum_cons,Chunk.length]
   refine ⟨List.pairwise_cons.2 ⟨fun span mem => ?_,ordered⟩,fun span mem => ?_⟩
   · have low:=(inside span mem).1
     dsimp only
     omega
   · rcases List.mem_cons.1 mem with rfl|later
     · dsimp only
       omega
     · obtain ⟨_,high⟩:=inside span later
       rw [List.length_nil] at high
       omega

section Order
variable {position:β→ℕ} {bound:ℕ}

/-- The selection knows the positions below a bound. -/
def Placed (select : ℕ→List α→Option β) (position : β→ℕ) (bound : ℕ) : Prop :=
 ∀ place value hit,place < bound → select place value=some hit → position hit=place

lemma position_hits (positive:0 < width) (placed:Placed select position bound) {start:ℕ}
 {data:List α} (below:start+data.length ≤ bound) {hit:β}
 (mem:hit∈hits width select start data) :
 start ≤ position hit ∧ position hit+width ≤ start+data.length := by
 obtain ⟨i,_,selected⟩:=mem_hits.1 mem
 rw [placed _ _ _ (by omega) selected]
 omega

lemma hits_ascending (positive:0 < width) (placed:Placed select position bound) {start:ℕ}
 {data:List α} (below:start+data.length ≤ bound) :
 (hits width select start data).Pairwise (fun hit later=>position hit < position later) := by
 rw [hits,List.pairwise_filterMap]
 refine List.pairwise_lt_range.imp_of_mem fun {i j} _ mem' _ _ selected _ selected' => ?_
 have inside' := List.mem_range.1 mem'
 rw [placed _ _ _ (by omega) selected,placed _ _ _ (by omega) selected']
 omega

/-- The hits of parts that lie one after the other. -/
lemma flatMap_ascending {γ:Type} {parts:List γ} {low high:γ→ℕ} {found:γ→List β}
 (apart:parts.Pairwise fun part later=>high part ≤ low later)
 (each:∀part∈parts,
  (found part).Pairwise (fun hit later=>position hit < position later) ∧
   ∀hit∈found part,low part ≤ position hit ∧ position hit < high part) :
 (parts.flatMap found).Pairwise (fun hit later=>position hit < position later) := by
 rw [List.pairwise_flatMap]
 refine ⟨fun part mem=>(each part mem).1,?_⟩
 refine apart.imp_of_mem fun {part later} mem mem' _ hit found' next found'' => ?_
 have upper:=((each part mem).2 hit found').2
 have lower:=((each later mem').2 next found'').1
 omega

lemma spanHits_ascending (positive:0 < width) (placed:Placed select position bound)
 {start:ℕ} {chunks:List (Chunk α)}
 (below:start+(chunks.map Chunk.length).sum ≤ bound) :
 (spanHits width select (spans start [] chunks)).Pairwise
  (fun hit later=>position hit < position later) ∧
  ∀hit∈spanHits width select (spans start [] chunks),
   start ≤ position hit ∧ position hit < start+(chunks.map Chunk.length).sum := by
 obtain ⟨ordered,inside⟩:=spans_ordered start ([] : List α) chunks
 have fits : ∀span∈spans start [] chunks,start ≤ span.1 ∧
  span.1+span.2.length ≤ start+(chunks.map Chunk.length).sum := inside
 constructor
 · refine flatMap_ascending ordered fun span mem => ?_
   have high:=(fits span mem).2
   refine ⟨hits_ascending positive placed (by omega),fun _ found => ?_⟩
   have within:=position_hits positive placed (by omega) found
   omega
 · intro _ mem
   obtain ⟨span,listed,found⟩:=List.mem_flatMap.1 mem
   have bounds:=fits span listed
   have within:=position_hits positive placed (by omega) found
   omega

end Order

lemma filterMap_range'_skip {f:ℕ→Option β} (skipped:ℕ) {first count:ℕ}
 (none:∀i,first ≤ i → i < first+skipped → f i=none) :
 (List.range' first count).filterMap f =
  (List.range' (first+skipped) (count-skipped)).filterMap f := by
 induction skipped generalizing first count with
 | zero => rfl
 | succ _ ih =>
  cases count with
  | zero => simp
  | succ =>
   rw [List.range'_succ,List.filterMap_cons_none (none first (by omega) (by omega)),
    ih fun i _ _=>none i (by omega) (by omega)]
   congr 2 <;> omega

/-- A loop whose steps pass over positions at which nothing is found. -/
lemma filterMap_range'_step {f:ℕ→Option β} {offset step bound:ℕ} (positive:0 < step)
 (inside:offset < bound) (none:∀i,offset < i → i < offset+step → f i=none) :
 (List.range' offset (bound-offset)).filterMap f =
  (f offset).toList ++
   (List.range' (offset+step) (bound-(offset+step))).filterMap f := by
 have count:bound-offset=bound-(offset+1)+1:=by omega
 rw [count,List.range'_succ,List.filterMap_cons,
  filterMap_range'_skip (step-1) fun i _ _=>none i (by omega) (by omega)]
 have next:offset+1+(step-1)=offset+step:=by omega
 have left:bound-(offset+1)-(step-1)=bound-(offset+step):=by omega
 rw [next,left]
 cases f offset <;> rfl

end WindowScan
