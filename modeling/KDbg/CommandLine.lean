import Mathlib.Data.List.TakeWhile
import Mathlib.Tactic
set_option autoImplicit false
/-!
# Windows command lines

How `CommandLineToArgvW` splits a command line. Blanks outside quotation marks separate
arguments. A quotation mark after an even number of backslashes begins or ends a quoted part and
halves them; after an odd number it stands for itself. Backslashes before anything else stand for
themselves. The first argument is the path of the program, in which backslashes mean nothing.
-/
namespace CommandLine

def space : UInt16 := 0x20
def tab : UInt16 := 0x09
def quote : UInt16 := 0x22
def backslash : UInt16 := 0x5C

def isBlank (unit : UInt16) : Bool := unit == space || unit == tab

def slashes (count : ℕ) : List UInt16 := List.replicate count backslash

/-- An argument and what follows it, after `count` backslashes that were read already. -/
def argument (count : ℕ) (quoted : Bool) : List UInt16→List UInt16×List UInt16
 | [] => (slashes count,[])
 | unit::units =>
  if unit=backslash then argument (count+1) quoted units
  else if unit=quote then
   if count%2=0 then
    let (text,rest) := argument 0 (!quoted) units
    (slashes (count/2)++text,rest)
   else
    let (text,rest) := argument 0 quoted units
    (slashes (count/2)++quote::text,rest)
  else if isBlank unit && !quoted then (slashes count,unit::units)
  else
   let (text,rest) := argument 0 quoted units
   (slashes count++unit::text,rest)

lemma length_argument_le (count:ℕ) (quoted:Bool) (units:List UInt16) :
 (argument count quoted units).2.length ≤ units.length := by
 induction units generalizing count quoted with
 | nil => simp [argument]
 | cons unit units ih =>
  have tail (count:ℕ) (quoted:Bool) :
   (argument count quoted units).2.length≤(unit::units).length :=
   (ih count quoted).trans (by simp)
  unfold argument
  split
  · exact tail _ _
  split
  · split
    · exact tail _ _
    · exact tail _ _
  split
  · exact le_rfl
  · exact tail _ _

lemma length_argument_lt {unit:UInt16} (solid:isBlank unit=false) (units:List UInt16) :
 (argument 0 false (unit::units)).2.length<(unit::units).length := by
 have tail (count:ℕ) (quoted:Bool) := length_argument_le count quoted units
 unfold argument
 split
 · exact Nat.lt_succ_of_le (tail _ _)
 · split
   · exact Nat.lt_succ_of_le (tail _ _)
   · simpa [solid] using Nat.lt_succ_of_le (tail _ _)

def arguments (units : List UInt16) : List (List UInt16) :=
 match _more : units.dropWhile isBlank with
 | [] => []
 | unit::rest =>
  (argument 0 false (unit::rest)).1::arguments (argument 0 false (unit::rest)).2
termination_by units.length
decreasing_by
 have solid : isBlank unit=false := by
  have begins := List.head?_dropWhile_not isBlank units
  rw [_more] at begins
  simpa using begins
 have shorter := length_argument_lt solid rest
 have part := (List.dropWhile_sublist isBlank (l := units)).length_le
 rw [_more] at part
 omega

def programName (quoted : Bool) : List UInt16→List UInt16×List UInt16
 | [] => ([],[])
 | unit::units =>
  if unit=quote then programName (!quoted) units
  else if isBlank unit && !quoted then ([],unit::units)
  else
   let (text,rest) := programName quoted units
   (unit::text,rest)

/-- The command line ends before its first null. -/
def split (line : List UInt16) : List (List UInt16) :=
 let (name,rest) := programName false (line.takeWhile (· != 0))
 name::arguments rest

section Quoting
variable {count:ℕ} {quoted:Bool} {rest:List UInt16}

def Ends (rest : List UInt16) : Prop := ∀ unit∈rest.head?,isBlank unit=true

lemma ends_nil : Ends [] := fun _ h=>(nomatch h)

lemma ends_cons {unit:UInt16} (blank:isBlank unit=true) : Ends (unit::rest) := by
 intro _ same
 cases same
 exact blank

lemma argument_backslash :
 argument count quoted (backslash::rest)=argument (count+1) quoted rest := by
 rw [argument,if_pos rfl]

lemma argument_slashes (more:ℕ) :
 argument count quoted (slashes more++rest)=argument (count+more) quoted rest := by
 induction more generalizing count with
 | zero => rfl
 | succ more ih =>
  change argument count quoted (backslash::(slashes more++rest))=_
  rw [argument_backslash,ih,Nat.add_assoc,Nat.add_comm 1]

lemma argument_plain {unit:UInt16} (solid:unit≠backslash) (plain:unit≠quote)
 (held:isBlank unit=true → quoted=true) :
 argument count quoted (unit::rest) =
  (slashes count++unit::(argument 0 quoted rest).1,(argument 0 quoted rest).2) := by
 have inside:¬(isBlank unit && !quoted)=true:=by
  cases blank:isBlank unit with
  | false => simp
  | true => simp [held blank]
 rw [argument,if_neg solid,if_neg plain,if_neg inside]

lemma argument_toggle (half:ℕ) :
 argument (half*2) quoted (quote::rest) =
  (slashes half++(argument 0 (!quoted) rest).1,(argument 0 (!quoted) rest).2) := by
 rw [argument,if_neg (by decide),if_pos rfl,if_pos (Nat.mul_mod_left _ _),
  Nat.mul_div_cancel _ (by decide)]

lemma argument_literal (half:ℕ) :
 argument (half*2+1) quoted (quote::rest) =
  (slashes half++quote::(argument 0 quoted rest).1,(argument 0 quoted rest).2) := by
 have odd:(half*2+1)%2≠0:=by omega
 have half' : (half*2+1)/2=half := by omega
 rw [argument,if_neg (by decide),if_pos rfl,if_neg odd,half']

lemma argument_end (ends:Ends rest) : argument count false rest=(slashes count,rest) := by
 cases rest with
 | nil => rfl
 | cons unit =>
  have blank:=ends unit rfl
  have solid:unit≠backslash:=by
   rintro rfl
   exact absurd blank (by decide)
  have plain:unit≠quote:=by
   rintro rfl
   exact absurd blank (by decide)
  rw [argument,if_neg solid,if_neg plain,if_pos (by simp [blank])]

lemma arguments_nil : arguments []=[] := by
 unfold arguments
 rfl

lemma arguments_space {text:List UInt16} {unit:UInt16} {units:List UInt16}
 (solid:isBlank unit=false) (read:argument 0 false (unit::units)=(text,rest)) :
 arguments (space::unit::units)=text::arguments rest := by
 have skipped:(space::unit::units).dropWhile isBlank=unit::units:=by
  rw [List.dropWhile_cons_of_pos (by decide),List.dropWhile_cons_of_neg (by simp [solid])]
 rw [arguments]
 split
 · rename_i empty
   rw [skipped] at empty
   cases empty
 · rename_i unit' units' more
   rw [skipped] at more
   cases more
   rw [read]

lemma programName_quoted {name:List UInt16} (plain:quote ∉ name) :
 programName true (name++quote::rest) =
  (name++(programName false rest).1,(programName false rest).2) := by
 induction name with
 | nil => rfl
 | cons _ _ ih =>
  obtain ⟨here,later⟩:=not_or.1 (mt List.mem_cons.2 plain)
  rw [List.cons_append,programName,if_neg (Ne.symm here),if_neg (by simp),ih later]
  rfl

lemma programName_end (ends:Ends rest) : programName false rest=([],rest) := by
 cases rest with
 | nil => rfl
 | cons unit =>
  have blank:=ends unit rfl
  have plain:unit≠quote:=by
   rintro rfl
   exact absurd blank (by decide)
  rw [programName,if_neg plain,if_pos (by simp [blank])]

lemma programName_plain {name:List UInt16} (plain:quote ∉ name)
 (solid:∀unit∈name,isBlank unit=false) (ends:Ends rest) :
 programName false (name++rest)=(name,rest) := by
 induction name with
 | nil => exact programName_end ends
 | cons unit _ ih =>
  obtain ⟨here,later⟩:=not_or.1 (mt List.mem_cons.2 plain)
  have blank:=solid unit (by simp)
  rw [List.cons_append,programName,if_neg (Ne.symm here),if_neg (by simp [blank]),
   ih later fun other member=>solid other (by simp [member])]

lemma tail_split {line:List UInt16} (clean:0 ∉ line) :
 (split line).tail=arguments (programName false line).2 := by
 have all:∀unit∈line,(unit != 0)=true:=by
  intro _ member
  rw [bne_iff_ne]
  rintro rfl
  exact clean member
 rw [split,List.takeWhile_eq_self_iff.2 all]
 rfl

end Quoting
end CommandLine
