import Mathlib.Tactic
set_option autoImplicit false
/-!
# Text streams

Formatted input and output of bytes, as `std::istream` and `std::ostream` do it in the
C locale: a field is preceded by white space that is skipped, ends before the first byte
that cannot belong to it, and touches the end of the stream when nothing follows it.
-/
namespace TextStream

/-- A stream of which so many bytes are left; `eof` says that its end has been touched. -/
structure Input where
 rest : List UInt8
 eof : Bool := false
deriving DecidableEq,Repr

/-- The stream once `rest` is left, by an extraction that looks at the next byte. -/
def Input.ahead (rest : List UInt8) : Input := { rest,eof := rest.isEmpty }

def newline : UInt8 := 0x0A
def quote : UInt8 := 0x22
def backslash : UInt8 := 0x5C

def isBlank (byte : UInt8) : Bool := byte == 0x20 || (0x09 ≤ byte && byte≤0x0D)

def isDigit (byte : UInt8) : Bool := (Char.ofUInt8 byte).isDigit

/-- `<<` of a number. -/
def decimal (n : ℕ) : List UInt8 := (Nat.toDigits 10 n).map Char.toUInt8

def decimalInt : ℤ→List UInt8
 | .ofNat n => decimal n
 | .negSucc n => 0x2D::decimal (n+1)

def escape (byte : UInt8) : List UInt8 :=
 if byte=quote ∨ byte=backslash then [backslash,byte] else [byte]

/-- `<< std::quoted`. -/
def quoted (text : List UInt8) : List UInt8 := quote::text.flatMap escape++[quote]

/-- `>> std::ws`. -/
def ws (s : Input) : Input := if s.eof then s else .ahead (s.rest.dropWhile isBlank)

/-- What a formatted extraction begins with: nothing can be extracted once the end was touched,
 and white space is skipped. -/
def sentry (s : Input) : Option (List UInt8) :=
 if s.eof ∨ s.rest.dropWhile isBlank=[] then none else some (s.rest.dropWhile isBlank)

/-- `>>` into a string. -/
def word (s : Input) : Option (List UInt8×Input) :=
 (sentry s).map fun bytes =>
  (bytes.takeWhile (!isBlank ·), .ahead (bytes.dropWhile (!isBlank ·)))

def sign : List UInt8→Bool×List UInt8
 | [] => (false,[])
 | byte::bytes =>
  if byte=0x2D then (true,bytes) else if byte=0x2B then (false,bytes)
  else (false,byte::bytes)

def digits (bytes : List UInt8) : List UInt8 := bytes.takeWhile isDigit

def value (digits : List UInt8) : ℕ := Nat.ofDigitChars 10 (digits.map Char.ofUInt8) 0

/-- `>>` into a number: the field is a sign and digits, and its value has to be one that the type
 of the number holds. -/
def number {α : Type} (convert : Bool→ℕ→Option α) (s : Input) : Option (α×Input) :=
 (sentry s).bind fun bytes =>
  let (negative,bytes) := sign bytes
  if digits bytes=[] then none
  else (convert negative (value (digits bytes))).map fun a =>
   (a, .ahead (bytes.dropWhile isDigit))

/-- An unsigned type of `width` bits takes a negative number as `strtoull` does, by wrapping. -/
def toUnsigned (width : ℕ) (negative : Bool) (magnitude : ℕ) : Option ℕ :=
 if 2^width ≤ magnitude then none
 else some (if negative then (2^width-magnitude)%2^width else magnitude)

def toSigned (width : ℕ) (negative : Bool) (magnitude : ℕ) : Option ℤ :=
 if negative then if 2^(width-1) < magnitude then none else some (-magnitude)
 else if 2^(width-1) ≤ magnitude then none else some magnitude

def unsigned (width : ℕ) (s : Input) : Option (ℕ×Input) := number (toUnsigned width) s

def signed (width : ℕ) (s : Input) : Option (ℤ×Input) := number (toSigned width) s

/-- The rest of a quoted string, up to the quote that ends it, and what follows. -/
def unquote : List UInt8→Option (List UInt8×List UInt8)
 | [] => none
 | byte::bytes =>
  if byte=backslash then
   match bytes with
   | [] => none
   | escaped::bytes => (unquote bytes).map fun (text,rest)=>(escaped::text,rest)
  else if byte=quote then some ([],bytes)
  else (unquote bytes).map fun (text,rest)=>(byte::text,rest)

/-- `>> std::quoted`: a text that does not begin with a quote is read as a word. -/
def quotedText (s : Input) : Option (List UInt8×Input) :=
 (sentry s).bind fun bytes =>
  if bytes.head?=some quote then
   (unquote bytes.tail).map fun (text,rest)=>(text,{ rest })
  else word { rest := bytes }

/-- How `getline` into a buffer ends. -/
inductive Line where
 /-- So many characters were stored; `ended` if a line break was taken after them. -/
 | read (text : List UInt8) (ended : Bool) (rest : List UInt8)
 /-- The line does not fit. -/
 | long
 /-- Nothing was left. -/
 | none
 /-- The device failed at the end of what it gave. -/
 | fault
deriving DecidableEq

/-- `getline` into a buffer that holds `capacity` characters, from a device that gives `bytes` and
 then ends, or fails. -/
def getline (capacity : ℕ) (faulty : Bool) (bytes : List UInt8) : Line :=
 if capacity<(bytes.takeWhile (· != newline)).length then .long
 else match bytes.dropWhile (· != newline) with
  | _::rest => .read (bytes.takeWhile (· != newline)) true rest
  | [] => if faulty then .fault else if bytes=[] then .none else .read bytes false []

/-- The lines that `getline` into a string gives, one after the other. -/
def lines : List UInt8→List (List UInt8)
 | [] => []
 | byte::bytes =>
  if byte=newline then []::lines bytes
  else match lines bytes with
   | [] => [[byte]]
   | line::rest => (byte::line)::rest

/-- The next byte, which stays in the stream. -/
def Input.peek (s : Input) : Option UInt8 := if s.eof then none else s.rest.head?

variable {byte:UInt8}

section Runs
variable {p:UInt8→Bool} {field rest:List UInt8}

/-- The first byte of what follows a field cannot belong to it. -/
def Stops (p : UInt8→Bool) (rest : List UInt8) : Prop := ∀ byte∈rest.head?,p byte=false

lemma stops_nil (p:UInt8→Bool) : Stops p [] := fun _ h=>(nomatch h)

lemma stops_cons (h:p byte=false) : Stops p (byte::rest) := by
 intro _ same
 cases same
 exact h

lemma takeWhile_run (all:∀byte∈field,p byte=true) (stop:Stops p rest) :
 (field++rest).takeWhile p=field := by
 rw [List.takeWhile_append_of_pos all]
 cases rest with
 | nil => simp
 | cons byte => simp [stop byte rfl]

lemma dropWhile_run (all:∀byte∈field,p byte=true) (stop:Stops p rest) :
 (field++rest).dropWhile p=rest := by
 rw [List.dropWhile_append_of_pos all]
 cases rest with
 | nil => simp
 | cons byte => simp [stop byte rfl]

lemma stops_dropWhile (bytes:List UInt8) : Stops p (bytes.dropWhile p) := by
 induction bytes with
 | nil => exact stops_nil p
 | cons byte =>
  cases h:p byte with
  | true => rwa [List.dropWhile_cons_of_pos h]
  | false =>
   rw [List.dropWhile_cons_of_neg (by simp [h])]
   exact stops_cons h

end Runs

section Fields
variable {blank field rest:List UInt8}

lemma sentry_run (blanks:∀byte∈blank,isBlank byte=true) (stop:Stops isBlank rest)
 (more:rest≠[]) : sentry { rest := blank++rest }=some rest := by
 have skipped:=dropWhile_run blanks stop
 simp [sentry,skipped,more]

lemma sentry_ws (s:Input) : sentry (ws s)=sentry s := by
 have again : (s.rest.dropWhile isBlank).dropWhile isBlank=s.rest.dropWhile isBlank :=
  by
  have none:∀byte∈([] : List UInt8),isBlank byte=true:=by simp
  exact dropWhile_run none (stops_dropWhile s.rest)
 unfold ws
 split
 · rfl
 · rename_i more
   by_cases rest:s.rest.dropWhile isBlank=[]
   · simp [sentry,Input.ahead,rest]
   · simp [sentry,Input.ahead,rest,again,more]

lemma word_ws (s:Input) : word (ws s)=word s := by rw [word,word,sentry_ws]

lemma word_run (blanks:∀byte∈blank,isBlank byte=true) (some_byte:field≠[])
 (solid:∀byte∈field,isBlank byte=false) (stop:Stops (!isBlank ·) rest) :
 word { rest := blank++(field++rest) }=some (field, .ahead rest) := by
 have begins:Stops isBlank (field++rest):=by
  obtain ⟨byte,_,rfl⟩:=List.exists_cons_of_ne_nil some_byte
  exact stops_cons (solid byte (by simp))
 have all:∀byte∈field,(!isBlank byte)=true:=by simpa using solid
 rw [word,sentry_run blanks begins (by simp [some_byte]),Option.map_some,
  takeWhile_run all stop,dropWhile_run all stop]

lemma ofUInt8_toUInt8 {c:Char} (h:c.isDigit=true) : Char.ofUInt8 c.toUInt8=c := by
 simp only [Char.isDigit,Bool.and_eq_true,decide_eq_true_eq] at h
 have low:48 ≤ c.toNat:=UInt32.le_iff_toNat_le.1 h.1
 have high:c.toNat≤57:=UInt32.le_iff_toNat_le.1 h.2
 rw [←Char.ofNat_toNat c]
 generalize c.toNat=n at low high
 interval_cases n <;> rfl

lemma decimal_ne_nil (n:ℕ) : decimal n≠[] := by
 simp [decimal]

lemma isDigit_of_mem_decimal {n:ℕ} (h:byte∈decimal n) : isDigit byte=true := by
 obtain ⟨c,member,rfl⟩:=List.mem_map.1 h
 have digit:=Nat.isDigit_of_mem_toDigits (by decide) (by decide) member
 rw [isDigit,ofUInt8_toUInt8 digit]
 exact digit

lemma value_decimal (n:ℕ) : value (decimal n)=n := by
 have same:(decimal n).map Char.ofUInt8=Nat.toDigits 10 n:=by
  rw [decimal,List.map_map]
  refine (List.map_congr_left fun c member => ?_).trans (List.map_id _)
  exact ofUInt8_toUInt8 (Nat.isDigit_of_mem_toDigits (by decide) (by decide) member)
 rw [value,same,Nat.ofDigitChars_toDigits (by decide) (by decide)]

lemma digit_plain (h:isDigit byte=true) :
 isBlank byte=false ∧ byte≠0x2D ∧ byte≠0x2B := by
 have every : ∀n : Fin 256,isDigit (UInt8.ofFin n)=true →
  isBlank (UInt8.ofFin n)=false ∧ UInt8.ofFin n≠0x2D ∧ UInt8.ofFin n≠0x2B := by
  decide +kernel
 exact every byte.toFin h

lemma sign_of_digit (h:isDigit byte=true) (bytes:List UInt8) :
 sign (byte::bytes)=(false,byte::bytes) := by
 obtain ⟨-,minus,plus⟩:=digit_plain h
 simp [sign,minus,plus]

/-- A number that was written with `<<` is read back, up to the first byte that is no digit. -/
lemma number_run {α:Type} {convert:Bool→ℕ→Option α} {a:α} {negative:Bool} {n:ℕ}
 (blanks:∀byte∈blank,isBlank byte=true) (stop:Stops isDigit rest)
 (fits:convert negative n=some a) :
 number convert { rest := blank++((if negative then [0x2D] else [])++(decimal n++rest)) } =
  some (a, .ahead rest) := by
 obtain ⟨byte,_,split⟩:=List.exists_cons_of_ne_nil (decimal_ne_nil n)
 have digit:isDigit byte=true:=isDigit_of_mem_decimal (n := n) (by simp [split])
 have all:∀byte∈decimal n,isDigit byte=true:=fun _=>isDigit_of_mem_decimal
 have signed : sign ((if negative then [0x2D] else [])++(decimal n++rest)) =
  (negative,decimal n++rest) := by
  cases negative with
  | true => rfl
  | false =>
   rw [split]
   exact sign_of_digit digit _
 have begins:Stops isBlank ((if negative then [0x2D] else [])++(decimal n++rest)):=by
  cases negative with
  | true => exact stops_cons rfl
  | false =>
   rw [split]
   exact stops_cons (digit_plain digit).1
 rw [number,sentry_run blanks begins (by simp [decimal_ne_nil]),Option.bind_some,signed]
 simp only [digits,takeWhile_run all stop,dropWhile_run all stop,decimal_ne_nil,if_false,
  value_decimal,fits,Option.map_some]

lemma unsigned_run {width n:ℕ} (blanks:∀byte∈blank,isBlank byte=true)
 (stop:Stops isDigit rest) (fits:n<2^width) :
 unsigned width { rest := blank++(decimal n++rest) }=some (n, .ahead rest) := by
 have converted:toUnsigned width false n=some n:=by
  simp [toUnsigned,Nat.not_le.2 fits]
 exact number_run blanks stop converted

lemma signed_run {width:ℕ} {n:ℤ} (blanks:∀byte∈blank,isBlank byte=true)
 (stop:Stops isDigit rest) (low:-2^(width-1) ≤ n) (high:n<2^(width-1)) :
 signed width { rest := blank++(decimalInt n++rest) }=some (n, .ahead rest) := by
 cases n with
 | ofNat n =>
  have converted:toSigned width false n=some (n:ℤ):=by
   have : n<2^(width-1) := by
    rw [Int.ofNat_eq_natCast] at high
    exact_mod_cast high
   simp [toSigned,Nat.not_le.2 this]
  exact number_run blanks stop converted
 | negSucc n =>
  have converted:toSigned width true (n+1)=some (Int.negSucc n):=by
   have bound:n+1≤2^(width-1):=by
    have : (n:ℤ)+1≤2^(width-1) := by omega
    exact_mod_cast this
   have same : -((n:ℤ)+1)=Int.negSucc n := by omega
   simp [toSigned,Nat.not_lt.2 bound,same]
  exact number_run blanks stop converted

lemma unquote_quote : unquote (quote::rest)=some ([],rest) := by
 unfold unquote
 rfl

lemma unquote_escaped (byte:UInt8) : unquote (backslash::byte::rest) =
 (unquote rest).map fun (text,rest)=>(byte::text,rest) := by
 rw [unquote,if_pos rfl]

lemma unquote_plain (plain:byte≠quote) (solid:byte≠backslash) :
 unquote (byte::rest)=(unquote rest).map fun (text,rest)=>(byte::text,rest) := by
 conv_lhs => unfold unquote
 rw [if_neg solid,if_neg plain]

lemma unquote_escape (text:List UInt8) :
 unquote (text.flatMap escape++quote::rest)=some (text,rest) := by
 induction text with
 | nil => exact unquote_quote
 | cons byte text ih =>
  rw [List.flatMap_cons]
  by_cases special:byte=quote ∨ byte=backslash
  · rw [escape,if_pos special]
    change unquote (backslash::byte::(text.flatMap escape++quote::rest))=_
    rw [unquote_escaped,ih,Option.map_some]
  · obtain ⟨plain,solid⟩:=not_or.1 special
    rw [escape,if_neg special]
    change unquote (byte::(text.flatMap escape++quote::rest))=_
    rw [unquote_plain plain solid,ih,Option.map_some]

/-- A quoted text is read back whatever its bytes are. -/
lemma quotedText_run (text:List UInt8) (blanks:∀byte∈blank,isBlank byte=true) :
 quotedText { rest := blank++(quoted text++rest) }=some (text,{ rest }) := by
 have shape:quoted text++rest=quote::(text.flatMap escape++quote::rest):=by
  simp [quoted]
 have begins : Stops isBlank (quote::(text.flatMap escape++quote::rest)) :=
  stops_cons rfl
 rw [quotedText,shape,sentry_run blanks begins (by simp),Option.bind_some,List.head?_cons,
  if_pos rfl,List.tail_cons,unquote_escape,Option.map_some]

lemma mem_quoted {text:List UInt8} (plain:byte≠quote) (solid:byte≠backslash) :
 byte∈quoted text ↔ byte∈text := by
 have escaped:∀source,byte∈escape source ↔ byte=source:=by
  intro source
  by_cases special:source=quote ∨ source=backslash
  · simp [escape,special,solid]
  · simp [escape,special]
 simp [quoted,plain,List.mem_flatMap,escaped]

lemma length_quoted (text:List UInt8) :
 (quoted text).length =
  text.length+text.countP (fun byte=>byte=quote ∨ byte=backslash)+2 := by
 have body : (text.flatMap escape).length =
  text.length+text.countP (fun byte=>byte=quote ∨ byte=backslash) := by
  induction text with
  | nil => rfl
  | cons byte _ ih =>
   rw [List.flatMap_cons,List.length_append,ih]
   by_cases special:byte=quote ∨ byte=backslash
   · simp [escape,special]
     omega
   · simp [escape,special]
     omega
 simp [quoted,body]

end Fields

section Lines
variable {capacity:ℕ} {faulty:Bool} {text rest:List UInt8}

/-- A line that holds no break is taken up to the break after it, if it fits. -/
lemma getline_line (solid:newline ∉ text) :
 getline capacity faulty (text++newline::rest) =
  if capacity < text.length then .long else .read text true rest := by
 have all:∀byte∈text,(byte != newline)=true:=by
  intro _ member
  simp only [bne_iff_ne,ne_eq]
  rintro rfl
  exact solid member
 have stop:Stops (· != newline) (newline::rest):=stops_cons (by simp)
 rw [getline,takeWhile_run all stop,dropWhile_run all stop]

lemma getline_nil : getline capacity false []=.none := by simp [getline]

lemma length_of_getline {bytes:List UInt8} {ended:Bool}
 (h:getline capacity faulty bytes=.read text ended rest) : rest.length < bytes.length := by
 have parts:=List.takeWhile_append_dropWhile (p := (· != newline)) (l := bytes)
 unfold getline at h
 split at h
 · cases h
 · split at h
   · rename_i byte rest' dropped
     cases h
     rw [←parts,dropped,List.length_append,List.length_cons]
     omega
   · split at h
     · cases h
     · split at h
       · cases h
       · rename_i filled
         cases h
         exact List.length_pos_iff.2 filled

lemma lines_line (solid:newline ∉ text) :
 lines (text++newline::rest)=text::lines rest := by
 induction text with
 | nil => rw [List.nil_append,lines,if_pos rfl]
 | cons _ _ ih =>
  obtain ⟨here,later⟩:=not_or.1 (mt List.mem_cons.2 solid)
  rw [List.cons_append,lines,if_neg (Ne.symm here),ih later]

end Lines
end TextStream
