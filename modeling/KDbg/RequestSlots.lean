import Mathlib.Data.List.Basic
import Mathlib.Data.Nat.Notation
set_option autoImplicit false
/-! Requests in numbered slots: a new one gets the next number, and the slot of one that is done is
empty. Each request works on a file, and some of them close it. -/
namespace RequestSlots

variable {α:Type} {slots:List (Option α)} {i j:ℕ} {a b:α} {value:Option α}

lemma slot_set (found:slots[i]?.join=some a) :
 (slots.set i value)[j]?.join=if j=i then value else slots[j]?.join := by
 have lt:i < slots.length:=by
  by_contra _
  rw [List.getElem?_eq_none (by omega)] at found
  cases found
 rw [List.getElem?_set]
 by_cases same:i=j
 · rw [if_pos same,if_pos lt,if_pos same.symm,Option.join_some]
 · rw [if_neg same,if_neg (Ne.symm same)]

lemma slot_append :
 (slots++[value])[j]?.join=if j=slots.length then value else slots[j]?.join := by
 rw [List.getElem?_append]
 rcases Nat.lt_trichotomy j slots.length with lt|eq|gt
 · rw [if_pos lt,if_neg (Nat.ne_of_lt lt)]
 · rw [eq,if_neg (by omega),if_pos rfl,Nat.sub_self,List.getElem?_cons_zero,Option.join_some]
 · rw [if_neg (by omega),if_neg (Nat.ne_of_gt gt),List.getElem?_eq_none (by simp;omega),
    List.getElem?_eq_none (Nat.le_of_lt gt)]

lemma set_cases (found:slots[i]?.join=some a) (held:(slots.set i value)[j]?.join=some b) :
 (j=i ∧ value=some b) ∨ (j≠i ∧ slots[j]?.join=some b) := by
 rw [slot_set found] at held
 split at held
 · rename_i here
   exact .inl ⟨here,held⟩
 · rename_i differs
   exact .inr ⟨differs,held⟩

lemma append_cases (held:(slots++[some a])[j]?.join=some b) :
 (j=slots.length ∧ b=a) ∨ slots[j]?.join=some b := by
 rw [slot_append] at held
 split at held
 · rename_i last
   exact .inl ⟨last,(Option.some.inj held).symm⟩
 · exact .inr held

lemma of_any {f:α→Bool} (none:(slots.any fun slot=>slot.any f)=false)
 (found:slots[i]?.join=some a) : f a=false := by
 have mem:=List.mem_of_getElem? (Option.join_eq_some_iff.1 found)
 simpa using List.any_eq_false.1 none _ mem

section ClosesAlone
variable {file:α→ℕ} {closing:α→Bool}

/-- A request that closes a file is the only one on it. -/
def ClosesAlone (file:α→ℕ) (closing:α→Bool) (slots:List (Option α)) : Prop :=
 ∀ (i:ℕ) a (j:ℕ) b,slots[i]?.join=some a → closing a=true → slots[j]?.join=some b → file b=file a → j=i

lemma ClosesAlone.append (alone:ClosesAlone file closing slots)
 (others:∀(j:ℕ) b,slots[j]?.join=some b → file b=file a → closing b=false ∧ closing a=false) :
 ClosesAlone file closing (slots++[some a]) := by
 intro j p k q held closes held' on
 rcases append_cases held with ⟨rfl,rfl⟩|old
 · rcases append_cases held' with ⟨same,-⟩|old'
   · exact same
   · simp [(others k q old' on).2] at closes
 · rcases append_cases held' with ⟨-,rfl⟩|old'
   · simp [(others j p old on.symm).1] at closes
   · exact alone j p k q old closes old' on

lemma ClosesAlone.set (alone:ClosesAlone file closing slots) (found:slots[i]?.join=some a)
 (same:∀b,value=some b → file b=file a ∧ closing b=closing a) :
 ClosesAlone file closing (slots.set i value) := by
 intro j p k q held closes held' on
 rcases set_cases found held with ⟨rfl,new⟩|⟨-,old⟩
 · obtain ⟨file,kind⟩:=same p new
   rcases set_cases found held' with ⟨rfl,-⟩|⟨-,old'⟩
   · rfl
   · exact alone j a k q found (kind ▸ closes) old' (on.trans file)
 · rcases set_cases found held' with ⟨rfl,new'⟩|⟨-,old'⟩
   · exact alone j p k a old closes found ((same q new').1.symm.trans on)
   · exact alone j p k q old closes old' on

/-- No request is on the file: a new one may close it. -/
lemma ClosesAlone.of_idle (alone:ClosesAlone file closing slots)
 (idle:(slots.any fun slot=>slot.any fun next=>file next == file a)=false) :
 ClosesAlone file closing (slots++[some a]) :=
 alone.append fun _ _ held on=>absurd on (by simpa using of_any idle held)

lemma ClosesAlone.of_kept (alone:ClosesAlone file closing slots)
 (kept:(slots.any fun slot=>slot.any fun next=>file next == file a && closing next)=false)
 (plain:closing a=false) : ClosesAlone file closing (slots++[some a]) :=
 alone.append fun _ _ held on=>⟨by simpa [on] using of_any kept held,plain⟩

end ClosesAlone
end RequestSlots
