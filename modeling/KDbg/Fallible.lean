import Mathlib.Tactic
set_option autoImplicit false
/-! Programs that return a value or fail, and the tests that they make on the way. -/
namespace Fallible
variable {ε α β:Type} {x:Except ε α} {f:α→Except ε β}

lemma exists_of_bind {b:β} (h:(x >>= f)=.ok b) : ∃ a,x=.ok a ∧ f a=.ok b := by
 cases x with
 | error => cases h
 | ok a => exact ⟨a,rfl,h⟩

lemma bind_of_ok {a:α} (h:x=.ok a) : (x >>= f)=f a := by
 rw [h]
 rfl

/-- A program goes on only if the test holds. -/
def require (good : Prop) [Decidable good] (failure : ε) : Except ε Unit :=
 if good then .ok () else .error failure

@[simp] lemma require_eq_ok {good:Prop} [Decidable good] {failure:ε} :
 require good failure=.ok () ↔ good := by
 by_cases h:good <;> simp [require,h]

end Fallible
