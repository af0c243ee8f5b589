import Mathlib.Tactic
import Mathlib.Data.Fintype.Pi
set_option autoImplicit false
/-!
# Programs that call an environment

A program either returns or issues a call and continues from its answer. An
execution is a finite trace of calls with the answers they got; nothing is
assumed of the environment, so quantifying over executions quantifies over
every sequence of answers.
-/
namespace Interaction

structure Event (C : Type) (R : C→Type) where
 call : C
 answer : R call

inductive Prog (C : Type) (R : C→Type) (α : Type) where
 | ret (a : α)
 | call (c : C) (k : R c→Prog C R α)

namespace Prog
variable {C:Type} {R:C→Type} {α β:Type}

def bind : Prog C R α→(α→Prog C R β)→Prog C R β
 | .ret a,f => f a
 | .call c k,f => .call c (fun r=>(k r).bind f)

instance : Monad (Prog C R) where
 pure := .ret
 bind := .bind

def ask (c : C) : Prog C R (R c) := .call c .ret

/-- `p.Exec t a`: some environment answers the calls of `p` along the trace
 `t`, and `p` then returns `a`. -/
inductive Exec : Prog C R α→List (Event C R) → α→Prop where
 | ret (a:α) : Exec (.ret a) [] a
 | call {c:C} {k:R c→Prog C R α} (r:R c) {t:List (Event C R)} {a:α}
  (tail:Exec (k r) t a) : Exec (.call c k) (⟨c,r⟩::t) a

@[simp] lemma exec_ret (a b:α) (t:List (Event C R)) :
 (ret a:Prog C R α).Exec t b ↔ t=[] ∧ b=a := by
 constructor
 · intro h
   cases h
   exact ⟨rfl,rfl⟩
 · rintro ⟨rfl,rfl⟩
   exact .ret _

@[simp] lemma exec_pure (a b:α) (t:List (Event C R)) :
 (pure a:Prog C R α).Exec t b ↔ t=[] ∧ b=a :=
 exec_ret a b t

lemma exec_pure_prod (p:α×β) (a:α) (b:β) (t:List (Event C R)) :
 (pure p:Prog C R (α×β)).Exec t (a,b) ↔ t=[] ∧ a=p.1 ∧ b=p.2 := by
 rw [exec_pure,Prod.ext_iff]

lemma exec_call (c:C) (k:R c→Prog C R α) (t:List (Event C R)) (a:α) :
 (call c k).Exec t a ↔ ∃ r u,t=⟨c,r⟩::u ∧ (k r).Exec u a := by
 constructor
 · intro h
   cases h with
   | call r tail => exact ⟨r,_,rfl,tail⟩
 · rintro ⟨r,u,rfl,h⟩
   exact .call r h

lemma exec_bind (p:Prog C R α) (f:α→Prog C R β) (t:List (Event C R)) (b:β) :
 (p >>= f).Exec t b ↔ ∃ u a v,t=u++v ∧ p.Exec u a ∧ (f a).Exec v b := by
 induction p generalizing t with
 | ret a =>
  constructor
  · intro h
    exact ⟨[],a,t,rfl, .ret a,h⟩
  · rintro ⟨u,_,v,rfl,hp,hf⟩
    obtain ⟨rfl,rfl⟩:=(exec_ret _ _ _).1 hp
    exact hf
 | call c k ih =>
  constructor
  · intro h
    obtain ⟨r,w,rfl,hk⟩:=(exec_call _ _ _ _).1 h
    obtain ⟨u,a,v,rfl,hp,hf⟩:=(ih r w).1 hk
    exact ⟨⟨c,r⟩::u,a,v,rfl, .call r hp,hf⟩
  · rintro ⟨u,a,v,rfl,hp,hf⟩
    obtain ⟨r,w,rfl,hk⟩:=(exec_call _ _ _ _).1 hp
    exact .call r ((ih r (w++v)).2 ⟨w,a,v,rfl,hk,hf⟩)

lemma exec_ask_bind (c:C) (f:R c→Prog C R β) (t:List (Event C R)) (b:β) :
 (ask c >>= f).Exec t b ↔ ∃ r u,t=⟨c,r⟩::u ∧ (f r).Exec u b :=
 exec_call c f t b

namespace Exec
variable {a b:α} {x:β} {p:Prog C R α} {f:α→Prog C R β} {c:C} {k:R c→Prog C R α}
 {t:List (Event C R)}

lemma of_ret (h:(Prog.ret a : Prog C R α).Exec t b) : t=[] ∧ b=a :=
 (exec_ret a b t).1 h

lemma of_pure (h:(pure a:Prog C R α).Exec t b) : t=[] ∧ b=a :=
 (exec_pure a b t).1 h

/-- A program that has failed has not succeeded. -/
lemma of_error {ε:Type} {e:ε} (h:(pure (.error e):Prog C R (Except ε α)).Exec t (.ok b)) :
 False := by
 cases h.of_pure.2

lemma of_pure_prod {q:α×β} (h:(pure q:Prog C R (α×β)).Exec t (b,x)) :
 t=[] ∧ b=q.1 ∧ x=q.2 :=
 (exec_pure_prod q b x t).1 h

lemma of_call (h:(Prog.call c k).Exec t b) : ∃ r u,t=⟨c,r⟩::u ∧ (k r).Exec u b :=
 (exec_call c k t b).1 h

lemma of_ask (h:(ask c >>= k).Exec t b) : ∃ r u,t=⟨c,r⟩::u ∧ (k r).Exec u b :=
 (exec_ask_bind c k t b).1 h

lemma of_bind (h:(p >>= f).Exec t x) :
 ∃ u a v,t=u++v ∧ p.Exec u a ∧ (f a).Exec v x :=
 (exec_bind p f t x).1 h

end Exec

/-- A check that returns at once when its condition holds. -/
lemma exec_guard (c:Prop) [Decidable c] (a b:α) (p:Prog C R α) (t:List (Event C R)) :
 (if c then pure a else p:Prog C R α).Exec t b ↔
  (c ∧ t=[] ∧ b=a) ∨ (¬c ∧ p.Exec t b) := by
 by_cases h:c <;> simp [h]

lemma Exec.of_guard {c:Prop} [Decidable c] {a b:α} {p:Prog C R α}
 {t:List (Event C R)} (h:(if c then pure a else p:Prog C R α).Exec t b) :
 (c ∧ t=[] ∧ b=a) ∨ (¬c ∧ p.Exec t b) :=
 (exec_guard c a b p t).1 h

/-- What a program returns when its environment has one answer for each call. -/
def run (env : (c : C)→R c) : Prog C R α → α
 | .ret a => a
 | .call c k => (k (env c)).run env

@[simp] lemma run_pure (env:(c:C)→R c) (a:α) : (pure a:Prog C R α).run env=a := rfl

@[simp] lemma run_bind (env:(c:C)→R c) (p:Prog C R α) (f:α→Prog C R β) :
 (p >>= f).run env=(f (p.run env)).run env := by
 induction p with
 | ret => rfl
 | call c k ih => exact ih (env c)

lemma exec_run (env:(c:C)→R c) (p:Prog C R α) :
 ∃ t,p.Exec t (p.run env) ∧ ∀e∈t,e.answer=env e.call := by
 induction p with
 | ret a => exact ⟨[], .ret a,by simp⟩
 | call c k ih =>
  obtain ⟨t,ran,answered⟩:=ih (env c)
  refine ⟨⟨c,env c⟩::t, .call _ ran,?_⟩
  intro e mem
  rcases List.mem_cons.1 mem with rfl|later
  · rfl
  · exact answered e later

/-- Answers of that environment lead to what it returns. -/
lemma Exec.eq_run {env:(c:C)→R c} {p:Prog C R α} {t:List (Event C R)} {a:α}
 (h:p.Exec t a) (answers:∀e∈t,e.answer=env e.call) : a=p.run env := by
 induction h with
 | ret => rfl
 | call r _ ih =>
  obtain ⟨first,later⟩:=List.forall_mem_cons.1 answers
  rw [ih later,run,←first]

/-- What a program returns, and the state it leaves, when the answers come from a state that the
 calls change. -/
def runWith {σ : Type} (env : σ→(c : C)→R c×σ) : Prog C R α → σ → α×σ
 | .ret a,s => (a,s)
 | .call c k,s => (k (env s c).1).runWith env (env s c).2

section RunWith
variable {σ:Type} (env:σ→(c:C)→R c×σ)

@[simp] lemma runWith_pure (a:α) (s:σ) :
 (pure a:Prog C R α).runWith env s=(a,s) := rfl

@[simp] lemma runWith_ask (c:C) (s:σ) :
 (ask c:Prog C R (R c)).runWith env s=env s c := rfl

@[simp] lemma runWith_bind (p:Prog C R α) (f:α→Prog C R β) (s:σ) :
 (p >>= f).runWith env s=(f (p.runWith env s).1).runWith env (p.runWith env s).2 := by
 induction p generalizing s with
 | ret => rfl
 | call c k ih => exact ih (env s c).1 (env s c).2

lemma exec_runWith (p:Prog C R α) (s:σ) : ∃ t,p.Exec t (p.runWith env s).1 := by
 induction p generalizing s with
 | ret a => exact ⟨[], .ret a⟩
 | call c k ih =>
  obtain ⟨t,ran⟩:=ih (env s c).1 (env s c).2
  exact ⟨⟨c,(env s c).1⟩::t, .call _ ran⟩

end RunWith

/-- However its calls are answered, the program returns only what the postcondition allows of
 the trace and the value. -/
def Ensures (p : Prog C R α) (Q : List (Event C R) → α→Prop) : Prop :=
 ∀ t a,p.Exec t a→Q t a

lemma ensures_pure {a:α} {Q:List (Event C R) → α→Prop} (holds:Q [] a) :
 (pure a:Prog C R α).Ensures Q := by
 intro t b ran
 obtain ⟨rfl,rfl⟩:=(exec_pure _ _ _).1 ran
 exact holds

lemma ensures_ask_bind {c:C} {f:R c→Prog C R β} {Q:List (Event C R) → β→Prop}
 (rest:∀r,(f r).Ensures fun t=>Q (⟨c,r⟩::t)) : (ask c >>= f).Ensures Q := by
 intro t b ran
 obtain ⟨r,u,rfl,tail⟩:=(exec_ask_bind _ _ _ _).1 ran
 exact rest r u b tail

lemma ensures_bind {p:Prog C R α} {f:α→Prog C R β} {P:List (Event C R) → α→Prop}
 {Q:List (Event C R) → β→Prop} (first:p.Ensures P)
 (rest:∀t a,P t a→(f a).Ensures fun u=>Q (t++u)) : (p >>= f).Ensures Q := by
 intro t b ran
 obtain ⟨u,a,v,rfl,head,tail⟩:=(exec_bind _ _ _ _).1 ran
 exact rest u a (first u a head) v b tail

/-- In every execution in which each event satisfies `A`, each event satisfies `G`. -/
def Keeps (A G : Event C R→Prop) (p : Prog C R α) : Prop :=
 p.Ensures fun t _=>(∀ e∈t,A e) → ∀ e∈t,G e

section Keeps
variable {A G:Event C R→Prop}

lemma keeps_pure (a:α) : Keeps A G (pure a:Prog C R α) :=
 ensures_pure fun _ _ mem=>by cases mem

lemma keeps_ask_bind {c:C} {f:R c→Prog C R β}
 (rest:∀r,A ⟨c,r⟩→G ⟨c,r⟩ ∧ Keeps A G (f r)) : Keeps A G (ask c >>= f) := by
 refine ensures_ask_bind fun r t b ran assumed => ?_
 obtain ⟨first,later⟩:=List.forall_mem_cons.1 assumed
 exact List.forall_mem_cons.2 ⟨(rest r first).1,(rest r first).2 t b ran later⟩

lemma keeps_bind {p:Prog C R α} {f:α→Prog C R β} (first:Keeps A G p)
 (rest:∀a,Keeps A G (f a)) : Keeps A G (p >>= f) := by
 refine ensures_bind first fun u a before v b ran assumed => ?_
 obtain ⟨left,right⟩:=List.forall_mem_append.1 assumed
 exact List.forall_mem_append.2 ⟨before left,rest a v b ran right⟩

end Keeps

end Prog
end Interaction
