/-! Programs that act on their surroundings one effect at a time. An effect of type `E β` is answered with a `β` or
with an exception, and the program goes on from the answer; the surroundings are any function that answers. -/

namespace Effects

/-- A program that asks for effects and goes on with what they return or raise. -/
inductive Program (E : Type → Type) (X α : Type) : Type 1 where
  | done (r : Except X α)
  | perform {β : Type} (e : E β) (k : Except X β → Program E X α)

namespace Program
variable {E : Type → Type} {X α β : Type}

/-- The one program after the other. -/
def bind : Program E X α → (α → Program E X β) → Program E X β
  | .done (.ok a), f => f a
  | .done (.error x), _ => .done (.error x)
  | .perform e k, f => .perform e fun r => (k r).bind f

instance : Monad (Program E X) where
  pure a := .done (.ok a)
  bind := bind

/-- The program that performs one effect. -/
def effect (e : E α) : Program E X α := .perform e .done

/-- `raise` -/
def raise (x : X) : Program E X α := .done (.error x)

/-- A call without effects. -/
def ofExcept (r : Except X α) : Program E X α := .done r

/-- `try: p` `except: h`, where `h` raises again what it does not catch. -/
def tryCatch : Program E X α → (X → Program E X α) → Program E X α
  | .done (.ok a), _ => .done (.ok a)
  | .done (.error x), h => h x
  | .perform e k, h => .perform e fun r => (k r).tryCatch h

/-- `try: p` `finally: q`; an exception of `q` replaces what `p` ended with. -/
def tryFinally : Program E X α → Program E X Unit → Program E X α
  | .done r, q => q.bind fun _ => .done r
  | .perform e k, q => .perform e fun r => (k r).tryFinally q

/-- What answers the `n`th effect. -/
abbrev Answers (E : Type → Type) (X : Type) := Nat → (β : Type) → E β → Except X β

variable (answers : Answers E X)

/-- The effects that the program performs, from the `n`th on. -/
def trace (n : Nat) : Program E X α → List (Sigma E)
  | .done _ => []
  | @perform _ _ _ β e k => ⟨β, e⟩ :: (k (answers n β e)).trace (n + 1)

/-- What the program ends with when each effect is always answered the same way. -/
def eval (answer : (β : Type) → E β → Except X β) : Program E X α → Except X α
  | .done r => r
  | @perform _ _ _ β e k => (k (answer β e)).eval answer

/-- Whatever the answers, the program performs no effect that is `bad`. -/
def Avoids (bad : Sigma E → Prop) : Program E X α → Prop
  | .done _ => True
  | @perform _ _ _ β e k => ¬ bad ⟨β, e⟩ ∧ ∀ r, (k r).Avoids bad

variable {answers} {bad : Sigma E → Prop}

theorem bind_assoc {γ : Type} (p : Program E X α) (f : α → Program E X β) (g : β → Program E X γ) :
    (p >>= f >>= g) = (p >>= fun a => f a >>= g) := by
  show (p.bind f).bind g = p.bind fun a => (f a).bind g
  induction p with
  | done r => cases r <;> rfl
  | perform e k ih => exact congrArg (Program.perform e) (funext ih)

theorem avoids_trace {p : Program E X α} (h : p.Avoids bad) (n : Nat) : ∀ e ∈ p.trace answers n, ¬ bad e := by
  induction p generalizing n with
  | done r =>
    intro e he
    cases he
  | perform e k ih =>
    intro e' he'
    rcases List.mem_cons.mp he' with rfl | he'
    · exact h.1
    · exact ih (answers n _ e) (h.2 _) (n + 1) e' he'

theorem avoids_bind {p : Program E X α} {f : α → Program E X β} (hp : p.Avoids bad) (hf : ∀ a, (f a).Avoids bad) :
    (p >>= f).Avoids bad := by
  show (p.bind f).Avoids bad
  induction p with
  | done r =>
    cases r with
    | ok a => exact hf a
    | error x => trivial
  | perform e k ih => exact ⟨hp.1, fun r => ih r (hp.2 r)⟩

theorem avoids_effect {e : E α} (h : ¬ bad ⟨α, e⟩) : (effect e : Program E X α).Avoids bad := ⟨h, fun _ => trivial⟩

theorem avoids_pure (a : α) : (pure a : Program E X α).Avoids bad := trivial

theorem avoids_ofExcept (r : Except X α) : (ofExcept r : Program E X α).Avoids bad := trivial

theorem avoids_raise (x : X) : (raise x : Program E X α).Avoids bad := trivial

theorem avoids_tryCatch {p : Program E X α} {h : X → Program E X α} (hp : p.Avoids bad) (hh : ∀ x, (h x).Avoids bad) :
    (p.tryCatch h).Avoids bad := by
  induction p with
  | done r =>
    cases r with
    | ok a => trivial
    | error x => exact hh x
  | perform e k ih => exact ⟨hp.1, fun r => ih r (hp.2 r)⟩

theorem avoids_tryFinally {p : Program E X α} {q : Program E X Unit} (hp : p.Avoids bad) (hq : q.Avoids bad) :
    (p.tryFinally q).Avoids bad := by
  induction p with
  | done r => exact avoids_bind hq fun _ => trivial
  | perform e k ih => exact ⟨hp.1, fun r => ih r (hp.2 r)⟩

/-! ### Evaluation -/

@[simp] theorem ok_bind (a : α) (f : α → Except X β) : (Except.ok a).bind f = f a := rfl

@[simp] theorem error_bind (x : X) (f : α → Except X β) : (Except.error x : Except X α).bind f = .error x := rfl

section Eval
variable {answer : (β : Type) → E β → Except X β}

@[simp] theorem eval_bind (p : Program E X α) (f : α → Program E X β) :
    (p >>= f).eval answer = (p.eval answer).bind fun a => (f a).eval answer := by
  show (p.bind f).eval answer = _
  induction p with
  | done r => cases r <;> rfl
  | perform e k ih => exact ih (answer _ e)

@[simp] theorem eval_pure (a : α) : (pure a : Program E X α).eval answer = .ok a := rfl

@[simp] theorem eval_effect (e : E α) : (effect e : Program E X α).eval answer = answer α e := rfl

@[simp] theorem eval_ofExcept (r : Except X α) : (ofExcept r : Program E X α).eval answer = r := rfl

@[simp] theorem eval_tryCatch (p : Program E X α) (h : X → Program E X α) :
    (p.tryCatch h).eval answer = (p.eval answer).tryCatch fun x => (h x).eval answer := by
  induction p with
  | done r => cases r <;> rfl
  | perform e k ih => exact ih (answer _ e)

@[simp] theorem eval_raise (x : X) : (raise x : Program E X α).eval answer = .error x := rfl

/-- A `finally` that does not raise leaves the outcome as it is. -/
theorem eval_tryFinally (p : Program E X α) {q : Program E X Unit} (hq : q.eval answer = .ok ()) :
    (p.tryFinally q).eval answer = p.eval answer := by
  induction p with
  | done r =>
    show (q >>= fun _ => .done r).eval answer = r
    rw [eval_bind, hq]
    rfl
  | perform e k ih => exact ih (answer _ e)

end Eval

variable (answers) (bad) in
/-- A program that starts with an effect performs it first. -/
theorem trace_effect_bind (e : E α) (f : α → Program E X β) (n : Nat) :
    ∃ rest, (effect e >>= f).trace answers n = ⟨α, e⟩ :: rest ∧ ((∀ a, (f a).Avoids bad) → ∀ e' ∈ rest, ¬ bad e') := by
  refine ⟨_, rfl, fun hf => ?_⟩
  have hrest : (Program.bind (.done (answers n α e)) f).Avoids bad := avoids_bind trivial hf
  exact avoids_trace hrest (n + 1)

end Program

end Effects
