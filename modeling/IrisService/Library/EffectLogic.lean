import IrisService.Library.Effects

/-! Rules for programs with effects. A protocol says which effects may be performed in which state, and to which state
an effect leads with its answer; the surroundings may answer anything, exceptions included. -/

namespace Effects

/-- Which effects may be asked for when, and what follows. -/
structure Protocol (E : Type → Type) (X Q : Type) where
  may : Q → {β : Type} → E β → Prop
  next : Q → {β : Type} → E β → Except X β → Q

/-- An effect with its answer. -/
abbrev Exchange (E : Type → Type) (X : Type) := (β : Type) × E β × Except X β

/-- The protocol that any effects keep to. -/
def Protocol.any {E : Type → Type} {X : Type} : Protocol E X Unit := ⟨fun _ _ _ => True, fun _ _ _ _ => ()⟩

section Logs
variable {E : Type → Type} {X Q : Type}

/-- Each effect is one that may be performed after those before it. -/
def Protocol.Accepts (P : Protocol E X Q) : Q → List (Exchange E X) → Prop
  | _, [] => True
  | q, ⟨_, e, r⟩ :: log => P.may q e ∧ P.Accepts (P.next q e r) log

/-- The state that the effects lead to. -/
def Protocol.after (P : Protocol E X Q) : Q → List (Exchange E X) → Q
  | q, [] => q
  | q, ⟨_, e, r⟩ :: log => P.after (P.next q e r) log

end Logs

namespace Program
variable {E : Type → Type} {X Q α β : Type}

/-- The effects that the program performs, from the `n`th on, with their answers. -/
def log (answers : Answers E X) (n : Nat) : Program E X α → List (Exchange E X)
  | .done _ => []
  | @perform _ _ _ β e k => ⟨β, e, answers n β e⟩ :: (k (answers n β e)).log answers (n + 1)

/-- What the program ends with. -/
def result (answers : Answers E X) (n : Nat) : Program E X α → Except X α
  | .done r => r
  | @perform _ _ _ β e k => (k (answers n β e)).result answers (n + 1)

/-- From the state on, whatever the answers, the program keeps to the protocol and ends as `post` says. -/
def wp (P : Protocol E X Q) (post : Except X α → Q → Prop) : Program E X α → Q → Prop
  | .done r, q => post r q
  | .perform e k, q => P.may q e ∧ ∀ r, (k r).wp P post (P.next q e r)

variable {P : Protocol E X Q} {post post' : Except X α → Q → Prop} {q : Q}

/-- A program that meets its weakest precondition keeps to the protocol in every run. -/
theorem wp_sound {p : Program E X α} (h : p.wp P post q) (answers : Answers E X) (n : Nat) :
    P.Accepts q (p.log answers n) ∧ post (p.result answers n) (P.after q (p.log answers n)) := by
  induction p generalizing q n with
  | done r => exact ⟨trivial, h⟩
  | perform e k ih =>
    obtain ⟨haccepts, hpost⟩ := ih (answers n _ e) (h.2 _) (n + 1)
    exact ⟨⟨h.1, haccepts⟩, hpost⟩

theorem wp_mono {p : Program E X α} (h : p.wp P post q) (himp : ∀ r q, post r q → post' r q) : p.wp P post' q := by
  induction p generalizing q with
  | done r => exact himp r q h
  | perform e k ih => exact ⟨h.1, fun r => ih r (h.2 r)⟩

@[simp] theorem wp_done (r : Except X α) : (done r : Program E X α).wp P post q ↔ post r q := Iff.rfl

@[simp] theorem wp_pure (a : α) : (pure a : Program E X α).wp P post q ↔ post (.ok a) q := Iff.rfl

@[simp] theorem wp_raise (x : X) : (raise x : Program E X α).wp P post q ↔ post (.error x) q := Iff.rfl

@[simp] theorem wp_ofExcept (r : Except X α) : (ofExcept r : Program E X α).wp P post q ↔ post r q := Iff.rfl

@[simp] theorem wp_effect (e : E α) :
    (effect e : Program E X α).wp P post q ↔ P.may q e ∧ ∀ r, post r (P.next q e r) := Iff.rfl

/-- The code after `p` runs on its value; an exception ends both. -/
theorem wp_bind {p : Program E X α} {f : α → Program E X β} {post : Except X β → Q → Prop} :
    (p >>= f).wp P post q ↔ p.wp P (fun r q => match r with
      | .ok a => (f a).wp P post q
      | .error x => post (.error x) q) q := by
  show (p.bind f).wp P post q ↔ _
  induction p generalizing q with
  | done r => cases r <;> exact Iff.rfl
  | perform e k ih => exact and_congr_right fun _ => forall_congr' fun r => ih r

theorem wp_map {p : Program E X α} {f : α → β} {post : Except X β → Q → Prop} :
    (f <$> p).wp P post q ↔ p.wp P (fun r q => post (r.map f) q) q := by
  show (p >>= fun a => pure (f a)).wp P post q ↔ _
  rw [wp_bind]
  refine iff_of_eq (congrArg (fun post => p.wp P post q) ?_)
  funext r q'
  cases r <;> rfl

theorem wp_tryCatch {p : Program E X α} {h : X → Program E X α} :
    (p.tryCatch h).wp P post q ↔ p.wp P (fun r q => match r with
      | .ok a => post (.ok a) q
      | .error x => (h x).wp P post q) q := by
  induction p generalizing q with
  | done r => cases r <;> exact Iff.rfl
  | perform e k ih => exact and_congr_right fun _ => forall_congr' fun r => ih r

/-- The `finally` runs whatever `p` has ended with. -/
theorem wp_tryFinally {p : Program E X α} {f : Program E X Unit} :
    (p.tryFinally f).wp P post q ↔ p.wp P (fun r q => f.wp P (fun r' q => match r' with
      | .ok () => post r q
      | .error x => post (.error x) q) q) q := by
  induction p generalizing q with
  | done r =>
    show (f >>= fun _ => .done r).wp P post q ↔ _
    rw [wp_bind]
    show f.wp P _ q ↔ f.wp P _ q
    refine iff_of_eq (congrArg (fun post => f.wp P post q) ?_)
    funext r' q'
    cases r' <;> rfl
  | perform e k ih => exact and_congr_right fun _ => forall_congr' fun r => ih r

/-- One effect, and then the rest of the code. -/
theorem wp_effect_bind {e : E α} {f : α → Program E X β} {post : Except X β → Q → Prop} (hmay : P.may q e)
    (hok : ∀ a, (f a).wp P post (P.next q e (.ok a))) (herror : ∀ x, post (.error x) (P.next q e (.error x))) :
    (effect e >>= f).wp P post q := by
  rw [wp_bind, wp_effect]
  refine ⟨hmay, fun r => ?_⟩
  cases r with
  | ok a => exact hok a
  | error x => exact herror x

end Program

end Effects
