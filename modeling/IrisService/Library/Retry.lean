import IrisService.Library.EffectLogic

/-! A program that is attempted again while it fails in a way that may pass, with a wait before each new attempt. -/

namespace Effects

/-- How often to attempt, how long to wait after attempt `k`, and which exceptions may pass. -/
structure RetryPolicy (X : Type) where
  attempts : Nat
  wait : Nat → Nat
  passes : X → Bool

namespace RetryPolicy
variable {X α : Type} (policy : RetryPolicy X)

/-- What an attempt came to, where another one follows it. -/
def Again : Except X α → Prop
  | .ok _ => False
  | .error x => policy.passes x = true

/-- The waits after the first `n` attempts. -/
def waits (n : Nat) : List Nat := (List.range n).map fun k => policy.wait (k + 1)

/-- What the attempts have come to: all of them have failed in a way that may pass, but for the last one, unless there
    are as many as there may be. -/
structure Settles (outcomes : List (Except X α)) (r : Except X α) : Prop where
  last : outcomes.getLast? = some r
  before : ∀ o ∈ outcomes.dropLast, policy.Again o
  atMost : outcomes.length ≤ policy.attempts
  exhausted : policy.Again r → outcomes.length = policy.attempts

variable {policy}

theorem waits_succ (n : Nat) : policy.waits (n + 1) = policy.waits n ++ [policy.wait (n + 1)] := by
  simp [waits, List.range_succ]

theorem waits_prefix {m n : Nat} (h : m ≤ n) : policy.waits m <+: policy.waits n := by
  obtain ⟨k, rfl⟩ := Nat.exists_eq_add_of_le h
  rw [waits, waits, List.range_add, List.map_append]
  exact List.prefix_append _ _

theorem Settles.of_concat {outcomes : List (Except X α)} {r : Except X α} (hbefore : ∀ o ∈ outcomes, policy.Again o)
    (hlength : outcomes.length < policy.attempts) (hlast : policy.Again r → outcomes.length + 1 = policy.attempts) :
    policy.Settles (outcomes ++ [r]) r where
  last := List.getLast?_concat
  before := by rwa [List.dropLast_concat]
  atMost := by
    rw [List.length_append]
    exact hlength
  exhausted h := by simpa using hlast h

end RetryPolicy

namespace Program
variable {E : Type → Type} {X Q α : Type} (policy : RetryPolicy X) (sleep : Nat → E Unit)

/-- Attempt `k`, with `left` more after it. The exception of the last one is raised again. -/
def retryFrom (p : Program E X α) : Nat → Nat → Program E X α
  | _, 0 => p
  | k, left + 1 => p.tryCatch fun x =>
    if policy.passes x then effect (sleep (policy.wait k)) >>= fun _ => retryFrom p (k + 1) left else raise x

/-- The program, retried under the policy. -/
def retry (p : Program E X α) : Program E X α := retryFrom policy sleep p 1 (policy.attempts - 1)

variable {policy sleep} {P : Protocol E X Q} {post : Except X α → Q → Prop} {p : Program E X α}

/-- What attempt `k + 1` leads to: it is the last one, or the wait after it leads to the next one. -/
def Leads (policy : RetryPolicy X) (sleep : Nat → E Unit) (P : Protocol E X Q) (post : Except X α → Q → Prop)
    (I : Nat → Q → Prop) (k : Nat) : Except X α → Q → Prop
  | .ok a, q => post (.ok a) q
  | .error x, q =>
    if policy.passes x = true ∧ k + 1 < policy.attempts then
      P.may q (sleep (policy.wait (k + 1))) ∧ I (k + 1) (P.next q (sleep (policy.wait (k + 1))) (.ok ())) ∧
        ∀ y, post (.error y) (P.next q (sleep (policy.wait (k + 1))) (.error y))
    else post (.error x) q

/-- Each attempt leads on, where the invariant says what comes before attempt `k + 1`. -/
def Attempts (policy : RetryPolicy X) (sleep : Nat → E Unit) (P : Protocol E X Q) (post : Except X α → Q → Prop)
    (I : Nat → Q → Prop) (p : Program E X α) : Prop :=
  ∀ k q, I k q → k < policy.attempts → p.wp P (Leads policy sleep P post I k) q

variable {I : Nat → Q → Prop}

theorem leads_last {k : Nat} {x : X} {q : Q} (h : Leads policy sleep P post I k (.error x) q)
    (hlast : ¬(policy.passes x = true ∧ k + 1 < policy.attempts)) : post (.error x) q := by
  rwa [Leads, if_neg hlast] at h

theorem wp_retryFrom (h : Attempts policy sleep P post I p) (left k : Nat) (hleft : k + 1 + left = policy.attempts)
    {q : Q} (hq : I k q) : (retryFrom policy sleep p (k + 1) left).wp P post q := by
  induction left generalizing k q with
  | zero =>
    refine wp_mono (h k q hq (by omega)) fun r q' hr => ?_
    cases r with
    | ok a => exact hr
    | error x => exact leads_last hr fun hagain => by omega
  | succ left ih =>
    rw [retryFrom, wp_tryCatch]
    refine wp_mono (h k q hq (by omega)) fun r q' hr => ?_
    cases r with
    | ok a => exact hr
    | error x =>
      by_cases hpasses : policy.passes x = true
      · rw [Leads, if_pos ⟨hpasses, by omega⟩] at hr
        obtain ⟨hmay, hslept, hinterrupted⟩ := hr
        simp only [if_pos hpasses]
        exact wp_effect_bind hmay (fun _ => ih (k + 1) (by omega) hslept) hinterrupted
      · simp only [if_neg hpasses, wp_raise]
        exact leads_last hr fun hagain => hpasses hagain.1

/-- The rule of a retried program. -/
theorem wp_retry (h : Attempts policy sleep P post I p) (hattempts : 0 < policy.attempts) {q : Q}
    (hq : I 0 q) : (retry policy sleep p).wp P post q :=
  wp_retryFrom h (policy.attempts - 1) 0 (by omega) hq

end Program

end Effects
