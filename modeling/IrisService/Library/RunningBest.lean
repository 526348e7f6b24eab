import Mathlib.Order.Lattice
import Mathlib.Order.Nat
import Mathlib.Tactic.Common

/-! The running best of a sequence of scores `a 1, a 2, …` that starts at `b`, and where it was last improved. -/

namespace RunningBest

variable {K : Type} [LinearOrder K]

/-- The best of `b` and the first `n` scores. -/
def best (b : K) (a : Nat → K) : Nat → K
  | 0 => b
  | n + 1 => if best b a n < a (n + 1) then a (n + 1) else best b a n

/-- The last of the first `n` scores that was strictly better than all before; 0 if there is none. -/
def lastImprovement (b : K) (a : Nat → K) : Nat → Nat
  | 0 => 0
  | n + 1 => if best b a n < a (n + 1) then n + 1 else lastImprovement b a n

variable {b : K} {a : Nat → K} {k n : Nat}

theorem best_succ_of_lt (h : best b a n < a (n + 1)) : best b a (n + 1) = a (n + 1) := if_pos h

theorem best_succ_of_not_lt (h : ¬best b a n < a (n + 1)) : best b a (n + 1) = best b a n := if_neg h

theorem lastImprovement_succ_of_lt (h : best b a n < a (n + 1)) : lastImprovement b a (n + 1) = n + 1 := if_pos h

theorem lastImprovement_succ_of_not_lt (h : ¬best b a n < a (n + 1)) :
    lastImprovement b a (n + 1) = lastImprovement b a n := if_neg h

theorem lastImprovement_le (b : K) (a : Nat → K) (n : Nat) : lastImprovement b a n ≤ n := by
  induction n with
  | zero => exact le_refl 0
  | succ n ih =>
    by_cases h : best b a n < a (n + 1)
    · rw [lastImprovement_succ_of_lt h]
    · rw [lastImprovement_succ_of_not_lt h]
      exact Nat.le_succ_of_le ih

theorem best_le_succ (b : K) (a : Nat → K) (n : Nat) : best b a n ≤ best b a (n + 1) := by
  by_cases h : best b a n < a (n + 1)
  · rw [best_succ_of_lt h]
    exact h.le
  · rw [best_succ_of_not_lt h]

/-- No score is better than the best. -/
theorem le_best (hpos : 1 ≤ k) (hk : k ≤ n) : a k ≤ best b a n := by
  induction n with
  | zero => omega
  | succ n ih =>
    rcases Nat.lt_or_eq_of_le hk with hlt | rfl
    · exact (ih (Nat.le_of_lt_succ hlt)).trans (best_le_succ b a n)
    · by_cases h : best b a n < a (n + 1)
      · rw [best_succ_of_lt h]
      · rw [best_succ_of_not_lt h]
        exact not_lt.mp h

theorem start_le_best (b : K) (a : Nat → K) (n : Nat) : b ≤ best b a n := by
  induction n with
  | zero => exact le_refl b
  | succ n ih => exact ih.trans (best_le_succ b a n)

/-- The best is the score of the last improvement, and it is strictly better than the start and all scores before. -/
theorem lastImprovement_spec (h : lastImprovement b a n ≠ 0) :
    best b a n = a (lastImprovement b a n) ∧ b < a (lastImprovement b a n) ∧
      ∀ k, 1 ≤ k → k < lastImprovement b a n → a k < a (lastImprovement b a n) := by
  induction n with
  | zero => exact absurd rfl h
  | succ n ih =>
    by_cases himproved : best b a n < a (n + 1)
    · rw [lastImprovement_succ_of_lt himproved, best_succ_of_lt himproved]
      refine ⟨rfl, (start_le_best b a n).trans_lt himproved, fun k hpos hk => ?_⟩
      exact (le_best hpos (Nat.le_of_lt_succ hk)).trans_lt himproved
    · rw [lastImprovement_succ_of_not_lt himproved] at h ⊢
      rw [best_succ_of_not_lt himproved]
      exact ih h

/-- There is an improvement once a score is better than the start. -/
theorem lastImprovement_ne_zero (hpos : 1 ≤ k) (hk : k ≤ n) (h : b < a k) : lastImprovement b a n ≠ 0 := by
  have hbest : ∀ m, lastImprovement b a m = 0 → best b a m = b := by
    intro m
    induction m with
    | zero => exact fun _ => rfl
    | succ m ih =>
      intro hzero
      by_cases himproved : best b a m < a (m + 1)
      · rw [lastImprovement_succ_of_lt himproved] at hzero
        cases hzero
      · rw [lastImprovement_succ_of_not_lt himproved] at hzero
        rw [best_succ_of_not_lt himproved, ih hzero]
  intro hzero
  have hle := le_best (b := b) (a := a) hpos hk
  rw [hbest n hzero] at hle
  exact absurd h (not_lt.mpr hle)

end RunningBest
