import Mathlib.Algebra.Order.Round
import Mathlib.Data.Int.Log
import Mathlib.Data.Rat.Floor
import Mathlib.Tactic.Linarith
import Mathlib.Tactic.Positivity

/-! Rounding to binary64, on the rationals. The exponent is not bounded: neither overflow nor the subnormal numbers
are modelled. -/

namespace Binary64

/-- The nearest integer, half to even. -/
def roundHalfEven (q : ℚ) : ℤ :=
  if Int.fract q < 1 / 2 ∨ (Int.fract q = 1 / 2 ∧ Even ⌊q⌋) then ⌊q⌋ else ⌊q⌋ + 1

/-- The place of the last of 53 bits. -/
def ulp (q : ℚ) : ℚ := 2 ^ (Int.log 2 q - 52)

/-- The float nearest to a number that is not negative. -/
def roundNonneg (q : ℚ) : ℚ := roundHalfEven (q / ulp q) * ulp q

/-- The nearest float, half to even. -/
def round (q : ℚ) : ℚ := if q < 0 then -roundNonneg (-q) else roundNonneg q

/-- The number is a float. -/
def Representable (q : ℚ) : Prop := round q = q

instance (q : ℚ) : Decidable (Representable q) := inferInstanceAs (Decidable (_ = _))

/-! ### To an integer -/

section Integer
variable {q r : ℚ} {n : ℤ}

theorem roundHalfEven_le_iff : roundHalfEven q ≤ n ↔ q < n + 1 / 2 ∨ (q = n + 1 / 2 ∧ Even n) := by
  have hfloor := Int.floor_add_fract q
  have hnonneg := Int.fract_nonneg q
  have hlt := Int.fract_lt_one q
  unfold roundHalfEven
  split
  · rename_i hdown
    constructor
    · intro hle
      rcases lt_or_eq_of_le hle with hless | rfl
      · have hless' : (⌊q⌋ : ℚ) + 1 ≤ n := by exact_mod_cast hless
        exact Or.inl (by linarith)
      · rcases hdown with hdown | ⟨hhalf, heven⟩
        · exact Or.inl (by linarith)
        · exact Or.inr ⟨by linarith, heven⟩
    · intro h
      have hless : (⌊q⌋ : ℚ) < n + 1 := by
        rcases h with h | ⟨h, -⟩ <;> linarith
      exact Int.lt_add_one_iff.mp (by exact_mod_cast hless)
  · rename_i hup
    have hge : 1 / 2 ≤ Int.fract q := not_lt.mp fun h => hup (Or.inl h)
    constructor
    · intro hle
      have hle' : (⌊q⌋ : ℚ) + 1 ≤ n := by exact_mod_cast hle
      exact Or.inl (by linarith)
    · rintro (h | ⟨h, heven⟩)
      · have hless : (⌊q⌋ : ℚ) < n := by linarith
        exact Int.add_one_le_iff.mpr (by exact_mod_cast hless)
      · rcases lt_or_ge ⌊q⌋ n with hless | hle
        · exact hless
        · -- A tie goes to the even neighbour.
          have hle' : (n : ℚ) ≤ ⌊q⌋ := by exact_mod_cast hle
          have hhalf : Int.fract q = 1 / 2 := le_antisymm (by linarith) hge
          have hfloor' : (⌊q⌋ : ℚ) = n := by linarith
          have hn : ⌊q⌋ = n := by exact_mod_cast hfloor'
          exact absurd (Or.inr ⟨hhalf, hn ▸ heven⟩) hup

theorem roundHalfEven_mono (h : q ≤ r) : roundHalfEven q ≤ roundHalfEven r := by
  rw [roundHalfEven_le_iff]
  rcases roundHalfEven_le_iff.mp (le_refl (roundHalfEven r)) with hr | ⟨hr, heven⟩
  · exact Or.inl (lt_of_le_of_lt h hr)
  · rcases lt_or_eq_of_le (h.trans_eq hr) with hlt | heq
    · exact Or.inl hlt
    · exact Or.inr ⟨heq, heven⟩

@[simp] theorem roundHalfEven_intCast (n : ℤ) : roundHalfEven (n : ℚ) = n := by
  simp [roundHalfEven]

theorem abs_roundHalfEven_sub_le (q : ℚ) : |roundHalfEven q - q| ≤ 1 / 2 := by
  have hfloor := Int.floor_add_fract q
  have hnonneg := Int.fract_nonneg q
  have hlt := Int.fract_lt_one q
  unfold roundHalfEven
  split
  · rename_i h
    have hle : Int.fract q ≤ 1 / 2 := by
      rcases h with h | ⟨h, -⟩
      · exact h.le
      · exact h.le
    rw [abs_le]
    constructor <;> linarith
  · rename_i h
    have hge : 1 / 2 ≤ Int.fract q := not_lt.mp fun hlt => h (Or.inl hlt)
    push_cast
    rw [abs_le]
    constructor <;> linarith

end Integer

/-! ### To a float -/

section Float
variable {q r : ℚ}

theorem ulp_pos (q : ℚ) : 0 < ulp q := zpow_pos (by norm_num) _

/-- The number lies between the powers of two of its first bit. -/
theorem ulp_le (h : 0 < q) : 2 ^ (52 : ℤ) * ulp q ≤ q := by
  rw [ulp, ← zpow_add₀ (by norm_num : (2 : ℚ) ≠ 0), add_sub_cancel]
  exact_mod_cast Int.zpow_log_le_self (by norm_num) h

theorem lt_ulp (q : ℚ) : q < 2 ^ (53 : ℤ) * ulp q := by
  rw [ulp, ← zpow_add₀ (by norm_num : (2 : ℚ) ≠ 0)]
  have hexp : 53 + (Int.log 2 q - 52) = Int.log 2 q + 1 := by ring
  rw [hexp]
  exact_mod_cast Int.lt_zpow_succ_log_self (b := 2) (by norm_num) q

theorem le_roundNonneg_of_exponent (h : 0 < q) : 2 ^ (52 : ℤ) * ulp q ≤ roundNonneg q := by
  have hdiv : ((2 ^ 52 : ℤ) : ℚ) ≤ q / ulp q := by
    rw [le_div_iff₀ (ulp_pos q)]
    exact_mod_cast ulp_le h
  have hround := roundHalfEven_mono hdiv
  rw [roundHalfEven_intCast] at hround
  have hcast : (2 ^ (52 : ℤ) : ℚ) ≤ roundHalfEven (q / ulp q) := by exact_mod_cast hround
  exact mul_le_mul_of_nonneg_right hcast (ulp_pos q).le

theorem roundNonneg_le_of_exponent (q : ℚ) : roundNonneg q ≤ 2 ^ (53 : ℤ) * ulp q := by
  have hdiv : q / ulp q ≤ ((2 ^ 53 : ℤ) : ℚ) := by
    rw [div_le_iff₀ (ulp_pos q)]
    exact_mod_cast (lt_ulp q).le
  have hround := roundHalfEven_mono hdiv
  rw [roundHalfEven_intCast] at hround
  have hcast : (roundHalfEven (q / ulp q) : ℚ) ≤ 2 ^ (53 : ℤ) := by exact_mod_cast hround
  exact mul_le_mul_of_nonneg_right hcast (ulp_pos q).le

@[simp] theorem roundNonneg_zero : roundNonneg 0 = 0 := by
  have h : roundHalfEven (0 : ℚ) = 0 := by exact_mod_cast roundHalfEven_intCast 0
  simp [roundNonneg, h]

theorem roundNonneg_nonneg (h : 0 ≤ q) : 0 ≤ roundNonneg q := by
  rcases h.eq_or_lt with rfl | hpos
  · rw [roundNonneg_zero]
  · exact le_trans (mul_nonneg (by positivity) (ulp_pos q).le) (le_roundNonneg_of_exponent hpos)

theorem roundNonneg_mono (hq : 0 ≤ q) (h : q ≤ r) : roundNonneg q ≤ roundNonneg r := by
  rcases hq.eq_or_lt with rfl | hpos
  · rw [roundNonneg_zero]
    exact roundNonneg_nonneg h
  · have hlog : Int.log 2 q ≤ Int.log 2 r := Int.log_mono_right hpos h
    rcases hlog.eq_or_lt with heq | hlt
    · have hulp : ulp q = ulp r := by rw [ulp, ulp, heq]
      have hround := roundHalfEven_mono (div_le_div_of_nonneg_right h (ulp_pos q).le)
      rw [roundNonneg, roundNonneg, ← hulp]
      exact mul_le_mul_of_nonneg_right (by exact_mod_cast hround) (ulp_pos q).le
    · -- The power of two between the two numbers separates their floats.
      have hbetween : 2 ^ (53 : ℤ) * ulp q ≤ 2 ^ (52 : ℤ) * ulp r := by
        rw [ulp, ulp, ← zpow_add₀ (by norm_num : (2 : ℚ) ≠ 0), ← zpow_add₀ (by norm_num : (2 : ℚ) ≠ 0)]
        exact zpow_le_zpow_right₀ (by norm_num) (by omega)
      exact (roundNonneg_le_of_exponent q).trans (hbetween.trans (le_roundNonneg_of_exponent (hpos.trans_le h)))

theorem round_of_nonneg (h : 0 ≤ q) : round q = roundNonneg q := if_neg (not_lt.mpr h)

@[simp] theorem round_zero : round 0 = 0 := by
  rw [round_of_nonneg (le_refl 0), roundNonneg_zero]

theorem round_mono (h : q ≤ r) : round q ≤ round r := by
  rcases lt_or_ge q 0 with hq | hq
  · rw [round, if_pos hq]
    rcases lt_or_ge r 0 with hr | hr
    · rw [round, if_pos hr]
      exact neg_le_neg (roundNonneg_mono (by linarith) (by linarith))
    · rw [round_of_nonneg hr]
      have hneg := roundNonneg_nonneg (q := -q) (by linarith)
      have hpos := roundNonneg_nonneg hr
      linarith
  · rw [round_of_nonneg hq, round_of_nonneg (hq.trans h)]
    exact roundNonneg_mono hq h

/-- A float is below the float of a number exactly when it is below the number, unless that was rounded up. -/
theorem Representable.le_round_iff (hq : Representable q) (hr : round r ≤ r) : q ≤ round r ↔ q ≤ r := by
  refine ⟨fun h => h.trans hr, fun h => ?_⟩
  have hround := round_mono h
  rwa [hq] at hround

/-- Rounding keeps the order of the multiples of `d⁻¹` around one whose successor is another float. -/
theorem round_grid_le_iff {d : ℚ} {m n : ℤ} (hd : 0 < d)
    (hnext : round ((n : ℚ) / d) < round (((n + 1 : ℤ) : ℚ) / d)) :
    round ((m : ℚ) / d) ≤ round ((n : ℚ) / d) ↔ m ≤ n := by
  constructor
  · intro h
    by_contra hlt
    have hsucc : ((n + 1 : ℤ) : ℚ) ≤ m := by exact_mod_cast Int.add_one_le_iff.mpr (not_le.mp hlt)
    exact absurd (hnext.trans_le (round_mono (div_le_div_of_nonneg_right hsucc hd.le))) (not_lt.mpr h)
  · intro h
    exact round_mono (div_le_div_of_nonneg_right (by exact_mod_cast h) hd.le)

/-- Rounding moves a number by at most half of its last place, one part in 2⁵³. -/
theorem abs_round_sub_le (h : 0 < q) : |round q - q| ≤ q / 2 ^ 53 := by
  rw [round_of_nonneg h.le, roundNonneg]
  have hulp := ulp_pos q
  have hhalf := abs_roundHalfEven_sub_le (q / ulp q)
  have hsplit : roundHalfEven (q / ulp q) * ulp q - q = (roundHalfEven (q / ulp q) - q / ulp q) * ulp q := by
    field_simp
  have hexp : 2 ^ 52 * ulp q ≤ q := by exact_mod_cast ulp_le h
  rw [hsplit, abs_mul, abs_of_pos hulp]
  calc |(roundHalfEven (q / ulp q) : ℚ) - q / ulp q| * ulp q ≤ 1 / 2 * ulp q := mul_le_mul_of_nonneg_right hhalf hulp.le
    _ ≤ q / 2 ^ 53 := by
      rw [le_div_iff₀ (by norm_num)]
      linarith

/-- The integers of 53 bits are floats. -/
theorem representable_natCast {n : Nat} (h : n < 2 ^ 53) : Representable (n : ℚ) := by
  rw [Representable, round_of_nonneg (Nat.cast_nonneg n)]
  have hlog : Nat.log 2 n ≤ 52 := by
    rcases Nat.eq_zero_or_pos n with rfl | hpos
    · simp
    · exact Nat.lt_succ_iff.mp (Nat.log_lt_of_lt_pow hpos.ne' h)
  obtain ⟨k, hk⟩ := Nat.exists_eq_add_of_le hlog
  have hulp : ulp (n : ℚ) = (2 ^ k)⁻¹ := by
    have hexp : (Nat.log 2 n : ℤ) - 52 = -(k : ℤ) := by omega
    rw [ulp, Int.log_natCast, hexp, zpow_neg, zpow_natCast]
  have hdiv : (n : ℚ) / (2 ^ k)⁻¹ = ((n * 2 ^ k : ℤ) : ℚ) := by
    push_cast
    rw [div_inv_eq_mul]
  rw [roundNonneg, hulp, hdiv, roundHalfEven_intCast]
  push_cast
  field_simp

end Float

end Binary64
