import IrisService.Library.Binary64
import Mathlib.Algebra.Order.Field.Power
import Mathlib.Data.List.Perm.Basic
import Mathlib.Data.Nat.Digits.Lemmas

/-! Python's `Decimal` under the default context, which rounds a result to 28 digits.

The state of a computation is the `Rounded` flag of the context. A computation that rounds nothing is `pure`. The
exponent is not bounded, and a zero has no sign. -/

namespace IrisService

/-- A finite `Decimal`. -/
@[ext] structure Decimal where
  coefficient : Int
  exponent : Int
  deriving DecidableEq, Repr

namespace Decimal

/-- `Decimal(n)`, never rounded. -/
def ofInt (n : Int) : Decimal := ⟨n, 0⟩

/-- `_rescale` to an exponent that is not larger. -/
def rescaled (d : Decimal) (exponent : Int) : Int := d.coefficient * 10 ^ (d.exponent - exponent).toNat

/-! ### Under the context -/

/-- The sum before it is rounded. -/
def addExact (x y : Decimal) : Decimal :=
  let exponent := min x.exponent y.exponent
  ⟨x.rescaled exponent + y.rescaled exponent, exponent⟩

/-- The product before it is rounded. -/
def mulExact (x y : Decimal) : Decimal := ⟨x.coefficient * y.coefficient, x.exponent + y.exponent⟩

/-- The `prec` of the default context. -/
def prec : Nat := 28

/-- The number of digits of the coefficient. -/
def digits (d : Decimal) : Nat := (Nat.toDigits 10 d.coefficient.natAbs).length

/-- `_fix`: `ROUND_HALF_EVEN` to `prec` digits. -/
def fix (d : Decimal) : StateM Bool Decimal :=
  if d.digits ≤ prec then pure d
  else do
    set true
    let dropped := d.digits - prec
    let coefficient := Binary64.roundHalfEven (d.coefficient / 10 ^ dropped)
    -- The nines of a coefficient that is rounded up become one digit more.
    if coefficient.natAbs < 10 ^ prec then pure ⟨coefficient, d.exponent + dropped⟩
    else pure ⟨coefficient / 10, d.exponent + dropped + 1⟩

/-- `x + y` -/
def add (x y : Decimal) : StateM Bool Decimal := fix (x.addExact y)

/-- `x * y` -/
def mul (x y : Decimal) : StateM Bool Decimal := fix (x.mulExact y)

/-- `x * n` for an `int`, which `_convert_other` makes a `Decimal`. -/
def mulInt (x : Decimal) (n : Int) : StateM Bool Decimal := x.mul (ofInt n)

/-- `sum(terms, start)` over a generator. -/
def sum (terms : List (StateM Bool Decimal)) (start : Decimal) : StateM Bool Decimal :=
  terms.foldlM (fun total term => do total.add (← term)) start

/-! ### Values -/

/-- The number that it stands for. -/
def value (d : Decimal) : ℚ := d.coefficient * 10 ^ d.exponent

section Values
variable {x y z : Decimal} {e : Int}

theorem ten_zpow_pos (e : Int) : (0 : ℚ) < 10 ^ e := zpow_pos (by norm_num) e

theorem rescaled_mul (h : e ≤ x.exponent) : (x.rescaled e : ℚ) * 10 ^ e = x.value := by
  have hexp : ((x.exponent - e).toNat : Int) + e = x.exponent := by omega
  have hpow : (10 : ℚ) ^ (x.exponent - e).toNat * 10 ^ e = 10 ^ x.exponent := by
    rw [← zpow_natCast, ← zpow_add₀ (by norm_num), hexp]
  unfold rescaled value
  push_cast
  rw [mul_assoc, hpow]

/-- The exponent and the value say which `Decimal` it is. -/
theorem ext_value (hexp : x.exponent = y.exponent) (hvalue : x.value = y.value) : x = y := by
  refine Decimal.ext ?_ hexp
  rw [value, value, hexp] at hvalue
  exact_mod_cast mul_right_cancel₀ (ten_zpow_pos y.exponent).ne' hvalue

@[simp] theorem value_ofInt (n : Int) : (ofInt n).value = n := by simp [value, ofInt]

@[simp] theorem exponent_ofInt (n : Int) : (ofInt n).exponent = 0 := rfl

@[simp] theorem exponent_addExact (x y : Decimal) : (x.addExact y).exponent = min x.exponent y.exponent := rfl

@[simp] theorem exponent_mulExact (x y : Decimal) : (x.mulExact y).exponent = x.exponent + y.exponent := rfl

@[simp] theorem value_addExact (x y : Decimal) : (x.addExact y).value = x.value + y.value := by
  rw [← rescaled_mul (min_le_left x.exponent y.exponent), ← rescaled_mul (min_le_right x.exponent y.exponent), ← add_mul]
  unfold value addExact
  push_cast
  rfl

@[simp] theorem value_mulExact (x y : Decimal) : (x.mulExact y).value = x.value * y.value := by
  unfold value mulExact
  push_cast
  rw [zpow_add₀ (by norm_num)]
  ring

/-! ### Exact sums -/

theorem addExact_comm (x y : Decimal) : x.addExact y = y.addExact x :=
  ext_value (min_comm _ _) (by rw [value_addExact, value_addExact, add_comm])

theorem addExact_assoc (x y z : Decimal) : (x.addExact y).addExact z = x.addExact (y.addExact z) :=
  ext_value (min_assoc _ _ _) (by simp only [value_addExact, add_assoc])

instance : Std.Associative addExact := ⟨addExact_assoc⟩

instance : RightCommutative addExact :=
  ⟨fun x y z => by rw [addExact_assoc, addExact_assoc, addExact_comm y z]⟩

/-- Zero is written without decimals, so it only takes a positive exponent away. -/
theorem addExact_zero (h : x.exponent ≤ 0) : x.addExact (ofInt 0) = x :=
  ext_value (min_eq_left h) (by simp)

theorem mulExact_addExact (x y : Decimal) (n : Int) :
    (x.addExact y).mulExact (ofInt n) = (x.mulExact (ofInt n)).addExact (y.mulExact (ofInt n)) :=
  ext_value (by simp) (by simp [add_mul])

/-- The sum of the terms before anything is rounded. -/
def sumExact (terms : List Decimal) : Decimal := terms.foldl addExact (ofInt 0)

theorem foldl_addExact {terms : List Decimal} (h : x.exponent ≤ 0) :
    terms.foldl addExact x = x.addExact (sumExact terms) := by
  calc terms.foldl addExact x
      = terms.foldl addExact (x.addExact (ofInt 0)) := by rw [addExact_zero h]
    _ = x.addExact (sumExact terms) := List.foldl_assoc

theorem foldl_le_exponent (terms : List Decimal) (x : Decimal) : (terms.foldl addExact x).exponent ≤ x.exponent := by
  induction terms generalizing x with
  | nil => exact le_refl _
  | cons term terms ih => exact (ih (x.addExact term)).trans (min_le_left _ _)

theorem sumExact_append (before after : List Decimal) :
    sumExact (before ++ after) = (sumExact before).addExact (sumExact after) := by
  calc sumExact (before ++ after)
      = after.foldl addExact (sumExact before) := List.foldl_append
    _ = (sumExact before).addExact (sumExact after) := foldl_addExact (foldl_le_exponent before (ofInt 0))

theorem sumExact_concat (terms : List Decimal) (term : Decimal) :
    sumExact (terms ++ [term]) = (sumExact terms).addExact term := by
  rw [sumExact, List.foldl_append]
  rfl

theorem sumExact_perm {terms terms' : List Decimal} (h : terms.Perm terms') : sumExact terms = sumExact terms' :=
  h.foldl_eq (ofInt 0)

theorem sumExact_mul (terms : List Decimal) (n : Int) :
    sumExact (terms.map (·.mulExact (ofInt n))) = (sumExact terms).mulExact (ofInt n) := by
  have hstart : ofInt 0 = (ofInt 0).mulExact (ofInt n) := ext_value (by simp) (by simp)
  rw [sumExact, List.foldl_map, hstart, sumExact]
  refine List.foldl_hom (fun d : Decimal => d.mulExact (ofInt n)) ?_
  exact fun x y => (mulExact_addExact x y n).symm

@[simp] theorem value_sumExact (terms : List Decimal) : (sumExact terms).value = (terms.map value).sum := by
  induction terms using List.reverseRecOn with
  | nil => simp [sumExact]
  | append_singleton terms term ih => rw [sumExact_concat, value_addExact, ih, List.map_append, List.sum_append]; simp

theorem le_exponent_sumExact {terms : List Decimal} (he : e ≤ 0) (h : ∀ term ∈ terms, e ≤ term.exponent) :
    e ≤ (sumExact terms).exponent := by
  induction terms using List.reverseRecOn with
  | nil => exact he
  | append_singleton terms term ih =>
    rw [sumExact_concat]
    exact le_min (ih fun t ht => h t (List.mem_append_left _ ht))
      (h term (List.mem_append_right _ (List.mem_singleton_self term)))

end Values

/-! ### What is not rounded -/

section Unrounded
variable {d : Decimal}

theorem fix_eq (h : d.coefficient.natAbs < 10 ^ prec) : d.fix = pure d :=
  if_pos ((Nat.length_toDigits_le_iff (by norm_num) (by decide)).mpr h)

/-- A `Decimal` with at most `scale` decimals and a value below `10 ^ n` has at most `n + scale` digits. -/
theorem natAbs_coefficient_lt {scale n : Nat} (hexp : -(scale : Int) ≤ d.exponent) (h : |d.value| < 10 ^ n) :
    d.coefficient.natAbs < 10 ^ (n + scale) := by
  have hscale : (10 : ℚ) ^ (-(scale : Int)) ≤ 10 ^ d.exponent := zpow_le_zpow_right₀ (by norm_num) hexp
  have hle : |(d.coefficient : ℚ)| * 10 ^ (-(scale : Int)) ≤ |d.value| := by
    rw [value, abs_mul, abs_of_pos (ten_zpow_pos d.exponent)]
    exact mul_le_mul_of_nonneg_left hscale (abs_nonneg _)
  have hlt : |(d.coefficient : ℚ)| < 10 ^ n * 10 ^ scale := by
    rw [zpow_neg, zpow_natCast, ← div_eq_mul_inv] at hle
    exact (div_lt_iff₀ (by positivity)).mp (lt_of_le_of_lt hle h)
  rw [← pow_add, ← Int.cast_abs, Int.abs_eq_natAbs] at hlt
  exact_mod_cast hlt

/-- A sum rounds nothing when neither its terms nor its partial sums are too long. -/
theorem sum_eq {terms : List Decimal}
    (h : ∀ before term after, terms = before ++ term :: after →
      (sumExact (before ++ [term])).coefficient.natAbs < 10 ^ prec) :
    sum (terms.map pure) (ofInt 0) = pure (sumExact terms) := by
  induction terms using List.reverseRecOn with
  | nil => rfl
  | append_singleton terms term ih =>
    have hinit : sum (terms.map pure) (ofInt 0) = pure (sumExact terms) :=
      ih fun before t after heq => h before t (after ++ [term]) (by rw [heq]; simp)
    have hlast := h terms term [] rfl
    unfold sum at hinit ⊢
    rw [sumExact_concat] at hlast ⊢
    rw [List.map_append, List.foldlM_append, hinit, pure_bind]
    simp only [List.map_cons, List.map_nil, List.foldlM_cons, List.foldlM_nil, pure_bind, bind_pure]
    exact fix_eq hlast

end Unrounded

end Decimal

end IrisService
