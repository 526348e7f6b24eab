import IrisService.Python.DateTime
import IrisService.Python.Float

/-! `ml/risk_band.py`, and the `ChurnPrediction` of `ml/dtos.py`. -/

namespace IrisService.Ml

/-- `RiskBand` -/
inductive RiskBand where
  | low
  | medium
  | high
  deriving DecidableEq, Repr

/-- `low_threshold` when the caller gives none. -/
def defaultLowThreshold : PyFloat := .ofLiteral (30 / 100)

/-- `high_threshold` when the caller gives none. -/
def defaultHighThreshold : PyFloat := .ofLiteral (70 / 100)

/-- The `ValueError` for a low threshold above the high one. -/
structure InvertedThresholds where
  lowThreshold : PyFloat
  highThreshold : PyFloat
  deriving DecidableEq

/-- Its text, for a `str` of floats. -/
def InvertedThresholds.text (inverted : InvertedThresholds) (str : PyFloat → String) : String :=
  "low_threshold must be ≤ high_threshold (got low=" ++ str inverted.lowThreshold ++ ", high=" ++
    str inverted.highThreshold ++ ")"

/-- `classify_risk` -/
def classifyRisk (probability lowThreshold highThreshold : PyFloat) : Except InvertedThresholds RiskBand :=
  if highThreshold.lt lowThreshold then .error ⟨lowThreshold, highThreshold⟩
  else if probability.le lowThreshold then .ok .low
  else if probability.le highThreshold then .ok .medium
  else .ok .high

/-! ### The response -/

/-- pydantic, as far as the bounds of a number go: whether they let NaN pass, and the text of a `ValidationError`. -/
structure Pydantic where
  boundsTakeNan : Bool
  boundsError : PyFloat → String

/-- `Field(..., ge=0.0, le=1.0)` -/
def Pydantic.inUnitInterval (pydantic : Pydantic) (x : PyFloat) : Bool :=
  if x = .nan then pydantic.boundsTakeNan else (PyFloat.ofLiteral 0).le x && x.le (.ofLiteral 1)

/-- `ChurnPrediction` -/
structure ChurnPrediction where
  customerId : Int
  probability : PyFloat
  riskBand : RiskBand
  topFeatures : List String
  modelVersion : String
  predictedAt : DateTime

/-- What constructing the model checks; the text of the `ValidationError` if the probability is out of bounds. -/
def ChurnPrediction.validate (pydantic : Pydantic) (prediction : ChurnPrediction) : Except String ChurnPrediction :=
  if pydantic.inUnitInterval prediction.probability then .ok prediction
  else .error (pydantic.boundsError prediction.probability)

/-! ### The bands of a probability and of its rounding -/

section Bands
variable {p t : ℚ}

/-- The number exceeds a threshold that its rounding to six decimals does not exceed. -/
def RoundsOnto (t p : ℚ) : Prop := t < p ∧ p ≤ t + 5 / 10 ^ 7

instance : Decidable (RoundsOnto t p) := inferInstanceAs (Decidable (_ ∧ _))

theorem finite_le (x y : ℚ) : (PyFloat.finite x).le (.finite y) = decide (x ≤ y) := rfl

theorem le_ofLiteral_iff (hp : Binary64.Representable p) (ht : Binary64.round t ≤ t) :
    (PyFloat.finite p).le (.ofLiteral t) = true ↔ p ≤ t := by
  rw [PyFloat.ofLiteral, finite_le, decide_eq_true_iff]
  exact hp.le_round_iff ht

/-- A threshold of `n` millionths is not passed by the rounding of a number up to half a millionth above it. -/
theorem round_le_ofLiteral_iff {n : ℤ} (heven : Even n)
    (hnext : Binary64.round ((n : ℚ) / 10 ^ 6) < Binary64.round (((n + 1 : ℤ) : ℚ) / 10 ^ 6)) :
    (PyFloat.round 6 (.finite p)).le (.ofLiteral ((n : ℚ) / 10 ^ 6)) = true ↔ p ≤ (n : ℚ) / 10 ^ 6 + 5 / 10 ^ 7 := by
  rw [PyFloat.round, PyFloat.ofLiteral, PyFloat.ofLiteral, finite_le, decide_eq_true_iff, PyFloat.roundDecimal,
    Binary64.round_grid_le_iff (by norm_num) hnext, Binary64.roundHalfEven_le_iff]
  constructor
  · rintro (h | ⟨h, -⟩) <;> linarith
  · intro h
    rcases lt_or_eq_of_le h with hlt | heq
    · exact Or.inl (by linarith)
    · exact Or.inr ⟨by linarith, heven⟩

theorem classifyRisk_default (x : PyFloat) : classifyRisk x defaultLowThreshold defaultHighThreshold =
    .ok (if x.le defaultLowThreshold then .low else if x.le defaultHighThreshold then .medium else .high) := by
  have hordered : defaultHighThreshold.lt defaultLowThreshold = false := by decide +kernel
  rw [classifyRisk, hordered, if_neg Bool.false_ne_true, apply_ite Except.ok, apply_ite Except.ok]

/-- The band of a float is the band of its rounding, unless the rounding falls onto a threshold. -/
theorem classifyRisk_round_iff (hp : Binary64.Representable p) :
    classifyRisk (PyFloat.round 6 (.finite p)) defaultLowThreshold defaultHighThreshold =
        classifyRisk (.finite p) defaultLowThreshold defaultHighThreshold ↔
      ¬ RoundsOnto (3 / 10) p ∧ ¬ RoundsOnto (7 / 10) p := by
  have hlow : (PyFloat.finite p).le defaultLowThreshold = true ↔ p ≤ 3 / 10 := by
    rw [defaultLowThreshold, le_ofLiteral_iff hp (by decide +kernel)]
    norm_num
  have hhigh : (PyFloat.finite p).le defaultHighThreshold = true ↔ p ≤ 7 / 10 := by
    rw [defaultHighThreshold, le_ofLiteral_iff hp (by decide +kernel)]
    norm_num
  have hlow' : (PyFloat.round 6 (.finite p)).le defaultLowThreshold = true ↔ p ≤ 3 / 10 + 5 / 10 ^ 7 := by
    have h := round_le_ofLiteral_iff (p := p) (n := 300000) (by decide) (by decide +kernel)
    norm_num at h
    norm_num [defaultLowThreshold, h]
  have hhigh' : (PyFloat.round 6 (.finite p)).le defaultHighThreshold = true ↔ p ≤ 7 / 10 + 5 / 10 ^ 7 := by
    have h := round_le_ofLiteral_iff (p := p) (n := 700000) (by decide) (by decide +kernel)
    norm_num at h
    norm_num [defaultHighThreshold, h]
  rw [classifyRisk_default, classifyRisk_default, Except.ok.injEq]
  simp only [hlow, hhigh, hlow', hhigh', RoundsOnto]
  rcases le_or_gt p (3 / 10) with h | h
  · simp [show p ≤ 3 / 10 + 5 / 10 ^ 7 by linarith, h, not_lt.mpr h, not_lt.mpr (show p ≤ 7 / 10 by linarith)]
  · rcases le_or_gt p (7 / 10) with h' | h'
    · simp [show p ≤ 7 / 10 + 5 / 10 ^ 7 by linarith, h, h', not_le.mpr h, not_lt.mpr h']
    · simp [h, h', not_le.mpr h, not_le.mpr h', not_le.mpr (show 3 / 10 + 5 / 10 ^ 7 < p by linarith)]

/-- A probability stays one when it is rounded. -/
theorem inUnitInterval_round (pydantic : Pydantic) (h0 : 0 ≤ p) (h1 : p ≤ 1) :
    pydantic.inUnitInterval (PyFloat.round 6 (.finite p)) = true := by
  have hlow : ((0 : ℤ) : ℚ) ≤ p * 10 ^ 6 := by
    rw [Int.cast_zero]
    exact mul_nonneg h0 (by norm_num)
  have hhigh : p * 10 ^ 6 ≤ ((10 ^ 6 : ℤ) : ℚ) := by
    push_cast
    linarith
  have hlow' := Binary64.roundHalfEven_mono hlow
  have hhigh' := Binary64.roundHalfEven_mono hhigh
  rw [Binary64.roundHalfEven_intCast] at hlow' hhigh'
  have hnonneg : 0 ≤ PyFloat.roundDecimal 6 p := div_nonneg (by exact_mod_cast hlow') (by norm_num)
  have hle : PyFloat.roundDecimal 6 p ≤ 1 := by
    rw [PyFloat.roundDecimal, div_le_one (by norm_num)]
    exact_mod_cast hhigh'
  simp only [Pydantic.inUnitInterval, PyFloat.round, PyFloat.ofLiteral, finite_le, reduceCtorEq, if_false,
    Bool.and_eq_true, decide_eq_true_eq]
  exact ⟨Binary64.round_mono hnonneg, Binary64.round_mono hle⟩

end Bands

end IrisService.Ml
