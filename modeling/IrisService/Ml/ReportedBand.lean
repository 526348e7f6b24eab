import IrisService.Ml.ChurnContract

/-! The risk band of a reported prediction against the probability that is reported with it. -/

namespace IrisService.Ml.ChurnContract
open Effects Program Mcp.Tools

namespace Situation
variable (s : Situation)

/-- The model is asked for the customer's features and answers `p`. -/
def Produces (p : PyFloat) : Prop :=
  ∃ predictor customer, s.deps.churnPredictor = some predictor ∧ predictor.ready = true ∧
    s.driver.binds s.customerId = true ∧ s.view.rows .customer s.customerId = some customer ∧
      (s.ordersOf (select s.view .orders)).length ≤ s.driver.maxParameters ∧
        s.predictProbability (s.features (select s.view) customer) = .ok p

/-- The tool or the endpoint returns the prediction. -/
def Reports (prediction : ChurnPrediction) : Prop :=
  (∃ scan digest currentUser, s.tool scan digest currentUser = .ok (.churnPrediction prediction)) ∨
    ∃ scan predictor, s.deps.churnPredictor = some predictor ∧ s.rest scan predictor = .ok (.ok prediction)

section Reports
variable {s} {p : ℚ} {x : PyFloat} {prediction : ChurnPrediction}

theorem Produces.load (hp : s.Produces x) : ∃ predictor features, s.deps.churnPredictor = some predictor ∧
    predictor.ready = true ∧ s.loadFeatures (select s.view) = .ok (some features) ∧
      s.predictProbability features = .ok x := by
  obtain ⟨predictor, customer, hpredictor, hready, hbinds, hcustomer, hfits, hx⟩ := hp
  refine ⟨predictor, s.features (select s.view) customer, hpredictor, hready, ?_, hx⟩
  simp only [loadFeatures, hbinds, hcustomer, hfits, if_true]

/-- A reported probability is the rounding of what the model answered, and its band is the band before the rounding. -/
theorem Reports.eq (h : s.Reports prediction) (hp : s.Produces x) : prediction.probability = x.round 6 ∧
    classifyRisk x defaultLowThreshold defaultHighThreshold = .ok prediction.riskBand := by
  obtain ⟨predictor, features, hpredictor, hready, hload, hx⟩ := hp.load
  have hpredict : s.predict predictor features = .ok prediction := by
    rcases h with ⟨scan, digest, currentUser, h⟩ | ⟨scan, predictor', hpredictor', h⟩
    · rw [eval_tool hpredictor hready, loadFeatures_scan, hload] at h
      cases hp : s.predict predictor features <;> simp_all [Except.map]
    · obtain rfl : predictor' = predictor := by
        rw [hpredictor] at hpredictor'
        exact (Option.some.inj hpredictor').symm
      rw [eval_rest hready, loadFeatures_scan, hload] at h
      cases hp : s.predict predictor' features <;> simp_all [Except.map]
  obtain ⟨band, hband, hrisk⟩ := classifyChurn_ok (s := s) x
  rw [predict, hx, ok_bind, hband, ok_bind] at hpredict
  rw [newChurnPrediction_eq hpredict]
  exact ⟨rfl, hrisk⟩

theorem exists_reports (hp : s.Produces (.finite p)) (h0 : 0 ≤ p) (h1 : p ≤ 1) : ∃ prediction, s.Reports prediction := by
  obtain ⟨predictor, features, hpredictor, hready, hload, hx⟩ := hp.load
  obtain ⟨prediction, hpredict⟩ : ∃ prediction, s.predict predictor features = .ok prediction :=
    predict_ok_iff.mpr ⟨.finite p, hx, inUnitInterval_round s.deps.pydantic h0 h1⟩
  let scan : Scan s.view := ⟨select s.view, fun t => List.Perm.refl _⟩
  refine ⟨prediction, Or.inr ⟨scan, predictor, hpredictor, ?_⟩⟩
  rw [eval_rest hready, loadFeatures_scan, hload, ok_bind]
  simp only [hpredict]
  rfl

end Reports

end Situation

/-- For a probability of the model, the band that both surfaces report is the band of the number they report exactly when
    the rounding does not fall onto a threshold from above. -/
theorem reported_band_iff (s : Situation) (p : ℚ) (hp : Binary64.Representable p) (h0 : 0 ≤ p) (h1 : p ≤ 1)
    (hproduces : s.Produces (.finite p)) :
    (∀ prediction, s.Reports prediction →
        classifyRisk prediction.probability defaultLowThreshold defaultHighThreshold = .ok prediction.riskBand) ↔
      ¬ RoundsOnto (3 / 10) p ∧ ¬ RoundsOnto (7 / 10) p := by
  rw [← classifyRisk_round_iff hp]
  constructor
  · intro h
    obtain ⟨prediction, hreports⟩ := Situation.exists_reports hproduces h0 h1
    obtain ⟨hprobability, hband⟩ := hreports.eq hproduces
    rw [← hprobability, h prediction hreports, hband]
  · intro h prediction hreports
    obtain ⟨hprobability, hband⟩ := hreports.eq hproduces
    rw [hprobability, h, hband]

/-- Just above 0.3, and six decimals of it are 0.3. -/
def aboveLow : ℚ := Binary64.round (30000049 / 10 ^ 8)

theorem representable_aboveLow : Binary64.Representable aboveLow := by decide +kernel

theorem aboveLow_mem : 0 ≤ aboveLow ∧ aboveLow ≤ 1 := by decide +kernel

theorem produces_aboveLow : (adaSituation fun _ => .ok (.finite aboveLow)).Produces (.finite aboveLow) := by
  have hbinds : (adaSituation fun _ => .ok (.finite aboveLow)).driver.binds 1 = true := by simp [adaSituation]
  refine ⟨_, _, rfl, rfl, hbinds, rfl, ?_, rfl⟩
  simp [Situation.ordersOf, select, adaSituation, adaView]

theorem reported_band_aboveLow :
    (∀ prediction, (adaSituation fun _ => .ok (.finite aboveLow)).Reports prediction →
        classifyRisk prediction.probability defaultLowThreshold defaultHighThreshold = .ok prediction.riskBand) ↔
      ¬ RoundsOnto (3 / 10) aboveLow ∧ ¬ RoundsOnto (7 / 10) aboveLow :=
  reported_band_iff _ aboveLow representable_aboveLow aboveLow_mem.1 aboveLow_mem.2 produces_aboveLow

/-- MEDIUM is reported with the probability 0.3. -/
theorem reported_band_differs : ¬ ∀ (s : Situation) (p : ℚ), Binary64.Representable p → 0 ≤ p → p ≤ 1 →
    s.Produces (.finite p) → ∀ prediction, s.Reports prediction →
      classifyRisk prediction.probability defaultLowThreshold defaultHighThreshold = .ok prediction.riskBand := by
  intro h
  obtain ⟨prediction, hreports⟩ := Situation.exists_reports produces_aboveLow aboveLow_mem.1 aboveLow_mem.2
  have hband := h _ aboveLow representable_aboveLow aboveLow_mem.1 aboveLow_mem.2 produces_aboveLow prediction hreports
  obtain ⟨hprobability, hbefore⟩ := hreports.eq produces_aboveLow
  rw [hprobability, ← hbefore, classifyRisk_round_iff representable_aboveLow] at hband
  exact hband.1 (by decide +kernel)

end IrisService.Ml.ChurnContract
