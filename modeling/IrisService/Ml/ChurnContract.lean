import IrisService.Db.Select
import IrisService.Ml.Router

/-! The churn prediction of the REST endpoint and of the MCP tool in one situation: a reachable database, a predictor
that may be absent, not ready or misbehave, and a customer id that the path of the endpoint takes. -/

namespace IrisService.Ml.ChurnContract
open ReadCommitted Effects Program Mcp.Tools

/-! ### Situations -/

/-- What the database driver takes for parameters; it refuses other statements. -/
structure Driver where
  /-- The id is one for an `INTEGER` column. -/
  binds : Int → Bool
  maxParameters : Nat
  refusal : Exc

/-- Everything on which the answer of the churn tool depends. -/
structure Situation where
  deps : Deps
  view : View Row
  driver : Driver
  now : DateTime
  /-- `predict_probability` -/
  predictProbability : List ℚ → Except Exc PyFloat
  customerId : Nat
  /-- `Path(ge=1)` -/
  customerId_pos : 1 ≤ customerId

namespace Situation
variable (s : Situation)

/-- The orders of the customer. -/
def ordersOf (rows : List (Nat × Order)) : List (Nat × Order) := rows.filter fun order => order.2.customerId = s.customerId

/-- The features of the customer in the rows of the store. -/
def features (rows : (t : Table) → List (Nat × Row t)) (customer : Customer) : List ℚ :=
  let orders := s.ordersOf (rows .orders)
  let orderLines := (rows .orderLine).filter fun line => line.2.orderId ∈ orders.map Prod.fst
  extractFeatures (customerRow (s.customerId, customer)) (orders.map orderRow) (orderLines.map orderLineRow) s.now

section Answers
variable (scan : Scan s.view)

/-- What the effects of a prediction are answered with. The others do not occur in it. -/
def answer : (β : Type) → Effect s.deps.scalars.Scalar β → Except Exc β
  | _, .audit _ => .ok ()
  | _, .openSession => .ok ()
  | _, .closeSession => .ok ()
  | _, .getCustomer id =>
    if s.driver.binds id then
      .ok (if id < 0 then none else (s.view.rows .customer id.toNat).map fun customer => (id.toNat, customer))
    else .error s.driver.refusal
  | _, .selectOrders customerId =>
    if s.driver.binds customerId then .ok ((scan.rows .orders).filter fun order => order.2.customerId = customerId)
    else .error s.driver.refusal
  | _, .selectOrderLines orderIds =>
    if orderIds.length ≤ s.driver.maxParameters then
      .ok ((scan.rows .orderLine).filter fun line => line.2.orderId ∈ orderIds)
    else .error s.driver.refusal
  | _, .now => .ok s.now
  | _, .predictProbability features => s.predictProbability features
  | _, _ => .error ⟨.exception, "NotImplementedError", ""⟩

/-- What the tool ends with. -/
def tool (digest : Mcp.Digest) (currentUser : Option Mcp.McpUser) : Except Exc ToolResult :=
  (Mcp.Tools.predictCustomerChurn digest s.deps currentUser (some s.customerId)).eval (s.answer scan)

/-- What the handler of the endpoint ends with, for the predictor that is injected. -/
def rest (predictor : Mcp.Tools.ChurnPredictor) : Except Exc (Except HTTPException ChurnPrediction) :=
  (Router.predictCustomerChurn s.deps s.customerId predictor).eval (s.answer scan)

end Answers

/-! ### The common part -/

/-- The features that both sides load; none if there is no such customer. -/
def loadFeatures (rows : (t : Table) → List (Nat × Row t)) : Except Exc (Option (List ℚ)) :=
  if s.driver.binds s.customerId then
    match s.view.rows .customer s.customerId with
    | none => .ok none
    | some customer =>
      if (s.ordersOf (rows .orders)).length ≤ s.driver.maxParameters then .ok (some (s.features rows customer))
      else .error s.driver.refusal
  else .error s.driver.refusal

/-- The prediction that both sides make of the features. -/
def predict (predictor : Mcp.Tools.ChurnPredictor) (features : List ℚ) : Except Exc ChurnPrediction :=
  (s.predictProbability features).bind fun probability => (classifyChurn s.deps probability).bind fun riskBand =>
    newChurnPrediction s.deps
      { customerId := s.customerId, probability := probability.round 6, riskBand
        topFeatures := Router.placeholderTopFeatures, modelVersion := predictor.modelVersion, predictedAt := s.now }

section Eval
variable {s} {scan scan' : Scan s.view} {predictor : Mcp.Tools.ChurnPredictor} {digest : Mcp.Digest}
  {currentUser : Option Mcp.McpUser}

theorem eval_withSession {α : Type} (body : Tool s.deps α) :
    (withSession s.deps body).eval (s.answer scan) = body.eval (s.answer scan) := by
  have hclose : (effect .closeSession : Tool s.deps Unit).eval (s.answer scan) = .ok () := rfl
  rw [withSession, eval_bind, eval_tryFinally body hclose]
  rfl

theorem eval_orderLinesOf (orderIds : List Nat) : (orderLinesOf s.deps orderIds).eval (s.answer scan) =
    if orderIds.length ≤ s.driver.maxParameters then
      .ok ((scan.rows .orderLine).filter fun line => line.2.orderId ∈ orderIds)
    else .error s.driver.refusal := by
  unfold orderLinesOf
  split
  · rename_i hnil
    simp [hnil]
  · rfl

theorem predict_map {α : Type} (features : List ℚ) (k : ChurnPrediction → α) :
    ((s.predictProbability features).bind fun probability => (classifyChurn s.deps probability).bind fun riskBand =>
      (newChurnPrediction s.deps
        { customerId := s.customerId, probability := probability.round 6, riskBand
          topFeatures := Router.placeholderTopFeatures, modelVersion := predictor.modelVersion, predictedAt := s.now }).bind
        fun prediction => .ok (k prediction)) = (s.predict predictor features).map k := by
  rw [predict]
  cases s.predictProbability features with
  | error exc => rfl
  | ok probability =>
    simp only [ok_bind]
    cases classifyChurn s.deps probability with
    | error exc => rfl
    | ok riskBand => rfl

theorem eval_rest (hready : predictor.ready = true) :
    s.rest scan predictor = (s.loadFeatures scan.rows).bind fun
      | none => .ok (.error ⟨404, .text ("customer " ++ toString s.customerId ++ " not found")⟩)
      | some features => (s.predict predictor features).map .ok := by
  have hid : ¬ ((s.customerId : Int) < 0) := Int.not_lt.mpr (Int.natCast_nonneg _)
  rw [rest, Router.predictCustomerChurn, hready, loadFeatures]
  by_cases hbinds : s.driver.binds s.customerId = true
  · cases hcustomer : s.view.rows .customer s.customerId with
    | none => simp [answer, hbinds, hid, hcustomer]
    | some customer =>
      by_cases hfits : (s.ordersOf (scan.rows .orders)).length ≤ s.driver.maxParameters
      · simp only [ordersOf] at hfits
        simp [answer, hbinds, hid, hcustomer, eval_orderLinesOf, ordersOf, hfits, predict_map, features]
        rfl
      · simp only [ordersOf] at hfits
        simp [answer, hbinds, hid, hcustomer, eval_orderLinesOf, ordersOf, hfits]
  · simp [answer, hbinds]

/-- A tool that is ready answers as the handler does, with its soft errors. -/
theorem eval_tool (hpredictor : s.deps.churnPredictor = some predictor) (hready : predictor.ready = true) :
    s.tool scan digest currentUser = (s.loadFeatures scan.rows).bind fun
      | none => .ok (.churnNotFound (some s.customerId) ("customer " ++ toString (s.customerId : Int) ++ " not found"))
      | some features => (s.predict predictor features).map .churnPrediction := by
  have hid : ¬ ((s.customerId : Int) < 0) := Int.not_lt.mpr (Int.natCast_nonneg _)
  rw [tool, Mcp.Tools.predictCustomerChurn, hpredictor, loadFeatures]
  by_cases hbinds : s.driver.binds s.customerId = true
  · cases hcustomer : s.view.rows .customer s.customerId with
    | none => simp [hready, audit, eval_withSession, answer, hbinds, hid, hcustomer]
    | some customer =>
      by_cases hfits : (s.ordersOf (scan.rows .orders)).length ≤ s.driver.maxParameters
      · simp only [ordersOf] at hfits
        simp [hready, audit, eval_withSession, answer, hbinds, hid, hcustomer, eval_orderLinesOf, ordersOf, hfits,
          features, ← predict_map, Router.placeholderTopFeatures]
        rfl
      · simp only [ordersOf] at hfits
        simp [hready, audit, eval_withSession, answer, hbinds, hid, hcustomer, eval_orderLinesOf, ordersOf, hfits]
  · simp [hready, audit, eval_withSession, answer, hbinds]

theorem eval_tool_unavailable (h : ∀ predictor, s.deps.churnPredictor = some predictor → predictor.ready = false) :
    ∃ message, s.tool scan digest currentUser = .ok (.churnServiceUnavailable message churnHint) := by
  rw [tool, Mcp.Tools.predictCustomerChurn]
  cases hpredictor : s.deps.churnPredictor with
  | none => exact ⟨_, rfl⟩
  | some predictor => exact ⟨_, by simp [h predictor hpredictor, audit, answer]; rfl⟩

theorem eval_rest_unavailable (hready : predictor.ready = false) :
    s.rest scan predictor = .ok (.error ⟨503, .text Router.notLoaded⟩) := by
  rw [rest, Router.predictCustomerChurn, hready]
  rfl

end Eval

/-! ### When both sides predict -/

section Predict
variable {s} {scan : Scan s.view} {predictor : Mcp.Tools.ChurnPredictor} {features : List ℚ}
  {prediction : ChurnPrediction}

theorem features_scan (customer : Customer) : s.features scan.rows customer = s.features (select s.view) customer := by
  have horders : (s.ordersOf (scan.rows .orders)).Perm (s.ordersOf (select s.view .orders)) := (scan.perm .orders).filter _
  refine extractFeatures_perm (horders.map orderRow) (List.Perm.map orderLineRow ?_)
  have hids : ∀ id, id ∈ (s.ordersOf (scan.rows .orders)).map Prod.fst ↔
    id ∈ (s.ordersOf (select s.view .orders)).map Prod.fst :=
    fun id => (horders.map Prod.fst).mem_iff
  simp only [hids]
  exact (scan.perm .orderLine).filter _

/-- Whatever order the tables are scanned in, the same features are loaded. -/
theorem loadFeatures_scan : s.loadFeatures scan.rows = s.loadFeatures (select s.view) := by
  have hlength : (s.ordersOf (scan.rows .orders)).length = (s.ordersOf (select s.view .orders)).length :=
    ((scan.perm .orders).filter _).length_eq
  simp only [loadFeatures, hlength, features_scan]

theorem classifyChurn_ok (probability : PyFloat) : ∃ band, classifyChurn s.deps probability = .ok band ∧
    classifyRisk probability defaultLowThreshold defaultHighThreshold = .ok band := by
  rw [classifyChurn, classifyRisk_default]
  exact ⟨_, rfl, rfl⟩

theorem newChurnPrediction_ok_iff : (∃ created, newChurnPrediction s.deps prediction = .ok created) ↔
    s.deps.pydantic.inUnitInterval prediction.probability = true := by
  rw [newChurnPrediction, ChurnPrediction.validate]
  cases s.deps.pydantic.inUnitInterval prediction.probability <;> simp [Except.mapError]

theorem newChurnPrediction_eq {created : ChurnPrediction} (h : newChurnPrediction s.deps prediction = .ok created) :
    created = prediction := by
  rw [newChurnPrediction, ChurnPrediction.validate] at h
  split at h
  · cases h
    rfl
  · cases h

/-- A prediction succeeds when the model answers with a number whose rounding is in bounds. -/
theorem predict_ok_iff : (∃ prediction, s.predict predictor features = .ok prediction) ↔
    ∃ p, s.predictProbability features = .ok p ∧ s.deps.pydantic.inUnitInterval (p.round 6) = true := by
  rw [predict]
  cases s.predictProbability features with
  | error exc => simp
  | ok p =>
    obtain ⟨band, hband, -⟩ := classifyChurn_ok (s := s) p
    rw [ok_bind, hband, ok_bind, newChurnPrediction_ok_iff]
    simp

end Predict

/-! ### The contract -/

/-- The predictor behaves, and the driver takes the parameters of the statements. -/
def Served : Prop :=
  ∀ predictor, s.deps.churnPredictor = some predictor → predictor.ready = true →
    s.driver.binds s.customerId = true ∧
      ∀ customer, s.view.rows .customer s.customerId = some customer →
        (s.ordersOf (select s.view .orders)).length ≤ s.driver.maxParameters ∧
          ∃ p, s.predictProbability (s.features (select s.view) customer) = .ok p ∧
            s.deps.pydantic.inUnitInterval (p.round 6) = true

/-- The tool ends with one of its three answers, and that is the one of the endpoint. -/
structure Contract (answered : Except Exc ToolResult)
    (rest : Mcp.Tools.ChurnPredictor → Except Exc (Except HTTPException ChurnPrediction)) :
    Prop where
  returns : (∃ prediction, answered = .ok (.churnPrediction prediction)) ∨
    (∃ message, answered = .ok (.churnNotFound (some s.customerId) message)) ∨
    ∃ message hint, answered = .ok (.churnServiceUnavailable message hint)
  ok : ∀ predictor prediction, s.deps.churnPredictor = some predictor → rest predictor = .ok (.ok prediction) →
    answered = .ok (.churnPrediction prediction)
  notFound : ∀ predictor detail, s.deps.churnPredictor = some predictor → rest predictor = .ok (.error ⟨404, detail⟩) →
    ∃ message, answered = .ok (.churnNotFound (some s.customerId) message)
  unavailable : ∀ predictor detail, s.deps.churnPredictor = some predictor → rest predictor = .ok (.error ⟨503, detail⟩) →
    ∃ message hint, answered = .ok (.churnServiceUnavailable message hint)

theorem Contract.tool_ok {s : Situation} {answered : Except Exc ToolResult}
    {rest : Mcp.Tools.ChurnPredictor → Except Exc (Except HTTPException ChurnPrediction)} (h : s.Contract answered rest) :
    ∃ result, answered = .ok result := by
  rcases h.returns with ⟨prediction, hok⟩ | ⟨message, hok⟩ | ⟨message, hint, hok⟩
  · exact ⟨_, hok⟩
  · exact ⟨_, hok⟩
  · exact ⟨_, hok⟩

section Contract
variable {s} {scan scan' : Scan s.view} {predictor : Mcp.Tools.ChurnPredictor} {digest : Mcp.Digest}
  {currentUser : Option Mcp.McpUser}

/-- The two sides agree whatever the predictor does; 503 comes first on both. -/
theorem agreement (hpredictor : s.deps.churnPredictor = some predictor) :
    (∀ prediction, s.rest scan' predictor = .ok (.ok prediction) →
        s.tool scan digest currentUser = .ok (.churnPrediction prediction)) ∧
      (∀ detail, s.rest scan' predictor = .ok (.error ⟨404, detail⟩) →
        ∃ message, s.tool scan digest currentUser = .ok (.churnNotFound (some s.customerId) message)) ∧
      ∀ detail, s.rest scan' predictor = .ok (.error ⟨503, detail⟩) →
        ∃ message hint, s.tool scan digest currentUser = .ok (.churnServiceUnavailable message hint) := by
  cases hready : predictor.ready with
  | false =>
    obtain ⟨message, htool⟩ : ∃ message, s.tool scan digest currentUser =
      .ok (.churnServiceUnavailable message churnHint) := by
      refine eval_tool_unavailable fun predictor' h' => ?_
      rw [hpredictor] at h'
      cases h'
      exact hready
    rw [eval_rest_unavailable hready]
    refine ⟨fun prediction h => ?_, fun detail h => ?_, fun detail _ => ⟨message, churnHint, htool⟩⟩
    · cases h
    · cases h
  | true =>
    rw [eval_rest hready, eval_tool hpredictor hready, loadFeatures_scan, loadFeatures_scan]
    cases s.loadFeatures (select s.view) with
    | error exc =>
      refine ⟨fun prediction h => ?_, fun detail h => ?_, fun detail h => ?_⟩ <;> cases h
    | ok found =>
      cases found with
      | none =>
        refine ⟨fun prediction h => ?_, fun detail _ => ⟨_, rfl⟩, fun detail h => ?_⟩ <;> cases h
      | some features =>
        simp only [ok_bind]
        cases s.predict predictor features with
        | error exc =>
          refine ⟨fun prediction h => ?_, fun detail h => ?_, fun detail h => ?_⟩ <;> cases h
        | ok prediction =>
          refine ⟨fun prediction' h => ?_, fun detail h => ?_, fun detail h => ?_⟩ <;> cases h
          rfl

/-- A ready tool returns exactly when the driver and the predictor do what it asks of them. -/
theorem tool_ok_iff (hpredictor : s.deps.churnPredictor = some predictor) (hready : predictor.ready = true) :
    (∃ result, s.tool scan digest currentUser = .ok result) ↔
      s.driver.binds s.customerId = true ∧
        ∀ customer, s.view.rows .customer s.customerId = some customer →
          (s.ordersOf (select s.view .orders)).length ≤ s.driver.maxParameters ∧
            ∃ p, s.predictProbability (s.features (select s.view) customer) = .ok p ∧
              s.deps.pydantic.inUnitInterval (p.round 6) = true := by
  rw [eval_tool hpredictor hready, loadFeatures_scan, loadFeatures]
  by_cases hbinds : s.driver.binds s.customerId = true
  · rw [if_pos hbinds]
    cases hcustomer : s.view.rows .customer s.customerId with
    | none => exact ⟨fun _ => ⟨hbinds, fun customer h => absurd h (by simp)⟩, fun _ => ⟨_, rfl⟩⟩
    | some customer =>
      dsimp only
      by_cases hfits : (s.ordersOf (select s.view .orders)).length ≤ s.driver.maxParameters
      · rw [if_pos hfits, ok_bind]
        have hmap : (∃ result, (s.predict predictor (s.features (select s.view) customer)).map ToolResult.churnPrediction =
            .ok result) ↔ ∃ prediction, s.predict predictor (s.features (select s.view) customer) = .ok prediction := by
          cases s.predict predictor (s.features (select s.view) customer) <;> simp [Except.map]
        rw [hmap, predict_ok_iff]
        constructor
        · intro h
          refine ⟨hbinds, fun customer' h' => ?_⟩
          cases h'
          exact ⟨hfits, h⟩
        · rintro ⟨-, h⟩
          exact (h customer rfl).2
      · rw [if_neg hfits]
        refine ⟨fun ⟨result, h⟩ => ?_, fun ⟨_, h⟩ => absurd (h customer rfl).1 hfits⟩
        cases h
  · rw [if_neg hbinds]
    refine ⟨fun ⟨result, h⟩ => ?_, fun ⟨h, _⟩ => absurd h hbinds⟩
    cases h

/-- A tool that returns does so with one of three answers. -/
theorem returns_of_served (h : s.Served) :
    (∃ prediction, s.tool scan digest currentUser = .ok (.churnPrediction prediction)) ∨
      (∃ message, s.tool scan digest currentUser = .ok (.churnNotFound (some s.customerId) message)) ∨
      ∃ message hint, s.tool scan digest currentUser = .ok (.churnServiceUnavailable message hint) := by
  by_cases hready : ∃ predictor, s.deps.churnPredictor = some predictor ∧ predictor.ready = true
  · obtain ⟨predictor, hpredictor, hready⟩ := hready
    obtain ⟨result, hok⟩ : ∃ result, s.tool scan digest currentUser = .ok result :=
      (tool_ok_iff hpredictor hready).mpr (h predictor hpredictor hready)
    rw [eval_tool hpredictor hready] at hok ⊢
    cases hload : s.loadFeatures scan.rows with
    | error exc =>
      rw [hload] at hok
      cases hok
    | ok found =>
      cases found with
      | none => exact Or.inr (Or.inl ⟨_, rfl⟩)
      | some features =>
        simp only [hload, ok_bind] at hok ⊢
        cases hpredict : s.predict predictor features with
        | error exc =>
          rw [hpredict] at hok
          cases hok
        | ok prediction => exact Or.inl ⟨prediction, rfl⟩
  · obtain ⟨message, htool⟩ : ∃ message, s.tool scan digest currentUser =
      .ok (.churnServiceUnavailable message churnHint) :=
      eval_tool_unavailable fun predictor hpredictor => Bool.eq_false_iff.mpr fun hr => hready ⟨predictor, hpredictor, hr⟩
    exact Or.inr (Or.inr ⟨message, churnHint, htool⟩)

end Contract

end Situation

/-- The soft errors of the tool, and its agreement with the endpoint, hold in exactly the situations in which nothing
    that a ready predictor is asked for raises and its answer rounds to a probability. -/
theorem contract_iff (s : Situation) :
    (∀ (scan scan' : Scan s.view) (digest : Mcp.Digest) (currentUser : Option Mcp.McpUser),
      s.Contract (s.tool scan digest currentUser) (s.rest scan')) ↔ s.Served := by
  constructor
  · intro h predictor hpredictor hready
    let scan : Scan s.view := ⟨select s.view, fun t => List.Perm.refl _⟩
    exact (Situation.tool_ok_iff hpredictor hready).mp (h scan scan ⟨fun _ => "", id⟩ none).tool_ok
  · intro h scan scan' digest currentUser
    exact
      { returns := Situation.returns_of_served h
        ok := fun predictor prediction hpredictor => (Situation.agreement hpredictor).1 prediction
        notFound := fun predictor detail hpredictor => (Situation.agreement hpredictor).2.1 detail
        unavailable := fun predictor detail hpredictor => (Situation.agreement hpredictor).2.2 detail }
/-- One customer and no order. -/
def adaView : View Row where
  rows
    | .customer, 1 => some ⟨"Ada", "ada@example.com", ⟨0, some 0⟩⟩
    | _, _ => none
  seq _ := 2

/-- A ready predictor, asked about that customer. -/
def adaSituation (predictProbability : List ℚ → Except Exc PyFloat) : Situation where
  deps :=
    { app := ⟨"iris", "1.0", none⟩
      packageVersion := "1.0"
      runtime := ⟨"3.14.0", "Linux", "CPython"⟩
      scalars := Mcp.Actuator.Scalars.strings
      ringBufferCapacity := 500
      churnPredictor := some ⟨true, "/etc/models/churn_predictor.onnx", "v1"⟩
      pydantic := ⟨false, fun _ => ""⟩
      floatStr := fun _ => "" }
  view := adaView
  driver := ⟨fun id => -2 ^ 31 ≤ id ∧ id < 2 ^ 31, 32767, ⟨.dbapiError, "DBAPIError", ""⟩⟩
  now := ⟨0, some 0⟩
  predictProbability := predictProbability
  customerId := 1
  customerId_pos := Nat.le_refl 1

/-- An exception of the ONNX session leaves the tool as it is. -/
theorem tool_raises :
    ¬ ∀ (s : Situation) (scan scan' : Scan s.view) (digest : Mcp.Digest) (currentUser : Option Mcp.McpUser),
    s.Contract (s.tool scan digest currentUser) (s.rest scan') := by
  intro h
  let s := adaSituation fun _ => .error ⟨.exception, "InvalidArgument", ""⟩
  let scan : Scan s.view := ⟨select s.view, fun t => List.Perm.refl _⟩
  have hok := (h s scan scan ⟨fun _ => "", id⟩ none).tool_ok
  obtain ⟨-, hserved⟩ := (Situation.tool_ok_iff rfl rfl).mp hok
  obtain ⟨-, p, hp, -⟩ := hserved _ rfl
  cases hp

end IrisService.Ml.ChurnContract
