import IrisService.Http
import IrisService.Mcp.Tools

/-! `POST /customers/{customer_id}/churn-prediction` of `ml/router.py`. The handler asks for what the tool of the same
name asks for, in a session that its dependency has opened. -/

namespace IrisService.Ml.Router
open Effects Program Mcp.Tools

/-- `_PLACEHOLDER_TOP_FEATURES` -/
def placeholderTopFeatures : List String := ["days_since_last_order", "total_revenue_90d", "order_frequency"]

/-- The text of the 503. -/
def notLoaded : String :=
  "Churn model not loaded yet. Provision /etc/models/churn_predictor.onnx via the iris-churn-model ConfigMap " ++
    "(shared ADR-0062)."

/-- The handler, for the predictor that its dependency injects. -/
def predictCustomerChurn (deps : Deps) (customerId : Nat) (predictor : Mcp.Tools.ChurnPredictor) :
    Tool deps (Except HTTPException ChurnPrediction) := do
  if !predictor.ready then return .error ⟨503, .text notLoaded⟩
  else match ← effect (.getCustomer customerId) with
    | none => return .error ⟨404, .text ("customer " ++ toString customerId ++ " not found")⟩
    | some customer =>
      let orders ← effect (.selectOrders customerId)
      let orderLines ← orderLinesOf deps (orders.map Prod.fst)
      let now ← effect .now
      let features := extractFeatures (customerRow customer) (orders.map orderRow) (orderLines.map orderLineRow) now
      let probability ← effect (.predictProbability features)
      let band ← ofExcept (classifyChurn deps probability)
      let prediction ← ofExcept <| newChurnPrediction deps
        { customerId, probability := probability.round 6, riskBand := band, topFeatures := placeholderTopFeatures
          modelVersion := predictor.modelVersion, predictedAt := now }
      return .ok prediction

end IrisService.Ml.Router
