import IrisService.Ml.Model
import Mathlib.Analysis.SpecialFunctions.Sigmoid

/-! The churn model from its training to its serving: the end of `main` in `ml/train_churn.py`, and
`ChurnPredictor` of `ml/inference.py`. -/

namespace IrisService.Ml

variable {K : Type}

/-! ### Training -/

/-- A fitted `StandardScaler`. -/
structure StandardScaler (K : Type) [Zero K] [LT K] where
  mean : Fin nFeatures → K
  scale : Fin nFeatures → K
  scale_pos : ∀ i, 0 < scale i

/-- `StandardScaler.transform` -/
def StandardScaler.transform [Field K] [LinearOrder K] (scaler : StandardScaler K) (x : Fin nFeatures → K) :
    Fin nFeatures → K :=
  fun i => (x i - scaler.mean i) / scaler.scale i

/-- What `main` holds when the model is trained. -/
structure TrainingRun (K : Type) [Zero K] [LT K] where
  scaler : StandardScaler K
  model : ChurnMLP K

namespace TrainingRun
variable [Field K] [LinearOrder K]

/-- The logit behind the loss, the metrics and the gate, for features before they are scaled. -/
def logit (training : TrainingRun K) (raw : Fin nFeatures → K) : K :=
  training.model.forward (training.scaler.transform raw)

/-- What `main` writes to `churn_predictor.onnx`; nothing when the model misses the gate. -/
def onnx (training : TrainingRun K) (auc aucGate : K) : Option (InferenceSession K) :=
  if auc < aucGate then none else some (exportToOnnx training.model)

end TrainingRun

/-! ### Serving -/

/-- What `predict_probability` raises. -/
inductive PredictError where
  | runtimeError (text : String)
  | valueError (text : String)
  | indexError
  deriving DecidableEq, Repr

/-- `ChurnPredictor` -/
structure ChurnPredictor (K : Type) where
  modelPath : String
  session : Option (InferenceSession K)
  inputName : Option String

/-- `_sigmoid` -/
def sigmoid [Field K] [LinearOrder K] (exp : K → K) (logit : K) : K :=
  if 0 ≤ logit then 1 / (1 + exp (-logit)) else exp logit / (1 + exp logit)

namespace ChurnPredictor

/-- A predictor that has loaded an exported model. -/
def loaded (modelPath : String) (session : InferenceSession K) : ChurnPredictor K := ⟨modelPath, some session, some "input"⟩

/-- `predict_probability` up to the logit. -/
def logit (predictor : ChurnPredictor K) (features : List K) : Except PredictError K :=
  match predictor.session, predictor.inputName with
  | some session, some _ =>
    if features.length = nFeatures then
      match session.run [features] with
      | (logit :: _) :: _ => .ok logit
      | _ => .error .indexError
    else .error (.valueError ("feature shape mismatch — expected (8,) got (" ++ toString features.length ++ ",)"))
  | _, _ =>
    .error (.runtimeError ("churn model not loaded (path=" ++ predictor.modelPath ++
      ") — call is_ready() before predict_probability()"))

/-- `predict_probability` -/
def predictProbability [Field K] [LinearOrder K] (exp : K → K) (predictor : ChurnPredictor K) (features : List K) :
    Except PredictError K :=
  (predictor.logit features).map (sigmoid exp)

end ChurnPredictor

/-! ### Agreement -/

theorem getD_ofFn [Zero K] {n : Nat} (x : Fin n → K) (i : Fin n) : (List.ofFn x).getD i 0 = x i := by
  simp [List.getD_eq_getElem?_getD]

/-- The served model gives the raw features to the network as they are. -/
theorem logit_loaded [Ring K] [LinearOrder K] (modelPath : String) (model : ChurnMLP K) (raw : Fin nFeatures → K) :
    (ChurnPredictor.loaded modelPath (exportToOnnx model)).logit (List.ofFn raw) = .ok (model.forward raw) := by
  simp only [ChurnPredictor.logit, ChurnPredictor.loaded, exportToOnnx, List.length_ofFn, if_true, List.map_cons, getD_ofFn]

section Agreement
variable [Field K] [LinearOrder K] [IsStrictOrderedRing K]

omit [IsStrictOrderedRing K] in
theorem transform_eq_iff (scaler : StandardScaler K) (raw : Fin nFeatures → K) (i : Fin nFeatures) :
    scaler.transform raw i = raw i ↔ raw i - scaler.mean i = scaler.scale i * raw i := by
  rw [StandardScaler.transform, div_eq_iff (scaler.scale_pos i).ne', mul_comm]

/-- A network that sees a change of the features exists for every change. -/
theorem forward_eq_iff (x y : Fin nFeatures → K) : (∀ model : ChurnMLP K, model.forward x = model.forward y) ↔ x = y := by
  constructor
  · intro h
    funext i
    have hi := h (ChurnMLP.projection i)
    rwa [ChurnMLP.forward_projection, ChurnMLP.forward_projection] at hi
  · rintro rfl model
    rfl

/-- The two sides agree for every network exactly where the scaler changes nothing. -/
theorem served_eq_trained_iff (modelPath : String) (scaler : StandardScaler K) (raw : Fin nFeatures → K) :
    (∀ model : ChurnMLP K, (ChurnPredictor.loaded modelPath (exportToOnnx model)).logit (List.ofFn raw) =
      .ok ((TrainingRun.mk scaler model).logit raw)) ↔ scaler.transform raw = raw := by
  simp only [logit_loaded, TrainingRun.logit, Except.ok.injEq]
  rw [forward_eq_iff, eq_comm]

end Agreement

/-- Where served and training logits agree whatever was trained, feature by feature. -/
theorem logits_agree_iff (modelPath : String) (scaler : StandardScaler ℝ) (raw : Fin nFeatures → ℝ) :
    (∀ model : ChurnMLP ℝ, (ChurnPredictor.loaded modelPath (exportToOnnx model)).logit (List.ofFn raw) =
      .ok ((TrainingRun.mk scaler model).logit raw)) ↔ ∀ i, raw i - scaler.mean i = scaler.scale i * raw i := by
  rw [served_eq_trained_iff, funext_iff]
  exact forall_congr' (transform_eq_iff scaler raw)

/-- A scaler of features with mean 1. -/
def centred [Field K] [LinearOrder K] [IsStrictOrderedRing K] : StandardScaler K :=
  ⟨fun _ => 1, fun _ => 1, fun _ => one_pos⟩

theorem unscaled_logit : ¬∀ (modelPath : String) (scaler : StandardScaler ℝ) (model : ChurnMLP ℝ) (raw : Fin nFeatures → ℝ),
    (ChurnPredictor.loaded modelPath (exportToOnnx model)).logit (List.ofFn raw) =
      .ok ((TrainingRun.mk scaler model).logit raw) := by
  intro h
  have hlogit := h "/etc/models/churn_predictor.onnx" centred (ChurnMLP.projection 0) 0
  rw [logit_loaded, TrainingRun.logit, ChurnMLP.forward_projection, ChurnMLP.forward_projection, Except.ok.injEq] at hlogit
  norm_num [centred, StandardScaler.transform] at hlogit

/-! ### Probabilities -/

/-- Both branches of `_sigmoid` are the logistic function. -/
theorem sigmoid_eq (logit : ℝ) : sigmoid Real.exp logit = Real.sigmoid logit := by
  unfold sigmoid
  split
  · rw [Real.sigmoid_def, one_div]
  · rw [Real.sigmoid_def, Real.exp_neg]
    field_simp
    exact add_comm _ _

/-- The probabilities of a training run and of its served model agree exactly when their logits do. -/
theorem probability_eq_iff (modelPath : String) (training : TrainingRun ℝ) (raw : Fin nFeatures → ℝ) :
    (ChurnPredictor.loaded modelPath (exportToOnnx training.model)).predictProbability Real.exp (List.ofFn raw) =
        .ok (Real.sigmoid (training.logit raw)) ↔
      (ChurnPredictor.loaded modelPath (exportToOnnx training.model)).logit (List.ofFn raw) = .ok (training.logit raw) := by
  rw [ChurnPredictor.predictProbability, logit_loaded, Except.map, sigmoid_eq, Except.ok.injEq, Except.ok.injEq,
    Real.sigmoid_inj]

end IrisService.Ml
