import IrisService.Library.Runs
import IrisService.Ml.Serving

/-! `ChurnPredictor.load_model` and `is_ready` of `ml/inference.py`, called any number of times. -/

namespace IrisService.Ml
open Runs

variable {K : Type}

/-- What one call of `load_model` finds: whether the file is there, whether `onnxruntime` can be imported, and the
    session with the names of its inputs, or the reason why there is none. -/
structure Environment (K : Type) where
  isFile : Bool
  importable : Bool
  inferenceSession : Except String (InferenceSession K × List String)

namespace ChurnPredictor

/-- `ChurnPredictor(model_path)` -/
def new (modelPath : String) : ChurnPredictor K := ⟨modelPath, none, none⟩

/-- `is_ready` -/
def isReady (predictor : ChurnPredictor K) : Bool := predictor.session.isSome

/-- `_session` and `_input_name` set to `None`. -/
def unloaded (predictor : ChurnPredictor K) : ChurnPredictor K := { predictor with session := none, inputName := none }

/-- The predictor after `load_model`, and whether the call raises. -/
def loadModel (predictor : ChurnPredictor K) (env : Environment K) : ChurnPredictor K × Except PredictError Unit :=
  if env.isFile = false then (predictor.unloaded, .ok ())
  else if env.importable = false then (predictor.unloaded, .ok ())
  else
    match env.inferenceSession with
    | .error _ => (predictor.unloaded, .ok ())
    | .ok (session, inputs) =>
      -- The session is set before the name of its first input is read.
      let predictor := { predictor with session := some session }
      match inputs with
      | [] => (predictor, .error .indexError)
      | inputName :: _ => ({ predictor with inputName := some inputName }, .ok ())

/-- A call of `load_model` as a step. -/
def step (predictor : ChurnPredictor K) (env : Environment K) : ChurnPredictor K := (predictor.loadModel env).1

end ChurnPredictor

/-- The call constructs a session, and the model has no input. -/
def Environment.NoInputs (env : Environment K) : Prop :=
  env.isFile = true ∧ env.importable = true ∧ ∃ session, env.inferenceSession = .ok (session, [])

/-- The session and the first of its input names, when the call gets that far. -/
def Environment.loads (env : Environment K) (session : InferenceSession K) (inputName : String) : Prop :=
  env.isFile = true ∧ env.importable = true ∧
    ∃ inputs, env.inferenceSession = .ok (session, inputName :: inputs)

/-! ### One call -/

section Call
open ChurnPredictor
variable {predictor : ChurnPredictor K} {env : Environment K}

/-- The five exits of the call. -/
theorem loadModel_cases (predictor : ChurnPredictor K) (env : Environment K) :
    (predictor.loadModel env = (predictor.unloaded, .ok ()) ∧ ¬env.NoInputs ∧
      ∀ session inputName, ¬env.loads session inputName) ∨
    (∃ session inputName, env.loads session inputName ∧ ¬env.NoInputs ∧
      predictor.loadModel env = ({ predictor with session := some session, inputName := some inputName }, .ok ())) ∨
    ∃ session, env.NoInputs ∧
      predictor.loadModel env = ({ predictor with session := some session }, .error .indexError) := by
  unfold loadModel Environment.NoInputs Environment.loads
  cases env.isFile with
  | false => exact Or.inl ⟨rfl, by simp, by simp⟩
  | true =>
    cases env.importable with
    | false => exact Or.inl ⟨rfl, by simp, by simp⟩
    | true =>
      cases env.inferenceSession with
      | error reason => exact Or.inl ⟨rfl, by simp, by simp⟩
      | ok loaded =>
        obtain ⟨session, inputs⟩ := loaded
        cases inputs with
        | nil => exact Or.inr (Or.inr ⟨session, ⟨rfl, rfl, session, rfl⟩, rfl⟩)
        | cons inputName inputs => exact Or.inr (Or.inl ⟨session, inputName, ⟨rfl, rfl, inputs, rfl⟩, by simp, rfl⟩)

/-- The call returns, the predictor is ready exactly when it holds the session and the input name of this call, and a
    ready one does not call itself not loaded. -/
structure Degrades (predictor : ChurnPredictor K) (env : Environment K) : Prop where
  returns : (predictor.loadModel env).2 = .ok ()
  ready_iff : (predictor.step env).isReady = true ↔ ∃ session inputName, env.loads session inputName ∧
    (predictor.step env).session = some session ∧ (predictor.step env).inputName = some inputName
  loaded : (predictor.step env).isReady = true → ∀ features : List K, features.length = nFeatures →
    ∀ text, (predictor.step env).logit features ≠ .error (.runtimeError text)

/-- What holds a session and an input name fails in other ways only. -/
theorem logit_ne_runtimeError {session : InferenceSession K} {inputName : String}
    (hsession : predictor.session = some session)
    (hname : predictor.inputName = some inputName) (features : List K) (text : String) :
    predictor.logit features ≠ .error (.runtimeError text) := by
  unfold logit
  rw [hsession, hname]
  split
  · rename_i session' inputName' _ _
    split
    · split
      · nofun
      · nofun
    · nofun
  · rename_i hnone
    exact absurd rfl (hnone session inputName rfl)

theorem degrades_iff : Degrades predictor env ↔ ¬env.NoInputs := by
  rcases loadModel_cases predictor env with ⟨heq, hinputs, hloads⟩ | ⟨session, inputName, hloads, hinputs, heq⟩ |
    ⟨session, hnone, heq⟩
  · have hstep : predictor.step env = predictor.unloaded := congrArg Prod.fst heq
    refine iff_of_true ⟨congrArg Prod.snd heq, ?_, ?_⟩ hinputs
    · rw [hstep]
      refine iff_of_false (by simp [isReady, unloaded]) ?_
      rintro ⟨session, inputName, hload, -⟩
      exact hloads session inputName hload
    · intro hready
      rw [hstep] at hready
      cases hready
  · have hstep := congrArg Prod.fst heq
    have hsession : (predictor.step env).session = some session := congrArg ChurnPredictor.session hstep
    have hname : (predictor.step env).inputName = some inputName := congrArg ChurnPredictor.inputName hstep
    refine iff_of_true ⟨congrArg Prod.snd heq, ?_, ?_⟩ hinputs
    · refine iff_of_true ?_ ⟨session, inputName, hloads, hsession, hname⟩
      rw [isReady, hsession, Option.isSome_some]
    · intro _ features _ text
      exact logit_ne_runtimeError hsession hname features text
  · refine iff_of_false ?_ (not_not.mpr hnone)
    intro h
    have hreturns := h.returns
    rw [heq] at hreturns
    cases hreturns

end Call

/-- Every call of a run of calls degrades gracefully exactly when no call finds a model without inputs. -/
theorem loading_degrades_iff (predictor : ChurnPredictor K) (calls : List (Environment K)) :
    Meets ChurnPredictor.step Degrades predictor calls ↔ ∀ env ∈ calls, ¬env.NoInputs := by
  have hcalls : Meets ChurnPredictor.step Degrades predictor calls ↔
      Meets ChurnPredictor.step (fun _ env => ¬env.NoInputs) predictor calls :=
    ⟨fun h => h.mono fun _ _ => degrades_iff.mp, fun h => h.mono fun _ _ => degrades_iff.mpr⟩
  rw [hcalls, meets_iff_forall]

/-- A model without inputs raises `IndexError`. -/
theorem no_inputs_ready : ¬∀ calls : List (Environment ℚ),
    Meets ChurnPredictor.step Degrades (.new "/etc/models/churn_predictor.onnx") calls := by
  intro h
  have hcall := (h [⟨true, true, .ok (⟨id⟩, [])⟩]).1.returns
  cases hcall

end IrisService.Ml
