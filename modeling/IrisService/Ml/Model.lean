import Mathlib.Algebra.BigOperators.Fin
import Mathlib.Algebra.Order.Group.PosPart
import Mathlib.Algebra.Order.Ring.Defs

/-! `ml/model.py`: the network, over any ordered ring, in eval mode, where `Dropout` is the identity. -/

namespace IrisService.Ml

/-- `N_FEATURES` -/
abbrev nFeatures : Nat := 8

/-- `_HIDDEN_DIM` -/
abbrev hiddenDim : Nat := 16

variable {K : Type}

/-- `nn.Linear` -/
structure Linear (K : Type) (m n : Nat) where
  weight : Fin n → Fin m → K
  bias : Fin n → K

/-- `nn.Linear.forward` -/
def Linear.forward [Ring K] {m n : Nat} (l : Linear K m n) (x : Fin m → K) : Fin n → K :=
  fun i => ∑ j, l.weight i j * x j + l.bias i

/-- `nn.ReLU` -/
def relu [Ring K] [LinearOrder K] {n : Nat} (x : Fin n → K) : Fin n → K := fun i => max 0 (x i)

/-- `ChurnMLP` -/
structure ChurnMLP (K : Type) where
  input : Linear K nFeatures hiddenDim
  hidden : Linear K hiddenDim hiddenDim
  output : Linear K hiddenDim 1

/-- The raw logit. -/
def ChurnMLP.forward [Ring K] [LinearOrder K] (model : ChurnMLP K) (x : Fin nFeatures → K) : K :=
  model.output.forward (relu (model.hidden.forward (relu (model.input.forward x)))) 0

/-- An ONNX session: a batch of rows to the rows of `logits`. -/
structure InferenceSession (K : Type) where
  run : List (List K) → List (List K)

/-- `export_to_onnx` -/
def exportToOnnx [Ring K] [LinearOrder K] (model : ChurnMLP K) : InferenceSession K where
  run batch := batch.map fun row => [model.forward fun i => row.getD i 0]

/-! ### A network can single out each of its inputs -/

section Projection
variable [Ring K] [LinearOrder K]

/-- The first two units of a layer carry the positive and the negative part of a number. -/
def part (k : Fin hiddenDim) : K := if k = 0 then 1 else if k = 1 then -1 else 0

/-- The network that returns its input `i`. -/
def ChurnMLP.projection (i : Fin nFeatures) : ChurnMLP K where
  input := ⟨fun k j => if j = i then part k else 0, fun _ => 0⟩
  hidden := ⟨fun k j => part k * part j, fun _ => 0⟩
  output := ⟨fun _ j => part j, fun _ => 0⟩

omit [LinearOrder K] in
theorem sum_part (y : Fin hiddenDim → K) : ∑ j, part j * y j = y 0 - y 1 := by
  rw [Fin.sum_univ_succ, Fin.sum_univ_succ]
  have hrest : ∑ j : Fin 14, part j.succ.succ * y j.succ.succ = 0 := by
    refine Finset.sum_eq_zero fun j _ => ?_
    have h0 : j.succ.succ ≠ 0 := Fin.succ_ne_zero _
    have h1 : j.succ.succ ≠ 1 := by
      intro h
      exact Fin.succ_ne_zero j (Fin.succ_injective _ h)
    rw [part, if_neg h0, if_neg h1, zero_mul]
  rw [hrest]
  simp [part, sub_eq_add_neg]

variable [IsStrictOrderedRing K]

/-- A number is carried through a layer of `ReLU`s by its two parts. -/
theorem relu_part (a : K) : relu (fun k : Fin hiddenDim => part k * a) 0 - relu (fun k => part k * a) 1 = a := by
  have hparts : max 0 a - max 0 (-a) = a := by
    rw [max_comm 0 a, max_comm 0 (-a)]
    exact posPart_sub_negPart a
  simpa [relu, part] using hparts

theorem ChurnMLP.forward_projection (i : Fin nFeatures) (x : Fin nFeatures → K) :
    (ChurnMLP.projection i).forward x = x i := by
  have hinput : (ChurnMLP.projection i : ChurnMLP K).input.forward x = fun k => part k * x i := by
    funext k
    simp [ChurnMLP.projection, Linear.forward]
  have hhidden : ∀ y : Fin hiddenDim → K,
      (ChurnMLP.projection i : ChurnMLP K).hidden.forward y = fun k => part k * (y 0 - y 1) := by
    intro y
    funext k
    simp only [ChurnMLP.projection, Linear.forward, mul_assoc, ← Finset.mul_sum, sum_part, add_zero]
  have houtput : ∀ y : Fin hiddenDim → K, (ChurnMLP.projection i : ChurnMLP K).output.forward y 0 = y 0 - y 1 := by
    intro y
    simp only [ChurnMLP.projection, Linear.forward, sum_part, add_zero]
  rw [ChurnMLP.forward, hinput, hhidden, houtput, relu_part, relu_part]

end Projection

end IrisService.Ml
