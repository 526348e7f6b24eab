import IrisService.Library.RunningBest
import Mathlib.Algebra.GroupWithZero.Nat

/-! `_train_with_early_stop` of `ml/train_churn.py`, over any weights and any order of scores. -/

namespace IrisService.Ml.EarlyStop
open RunningBest

/-- What `_evaluate` returns. -/
structure Metrics (K : Type) where
  auc : K
  averagePrecision : K
  brier : K
  trueNegatives : Nat
  falsePositives : Nat
  falseNegatives : Nat
  truePositives : Nat

/-- An epoch changes the weights `W` and the state `O` of the optimizer; the data are the same in each epoch, their
    order is not. -/
structure Training (W O K : Type) where
  trainOneEpoch : Nat → W × O → W × O
  evaluate : W → Metrics K

/-- The variables of the loop. -/
structure Loop (W O K : Type) where
  weights : W
  optimizer : O
  bestAuc : K
  bestState : W
  bestEpoch : Nat
  patienceCounter : Nat
  epoch : Nat

namespace Training
variable {W O K : Type} [LinearOrder K] [Zero K] (t : Training W O K)

/-- One iteration, and whether it breaks out of the loop. -/
def iterate (patience : Nat) (l : Loop W O K) (epoch : Nat) : Loop W O K × Bool :=
  let (weights, optimizer) := t.trainOneEpoch epoch (l.weights, l.optimizer)
  let metrics := t.evaluate weights
  let l := { l with weights, optimizer, epoch }
  if l.bestAuc < metrics.auc then
    ({ l with bestAuc := metrics.auc, bestState := weights, bestEpoch := epoch, patienceCounter := 0 }, false)
  else ({ l with patienceCounter := l.patienceCounter + 1 }, decide (patience ≤ l.patienceCounter + 1))

/-- `for epoch in …`, with its `break`. -/
def loop (patience : Nat) : List Nat → Loop W O K → Loop W O K
  | [], l => l
  | epoch :: epochs, l =>
    let next := t.iterate patience l epoch
    if next.2 then next.1 else loop patience epochs next.1

/-- The loop over `range(1, max_epochs + 1)`. -/
def epochs (maxEpochs patience : Nat) (weights : W) (optimizer : O) : Loop W O K :=
  t.loop patience (List.range' 1 maxEpochs) ⟨weights, optimizer, 0, weights, 0, 0, 0⟩

/-- `_train_with_early_stop`: the weights, their metrics, the best epoch. -/
def trainWithEarlyStop (maxEpochs patience : Nat) (weights : W) (optimizer : O) : W × Metrics K × Nat :=
  let l := t.epochs maxEpochs patience weights optimizer
  (l.bestState, t.evaluate l.bestState, l.bestEpoch)

/-- The gate of `main`: the weights that are exported, if any. -/
def exported (maxEpochs patience : Nat) (aucGate : K) (weights : W) (optimizer : O) : Option W :=
  let (model, metrics, _) := t.trainWithEarlyStop maxEpochs patience weights optimizer
  if metrics.auc < aucGate then none else some model

/-! ### What the epochs come to -/

/-- The weights and the optimizer after some epochs without a stop. -/
def after (weights : W) (optimizer : O) : Nat → W × O
  | 0 => (weights, optimizer)
  | n + 1 => t.trainOneEpoch (n + 1) (after weights optimizer n)

/-- The AUC after some epochs. -/
def auc (weights : W) (optimizer : O) (n : Nat) : K := (t.evaluate (t.after weights optimizer n).1).auc

variable {t} {patience : Nat} {weights : W} {optimizer : O} {l : Loop W O K} {n : Nat}

/-- The epoch is `patience` epochs (or more) past the last strict improvement of the best AUC. -/
def OutOfPatience (t : Training W O K) (patience : Nat) (weights : W) (optimizer : O) (n : Nat) : Prop :=
  patience ≤ n - lastImprovement 0 (t.auc weights optimizer) n

/-- The variables after `n` epochs. -/
structure LoopInv (t : Training W O K) (weights : W) (optimizer : O) (n : Nat) (l : Loop W O K) : Prop where
  epoch : l.epoch = n
  model : (l.weights, l.optimizer) = t.after weights optimizer n
  bestAuc : l.bestAuc = best 0 (t.auc weights optimizer) n
  bestEpoch : l.bestEpoch = lastImprovement 0 (t.auc weights optimizer) n
  bestState : l.bestState = (t.after weights optimizer (lastImprovement 0 (t.auc weights optimizer) n)).1
  patienceCounter : l.patienceCounter = n - lastImprovement 0 (t.auc weights optimizer) n

theorem LoopInv.init (t : Training W O K) (weights : W) (optimizer : O) :
    LoopInv t weights optimizer 0 ⟨weights, optimizer, 0, weights, 0, 0, 0⟩ :=
  ⟨rfl, rfl, rfl, rfl, rfl, rfl⟩

/-- An iteration keeps the invariant, and breaks when it is out of patience. -/
theorem LoopInv.iterate (h : LoopInv t weights optimizer n l) (hpatience : 1 ≤ patience) :
    LoopInv t weights optimizer (n + 1) (t.iterate patience l (n + 1)).1 ∧
      ((t.iterate patience l (n + 1)).2 = true ↔ OutOfPatience t patience weights optimizer (n + 1)) := by
  have hmodel : t.trainOneEpoch (n + 1) (l.weights, l.optimizer) = t.after weights optimizer (n + 1) := by
    rw [h.model]
    rfl
  have hauc : (t.evaluate (t.after weights optimizer (n + 1)).1).auc = t.auc weights optimizer (n + 1) := rfl
  unfold Training.iterate OutOfPatience
  simp only [hmodel, hauc, h.bestAuc]
  by_cases himproved : best 0 (t.auc weights optimizer) n < t.auc weights optimizer (n + 1)
  · rw [if_pos himproved, lastImprovement_succ_of_lt himproved]
    refine ⟨⟨rfl, rfl, (best_succ_of_lt himproved).symm, ?_, ?_, ?_⟩, iff_of_false nofun (by omega)⟩
    · rw [lastImprovement_succ_of_lt himproved]
    · rw [lastImprovement_succ_of_lt himproved]
    · rw [lastImprovement_succ_of_lt himproved, Nat.sub_self]
  · have hle := lastImprovement_le 0 (t.auc weights optimizer) n
    have hcounter : l.patienceCounter + 1 = n + 1 - lastImprovement 0 (t.auc weights optimizer) n := by
      rw [h.patienceCounter]
      omega
    rw [if_neg himproved, lastImprovement_succ_of_not_lt himproved]
    refine ⟨⟨rfl, rfl, (best_succ_of_not_lt himproved).symm, ?_, ?_, ?_⟩, ?_⟩
    · rw [lastImprovement_succ_of_not_lt himproved]
      exact h.bestEpoch
    · rw [lastImprovement_succ_of_not_lt himproved]
      exact h.bestState
    · rw [lastImprovement_succ_of_not_lt himproved]
      exact hcounter
    · rw [decide_eq_true_iff, hcounter]

/-- The loop ends at the first epoch that is out of patience, or with its last one. -/
theorem LoopInv.loop (h : LoopInv t weights optimizer n l) (hpatience : 1 ≤ patience) (k : Nat) :
    ∃ m, n ≤ m ∧ m ≤ n + k ∧ LoopInv t weights optimizer m (t.loop patience (List.range' (n + 1) k) l) ∧
      (n < m ∧ OutOfPatience t patience weights optimizer m ∨ m = n + k) ∧
      ∀ e, n < e → e < m → ¬OutOfPatience t patience weights optimizer e := by
  induction k generalizing n l with
  | zero => exact ⟨n, le_refl n, le_refl n, h, Or.inr rfl, fun e hlow hhigh => by omega⟩
  | succ k ih =>
    obtain ⟨hnext, hbreak⟩ := h.iterate hpatience
    rw [List.range'_succ, Training.loop]
    by_cases hstop : (t.iterate patience l (n + 1)).2 = true
    · rw [if_pos hstop]
      exact ⟨n + 1, by omega, by omega, hnext, Or.inl ⟨by omega, hbreak.mp hstop⟩, fun e hlow hhigh => by omega⟩
    · rw [if_neg hstop]
      obtain ⟨m, hnm, hmk, hinv, hend, hgo⟩ := ih hnext
      refine ⟨m, by omega, by omega, hinv, ?_, fun e hlow hhigh => ?_⟩
      · rcases hend with ⟨hlt, hout⟩ | hlast
        · exact Or.inl ⟨by omega, hout⟩
        · exact Or.inr (by omega)
      · rcases Nat.lt_or_eq_of_le hlow with hlt | heq
        · exact hgo e hlt hhigh
        · rw [← heq]
          exact fun hout => hstop (hbreak.mpr hout)

/-- What is returned when the loop has ended. -/
theorem LoopInv.result {maxEpochs last : Nat}
    (h : LoopInv t weights optimizer last (t.epochs maxEpochs patience weights optimizer)) :
    t.trainWithEarlyStop maxEpochs patience weights optimizer =
      ((t.after weights optimizer (lastImprovement 0 (t.auc weights optimizer) last)).1,
        t.evaluate (t.after weights optimizer (lastImprovement 0 (t.auc weights optimizer) last)).1,
        lastImprovement 0 (t.auc weights optimizer) last) := by
  rw [trainWithEarlyStop, h.bestState, h.bestEpoch]

end Training

/-- The loop ends where it should, and what is returned, evaluated against the gate and exported is the model of the
    earliest epoch with the best AUC of those run. -/
theorem keeps_best_model {W O K : Type} [LinearOrder K] [Zero K] (t : Training W O K) (maxEpochs patience : Nat)
    (weights : W) (optimizer : O) (hmax : 1 ≤ maxEpochs) (hpatience : 1 ≤ patience) : ∃ last,
    (t.epochs maxEpochs patience weights optimizer).epoch = last ∧ 1 ≤ last ∧ last ≤ maxEpochs ∧
    (t.OutOfPatience patience weights optimizer last ∨ last = maxEpochs) ∧
    (∀ e, 1 ≤ e → e < last → ¬t.OutOfPatience patience weights optimizer e) ∧
    ((∃ e, 1 ≤ e ∧ e ≤ last ∧ 0 < t.auc weights optimizer e) → ∃ metrics bestEpoch,
      t.trainWithEarlyStop maxEpochs patience weights optimizer =
        ((t.after weights optimizer bestEpoch).1, metrics, bestEpoch) ∧
      1 ≤ bestEpoch ∧ bestEpoch ≤ last ∧ metrics.auc = t.auc weights optimizer bestEpoch ∧
      (∀ e, 1 ≤ e → e ≤ last → t.auc weights optimizer e ≤ metrics.auc) ∧
      (∀ e, 1 ≤ e → e < bestEpoch → t.auc weights optimizer e < metrics.auc) ∧
      ∀ aucGate, t.exported maxEpochs patience aucGate weights optimizer =
        if metrics.auc < aucGate then none else some (t.after weights optimizer bestEpoch).1) := by
  obtain ⟨last, -, hmost, hinv, hend, hgo⟩ := (Training.LoopInv.init t weights optimizer).loop hpatience maxEpochs
  rw [Nat.zero_add] at hmost hend
  have hlast : 1 ≤ last := by
    rcases hend with ⟨hpos, -⟩ | rfl
    · exact hpos
    · exact hmax
  refine ⟨last, hinv.epoch, hlast, hmost, hend.imp_left And.right, fun e he => hgo e he, ?_⟩
  rintro ⟨e, hpos, he, hauc⟩
  have hne := lastImprovement_ne_zero hpos he hauc
  obtain ⟨hbest, -, hearlier⟩ := lastImprovement_spec hne
  have hresult := Training.LoopInv.result hinv
  refine ⟨_, _, hresult, Nat.one_le_iff_ne_zero.mpr hne, lastImprovement_le 0 _ last, rfl, fun e hpos he => ?_, hearlier,
    fun aucGate => ?_⟩
  · exact (le_best hpos he).trans_eq hbest
  · rw [Training.exported, hresult]

/-- Weights that count the epochs, whose AUC in percent rises until the third epoch and then falls. -/
def risesThenFalls : Training Nat Unit Nat where
  trainOneEpoch _ model := (model.1 + 1, model.2)
  evaluate weights := ⟨90 - 10 * (max weights 3 - min weights 3), 0, 0, 0, 0, 0, 0⟩

theorem keeps_third_epoch : ∃ last, (risesThenFalls.epochs 20 4 0 ()).epoch = last ∧ 1 ≤ last ∧ last ≤ 20 ∧
    (risesThenFalls.OutOfPatience 4 0 () last ∨ last = 20) ∧
    (∀ e, 1 ≤ e → e < last → ¬risesThenFalls.OutOfPatience 4 0 () e) ∧
    ((∃ e, 1 ≤ e ∧ e ≤ last ∧ 0 < risesThenFalls.auc 0 () e) → ∃ metrics bestEpoch,
      risesThenFalls.trainWithEarlyStop 20 4 0 () = ((risesThenFalls.after 0 () bestEpoch).1, metrics, bestEpoch) ∧
      1 ≤ bestEpoch ∧ bestEpoch ≤ last ∧ metrics.auc = risesThenFalls.auc 0 () bestEpoch ∧
      (∀ e, 1 ≤ e → e ≤ last → risesThenFalls.auc 0 () e ≤ metrics.auc) ∧
      (∀ e, 1 ≤ e → e < bestEpoch → risesThenFalls.auc 0 () e < metrics.auc) ∧
      ∀ aucGate, risesThenFalls.exported 20 4 aucGate 0 () =
        if metrics.auc < aucGate then none else some (risesThenFalls.after 0 () bestEpoch).1) :=
  keeps_best_model risesThenFalls 20 4 0 () (by decide) (by decide)

end IrisService.Ml.EarlyStop
