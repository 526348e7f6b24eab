import Mathlib.Data.List.Chain
import Mathlib.Data.List.Basic

/-! Runs of a machine given by a total step function. A schedule is a list of labels; a label that does
    nothing in the current state is a step that leaves it. A run may be constrained by a condition on each
    step, read in the state before it (`Meets`). -/

namespace Runs

variable {σ ε α : Type}

/-- The state a schedule leads to. -/
def run (step : σ → ε → σ) : σ → List ε → σ
  | s, [] => s
  | s, e :: es => run step (step s e) es

/-- The states a schedule passes through, the first one included. -/
def states (step : σ → ε → σ) : σ → List ε → List σ
  | s, [] => [s]
  | s, e :: es => s :: states step (step s e) es

/-- Every step of the schedule meets `ok` in the state it is taken from. -/
def Meets (step : σ → ε → σ) (ok : σ → ε → Prop) : σ → List ε → Prop
  | _, [] => True
  | s, e :: es => ok s e ∧ Meets step ok (step s e) es

/-- The successive values of an observation that some states do not have. -/
def history (step : σ → ε → σ) (f : σ → Option α) (s : σ) (es : List ε) : List α :=
  (states step s es).filterMap f

variable {step : σ → ε → σ} {ok ok' : σ → ε → Prop} {P : σ → Prop} {s : σ} {es : List ε}

theorem run_append (s : σ) (es es' : List ε) : run step s (es ++ es') = run step (run step s es) es' := by
  induction es generalizing s with
  | nil => rfl
  | cons e es ih => exact ih (step s e)

theorem run_concat (s : σ) (es : List ε) (e : ε) : run step s (es ++ [e]) = step (run step s es) e :=
  run_append s es [e]

theorem states_concat (s : σ) (es : List ε) (e : ε) :
    states step s (es ++ [e]) = states step s es ++ [step (run step s es) e] := by
  induction es generalizing s with
  | nil => rfl
  | cons e' es ih => exact congrArg (s :: ·) (ih (step s e'))

/-- A property of a state together with the labels that led to it. -/
theorem run_induction {P : List ε → σ → Prop} (h0 : P [] s)
    (hstep : ∀ es e, P es (run step s es) → P (es ++ [e]) (step (run step s es) e)) (es : List ε) :
    P es (run step s es) := by
  induction es using List.reverseRecOn with
  | nil => exact h0
  | append_singleton es e ih =>
    rw [run_concat]
    exact hstep es e ih

/-! ### Invariants -/

/-- A property that each admitted step keeps holds in every state of an admitted run. -/
theorem Meets.states (h : Meets step ok s es) (h0 : P s) (hstep : ∀ s e, P s → ok s e → P (step s e)) :
    ∀ t ∈ states step s es, P t := by
  induction es generalizing s with
  | nil =>
    intro t ht
    rw [List.mem_singleton.mp ht]
    exact h0
  | cons e es ih =>
    intro t ht
    rcases List.mem_cons.mp ht with rfl | ht
    · exact h0
    · exact ih h.2 (hstep s e h0 h.1) t ht

theorem run_mem_states (s : σ) (es : List ε) : run step s es ∈ Runs.states step s es := by
  induction es generalizing s with
  | nil => exact List.mem_singleton_self s
  | cons e es ih => exact List.mem_cons_of_mem _ (ih (step s e))

theorem Meets.run (h : Meets step ok s es) (h0 : P s) (hstep : ∀ s e, P s → ok s e → P (step s e)) :
    P (run step s es) :=
  h.states h0 hstep _ (run_mem_states s es)

/-- If a property of the states reached forces a condition on each step, every step meets it. -/
theorem meets_of_states {Q : σ → Prop} (h : ∀ t ∈ Runs.states step s es, Q t) (h0 : P s)
    (hstep : ∀ s e, P s → P (step s e)) (hok : ∀ s e, P s → Q (step s e) → ok s e) : Meets step ok s es := by
  induction es generalizing s with
  | nil => trivial
  | cons e es ih =>
    have htail : ∀ t ∈ Runs.states step (step s e) es, Q t := fun t ht => h t (List.mem_cons_of_mem s ht)
    have hnext : step s e ∈ Runs.states step (step s e) es := by
      cases es <;> exact List.mem_cons_self
    exact ⟨hok s e h0 (htail _ hnext), ih htail (hstep s e h0)⟩

/-- What no step of the schedule changes is unchanged at its end. -/
theorem run_eq {f : σ → α} (h : ∀ e ∈ es, ∀ s, f (step s e) = f s) : f (run step s es) = f s := by
  induction es generalizing s with
  | nil => rfl
  | cons e es ih =>
    rw [run, ih fun e' he' => h e' (List.mem_cons_of_mem e he')]
    exact h e List.mem_cons_self s

theorem meets_true (s : σ) (es : List ε) : Meets step (fun _ _ => True) s es := by
  induction es generalizing s with
  | nil => trivial
  | cons e es ih => exact ⟨trivial, ih (step s e)⟩

/-- A condition on the labels alone. -/
theorem meets_iff_forall {ok : ε → Prop} : Meets step (fun _ e => ok e) s es ↔ ∀ e ∈ es, ok e := by
  induction es generalizing s with
  | nil => simp [Meets]
  | cons e es ih => rw [Meets, ih, List.forall_mem_cons]

/-- Conditions can be exchanged under an invariant of the steps the first one admits. -/
theorem Meets.mono_of_inv (h : Meets step ok s es) (h0 : P s) (hstep : ∀ s e, P s → ok s e → P (step s e))
    (himp : ∀ s e, P s → ok s e → ok' s e) : Meets step ok' s es := by
  induction es generalizing s with
  | nil => trivial
  | cons e es ih => exact ⟨himp s e h0 h.1, ih h.2 (hstep s e h0 h.1)⟩

theorem Meets.mono (h : Meets step ok s es) (himp : ∀ s e, ok s e → ok' s e) : Meets step ok' s es :=
  h.mono_of_inv (P := fun _ => True) trivial (fun _ _ _ _ => trivial) fun s e _ => himp s e

/-- A condition on each step, read after the steps before it. -/
theorem meets_of_take (h : ∀ k e, es[k]? = some e → ok (Runs.run step s (es.take k)) e) : Meets step ok s es := by
  induction es generalizing s with
  | nil => trivial
  | cons e es ih => exact ⟨h 0 e rfl, ih fun k e' he => h (k + 1) e' he⟩

theorem meets_append {es' : List ε} :
    Meets step ok s (es ++ es') ↔ Meets step ok s es ∧ Meets step ok (Runs.run step s es) es' := by
  induction es generalizing s with
  | nil => exact ⟨fun h => ⟨trivial, h⟩, fun h => h.2⟩
  | cons e es ih =>
    refine ⟨fun h => ?_, fun h => ⟨h.1.1, ih.mpr ⟨h.1.2, h.2⟩⟩⟩
    obtain ⟨hes, hes'⟩ := ih.mp h.2
    exact ⟨⟨h.1, hes⟩, hes'⟩

theorem Meets.and (h : Meets step ok s es) (h' : Meets step ok' s es) :
    Meets step (fun s e => ok s e ∧ ok' s e) s es := by
  induction es generalizing s with
  | nil => trivial
  | cons e es ih => exact ⟨⟨h.1, h'.1⟩, ih h.2 h'.2⟩

/-! ### How long a condition has held -/

/-- The number of the last states of a run, one after another, that meet the condition. -/
def held (step : σ → ε → σ) (p : σ → Bool) (s : σ) (es : List ε) : Nat := ((states step s es).reverse.takeWhile p).length

section Held
variable {p : σ → Bool}

theorem held_concat (e : ε) :
    held step p s (es ++ [e]) = if p (step (Runs.run step s es) e) then held step p s es + 1 else 0 := by
  rw [held, states_concat, List.reverse_append, List.reverse_singleton, List.singleton_append, List.takeWhile_cons]
  split
  · rw [List.length_cons, held]
  · rfl

/-- A condition that does not hold at the end has not held at all. -/
theorem held_eq_zero_iff : held step p s es = 0 ↔ p (Runs.run step s es) = false := by
  induction es using List.reverseRecOn with
  | nil => cases hp : p s <;> simp [held, Runs.states, Runs.run, hp]
  | append_singleton es e =>
    rw [held_concat, run_concat]
    cases p (step (Runs.run step s es) e) <;> simp

end Held

/-! ### Histories -/

section History
variable {f : σ → Option α} {R : α → α → Prop} {gone : σ → Prop}

/-- Once gone, an observation does not come back, so the rest of its history is empty. -/
theorem history_eq_nil (hgone : ∀ s, gone s → f s = none) (hstay : ∀ s e, gone s → gone (step s e)) (h : gone s) :
    history step f s es = [] := by
  rw [history, List.filterMap_eq_nil_iff]
  intro t ht
  exact hgone t ((meets_true s es).states h (fun s e hs _ => hstay s e hs) t ht)

theorem history_cons (f : σ → Option α) (s : σ) (e : ε) (es : List ε) :
    history step f s (e :: es) = (f s).toList ++ history step f (step s e) es := by
  cases h : f s <;> simp [history, states, h]

/-- The first value of a history is the present one. -/
theorem head_history (step : σ → ε → σ) (es : List ε) {b : α} (h : f s = some b) :
    ∃ l, history step f s es = b :: l := by
  cases es with
  | nil => exact ⟨[], by simp [history, states, h]⟩
  | cons e es => exact ⟨history step f (step s e) es, by rw [history_cons, h]; rfl⟩

/-- A history whose values, once gone, never come back is a path of `R` when each step moves along `R`. -/
theorem Meets.isChain_history (gone : σ → Prop) (hgone : ∀ s, gone s → f s = none)
    (hstay : ∀ s e, gone s → gone (step s e))
    (h : Meets step (fun s e => (∀ a, f s = some a → f (step s e) = none → gone (step s e)) ∧
      ∀ a b, f s = some a → f (step s e) = some b → R a b) s es) :
    (history step f s es).IsChain R := by
  induction es generalizing s with
  | nil => cases hs : f s <;> simp [history, Runs.states, hs]
  | cons e es ih =>
    have ht := ih h.2
    rw [history_cons]
    cases hs : f s with
    | none => exact ht
    | some a =>
      cases ht' : f (step s e) with
      | none =>
        rw [history_eq_nil hgone hstay (h.1.1 a hs ht')]
        exact List.isChain_singleton a
      | some b =>
        obtain ⟨l, hl⟩ := head_history step es ht'
        rw [hl] at ht ⊢
        exact List.IsChain.cons_cons (h.1.2 a b hs ht') ht

/-- A history that is a path of `R` moves along `R` at each step. -/
theorem meets_of_isChain_history (h : (history step f s es).IsChain R) :
    Meets step (fun s e => ∀ a b, f s = some a → f (step s e) = some b → R a b) s es := by
  induction es generalizing s with
  | nil => trivial
  | cons e es ih =>
    rw [history_cons] at h
    refine ⟨fun a b ha hb => ?_, ih h.right_of_append⟩
    obtain ⟨l, hl⟩ := head_history step es hb
    rw [ha, hl] at h
    exact List.IsChain.rel h

end History

end Runs
