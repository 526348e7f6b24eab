import IrisService.Library.ReadCommitted
import IrisService.Library.Runs

/-! Machines that differ in hidden steps: what is seen of the one takes the steps of the other and, in between, rests. -/

namespace Runs

variable {σ τ ε : Type}

/-- The events of a schedule that are not hidden in the state that meets them. -/
def shown (step : σ → ε → σ) (hidden : σ → ε → Bool) : σ → List ε → List ε
  | _, [] => []
  | s, e :: es => if hidden s e then shown step hidden (step s e) es else e :: shown step hidden (step s e) es

/-- Seen through `see`, a hidden step changes nothing and any other is the step of the second machine. -/
structure Hides (step : σ → ε → σ) (step' : τ → ε → τ) (see : σ → τ) (hidden : σ → ε → Bool) : Prop where
  rests : ∀ s e, hidden s e = true → see (step s e) = see s
  moves : ∀ s e, hidden s e = false → see (step s e) = step' (see s) e

section Shown
variable {step : σ → ε → σ} {step' : τ → ε → τ} {see : σ → τ} {hidden : σ → ε → Bool} {ok : σ → ε → Prop} {s : σ}

theorem shown_sublist (s : σ) (es : List ε) : (shown step hidden s es).Sublist es := by
  induction es generalizing s with
  | nil => exact List.Sublist.slnil
  | cons e es ih =>
    unfold shown
    split
    · exact (ih (step s e)).cons e
    · exact (ih (step s e)).cons_cons e

theorem shown_append (s : σ) (es es' : List ε) :
    shown step hidden s (es ++ es') = shown step hidden s es ++ shown step hidden (run step s es) es' := by
  induction es generalizing s with
  | nil => rfl
  | cons e es ih =>
    simp only [List.cons_append, shown, run]
    split
    · exact ih (step s e)
    · rw [ih, List.cons_append]

/-- What is seen of a run is the run of the events shown. -/
theorem Hides.see_run (h : Hides step step' see hidden) (s : σ) (es : List ε) :
    see (run step s es) = run step' (see s) (shown step hidden s es) := by
  induction es generalizing s with
  | nil => rfl
  | cons e es ih =>
    rw [shown, run, ih]
    cases hhidden : hidden s e with
    | true => rw [if_pos rfl, h.rests s e hhidden]
    | false => rw [if_neg Bool.false_ne_true, h.moves s e hhidden, run]

/-- If hidden steps can always be got over in a way that meets `ok`, every run of the second machine is seen. -/
theorem exists_shown (h : ∀ s e, ∃ es, Meets step ok s es ∧ shown step hidden s es = [e]) (s : σ) (es : List ε) :
    ∃ es', Meets step ok s es' ∧ shown step hidden s es' = es := by
  induction es generalizing s with
  | nil => exact ⟨[], trivial, rfl⟩
  | cons e es ih =>
    obtain ⟨first, hfirst, hshown⟩ := h s e
    obtain ⟨rest, hrest, hshown'⟩ := ih (run step s first)
    exact ⟨first ++ rest, meets_append.mpr ⟨hfirst, hrest⟩, by rw [shown_append, hshown, hshown']; rfl⟩

end Shown

end Runs

/-! ### Transactions seen through the states of their code -/

namespace ReadCommitted

variable {T : Type} {Row : T → Type} {S S' : Type}

/-- The same store, with the states of the clients seen through `f`. -/
def Db.see (f : S → S') (d : Db Row S) : Db Row S' where
  committed := d.committed
  seq := d.seq
  lock := d.lock
  client i := ⟨f (d.client i).state, (d.client i).writes⟩

section See
variable {f : S → S'} {d : Db Row S} {i : Nat}

@[simp] theorem Db.see_view : (d.see f).view i = d.view i := rfl

theorem Db.see_update {c : Client Row S} : (fun j => (⟨f (Function.update d.client i c j).state,
    (Function.update d.client i c j).writes⟩ : Client Row S')) =
      Function.update (d.see f).client i ⟨f c.state, c.writes⟩ := by
  funext j
  by_cases hj : j = i
  · subst hj
    rw [Function.update_self, Function.update_self]
  · rw [Function.update_of_ne hj, Function.update_of_ne hj]
    rfl

variable [DecidableEq T]

theorem Db.see_perform (a : Action Row S) : (d.perform i a).see f = (d.see f).perform i (a.map f) := by
  cases a with
  | next s => simp only [perform, Action.map, see, see_update]
  | insert t row s => simp only [perform, Action.map, put, see, see_update]
  | write cs s =>
    have hwritable : (d.see f).writable i = d.writable i := rfl
    simp only [perform, Action.map, hwritable]
    split
    · simp only [put, see, see_update]
    · rfl
  | commit s =>
    simp only [perform, Action.map, finish, see, see_update]
    rfl
  | rollback s =>
    simp only [perform, Action.map, finish, see, see_update]
    rfl

end See

end ReadCommitted
