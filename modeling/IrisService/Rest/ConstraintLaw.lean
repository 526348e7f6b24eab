import IrisService.Rest.Driver

/-! Which requests keep the law of the constraints: all but three, whose handlers let the driver's exception through, and
    those whose ids the driver refuses. -/

namespace IrisService.Rest
open ReadCommitted

/-- The clock goes on by a microsecond from one reading to the next. -/
def ticks (k : Nat) : Clock := ⟨⟨2 * k, some 0⟩, ⟨2 * k + 1, some 0⟩⟩

/-! ### Whole requests -/

/-- What no step makes an answer of is no answer. -/
theorem Proceeds.escaped {v : View Row} {s : Session} {a : Action Row Session} (h : Proceeds v s a)
    (huncaught : s.response? = none → s.uncaught v = false)
    (hs : ∀ r, s.response? = some r → r.escaped ≠ some "IntegrityError") :
    a.All fun s' => ∀ r, s'.response? = some r → r.escaped ≠ some "IntegrityError" := by
  have hmoves : ∀ s', s.Moves s' → ∀ r, s'.response? = some r → r.escaped ≠ some "IntegrityError" := by
    intro s' hmoves r hr
    rw [hmoves.unanswered] at hr
    cases hr
  cases a with
  | next s' =>
    rcases h with ⟨-, rfl⟩ | hnext
    · exact hs
    · exact hmoves s' hnext
  | insert t row s' => exact fun id => hmoves (s' id) (h id).1
  | write cs s' => exact hmoves s' h.2.1
  | commit s' =>
    obtain ⟨r, hends, -, hescaped⟩ := h
    intro r' hr'
    rw [hends.response] at hr'
    cases hr'
    rw [hescaped]
    simp
  | rollback s' =>
    obtain ⟨r, hends, -, hescaped⟩ := h
    intro r' hr' heq
    rw [hends.response] at hr'
    cases hr'
    have hcaught := huncaught hends.unanswered
    rw [hescaped heq] at hcaught
    cases hcaught

section Served
variable {store : Store} {request : Request} (clock : Nat → Clock) (n : Nat)

end Served

/-- The migrated schema without rows. -/
def Store.empty : Store where
  rows := fun _ _ => none
  seq := fun _ => 0
  fresh _ _ _ := rfl
  migrated := ⟨by simp, by simp, by simp, by simp, by simp⟩

/-- A customer, a product, and an order with one line on it. -/
def Store.sold : Store :=
  (((empty.after (.createCustomer ⟨"Ada", "ada@example.org"⟩) ticks).after
    (.createProduct ⟨"Widget", none, 999, 10⟩) ticks).after (.createOrder 0) ticks).after (.addLine 0 ⟨0, 1⟩) ticks

end IrisService.Rest
