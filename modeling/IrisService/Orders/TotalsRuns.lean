import Mathlib.Tactic.IntervalCases
import IrisService.Orders.TotalsInv

/-! The totals of the orders over whole runs. -/

namespace IrisService.Orders
open ReadCommitted Products Runs

/-- A migrated store at rest: the sequences are ahead of the rows, and each line has its order. -/
structure Store where
  rows : Rows Row
  seq : Table → Nat
  fresh : ∀ t id, seq t ≤ id → rows t id = none
  fkOrder : ∀ id l, rows .orderLine id = some l → rows .orders (OrderLine.orderId l) ≠ none

/-- Every order that the rows hold has the sum of its lines as its total. -/
def TotalsMatch (rows : Rows Row) (seq : Table → Nat) : Prop :=
  ∀ o order, rows .orders o = some order → Order.totalAmount order = sumOf (seq .orderLine) rows o

/-- The store with one client for each request. -/
def Store.serve (store : Store) (requests : Nat → Request) : State := initial store.rows store.seq requests

theorem Store.balanced {store : Store} (h : TotalsMatch store.rows store.seq) (requests : Nat → Request) :
    Balanced (store.serve requests) := by
  intro o
  show totalOf store.rows o = sumOf (store.seq .orderLine) store.rows o
  cases horder : store.rows .orders o with
  | some order =>
    rw [← h o order horder]
    simp [totalOf, horder]
  | none =>
    have hzero : ∀ id ∈ Finset.range (store.seq .orderLine), lineAmount (store.rows .orderLine id) o = 0 := by
      intro id _
      cases hl : store.rows .orderLine id with
      | none => rfl
      | some l =>
        refine if_neg ?_
        rintro rfl
        exact store.fkOrder id l hl horder
    rw [sumOf, Finset.sum_eq_zero hzero]
    simp [totalOf, horder]

theorem TotalsMatch.of_balanced {d : State} (h : Balanced d) : TotalsMatch d.committed d.seq := by
  intro o order horder
  rw [← h o]
  simp [totalOf, horder]

theorem Request.open_phase (r : Request) : r.open.phase = .clean ∧ r.open.deleting = none := by
  cases r <;> exact ⟨rfl, rfl⟩

theorem Request.open_kept {r : Request} (h : ∀ o, r ≠ .deleteOrder o) : r.open.deletesOrder = false := by
  cases r with
  | deleteOrder o => exact absurd rfl (h o)
  | _ => rfl

theorem Store.totalsInv {store : Store} {requests : Nat → Request} (h : TotalsMatch store.rows store.seq)
    (hkeep : ∀ i o, requests i ≠ .deleteOrder o) : TotalsInv (store.serve requests) where
  wf := Db.Wf.start store.fresh
  balanced := store.balanced h requests
  ok i := by
    show Ok _ _ _ (requests i).open.phase
    rw [(requests i).open_phase.1]
    exact Ok.empty
  alone i j o hi _ := by
    obtain ⟨t, ht⟩ : (requests i).open.phase.Holds o := hi
    rw [(requests i).open_phase.1] at ht
    rcases ht with ht | ht <;> cases ht
  sameOrder id l l' hl hl' := by
    have hcommitted : ∀ {l}, (store.serve requests).Version .orderLine id l → store.rows .orderLine id = some l := by
      rintro l (hl | ⟨i, hl⟩)
      · exact hl
      · cases hl
    have heq := (hcommitted hl).symm.trans (hcommitted hl')
    cases heq
    rfl
  deleting i id o hdel := by
    have hnone : (requests i).open.deleting = some (id, o) := hdel
    rw [(requests i).open_phase.2] at hnone
    cases hnone
  kept i := Request.open_kept (hkeep i)

/-- Under the condition on the summing steps, each committed order has the sum of its lines as its total, in
    every state of every run. -/
theorem totals_match_of_safe_recompute (store : Store) (requests : Nat → Request)
    (h0 : TotalsMatch store.rows store.seq) (hkeep : ∀ i o, requests i ≠ .deleteOrder o) (es : List (Event Env))
    (hsafe : Meets step SafeRecompute (store.serve requests) es) :
    ∀ d ∈ states step (store.serve requests) es, TotalsMatch d.committed d.seq := fun d hd =>
  .of_balanced (hsafe.states (store.totalsInv h0 hkeep) (fun _ _ h hok => h.step hok) d hd).balanced

/-! ### Two lines added at once -/

def midnight : DateTime := ⟨0, some 0⟩

/-- One customer and one product, and no orders yet. -/
def shop : Store where
  rows
    | .customer, 1 => some ⟨"Ada", "ada@example.com", midnight⟩
    | .product, 1 => some ⟨"Book", none, 1000, 10, midnight, midnight⟩
    | _, _ => none
  seq
    | .customer | .product => 2
    | _ => 1
  fresh t id h := by
    rcases id with _ | _ | id
    · cases t <;> cases h
    · cases t <;> first | rfl | (simp at h)
    · cases t <;> rfl
  fkOrder id l h := by cases h

/-- An order, two lines for it at once, and readers. -/
def twoLines : Nat → Request
  | 0 => .createOrder 1
  | 1 | 2 => .addLine 1 ⟨1, 1⟩
  | _ => .listLines 1

theorem twoLines_store : TotalsMatch shop.rows shop.seq := by
  intro o order horder
  cases horder

theorem twoLines_keep (i o : Nat) : twoLines i ≠ .deleteOrder o := by
  match i with
  | 0 | 1 | 2 | i + 3 => simp [twoLines]

/-- A clock that stands at midnight. -/
def stopped : Clock := ⟨midnight, midnight⟩

/-- The clients take their steps in the order of the list. -/
def steps (clients : List Nat) : List (Event Env) := clients.map fun i => .step i ⟨stopped, none⟩

theorem mem_steps {clients : List Nat} {e : Event Env} (h : e ∈ steps clients) : e.client ∈ clients := by
  obtain ⟨i, hi, rfl⟩ := List.mem_map.mp h
  exact hi

/-- A client that no event of a run belongs to stays where it was. -/
theorem run_steps_client {s : State} {clients : List Nat} {j : Nat} (hj : j ∉ clients) :
    (run step s (steps clients)).client j = s.client j :=
  run_eq (f := fun s : State => s.client j) fun _ he _ =>
    Db.step_client_of_ne (p := program) fun h => hj (h ▸ mem_steps he)

/-- A client may sum when the total it loaded is committed and every client so far is done. -/
theorem may_sum_steps (clients : List Nat) {i o loaded : Nat}
    (h : ∀ j ∈ clients, j ≠ i → ((run step (shop.serve twoLines) (steps clients)).client j).state.phase = .clean)
    (hloaded : totalOf (run step (shop.serve twoLines) (steps clients)).committed o = loaded) :
    MaySum (run step (shop.serve twoLines) (steps clients)) i o loaded := by
  refine ⟨fun j hne => ?_, Or.inl hloaded⟩
  have hclean : ((run step (shop.serve twoLines) (steps clients)).client j).state.phase = .clean := by
    by_cases hj : j ∈ clients
    · exact h j hj hne
    · rw [run_steps_client hj]
      exact (twoLines j).open_phase.1
  rw [hclean]
  rintro ⟨t, ht | ht⟩ <;> cases ht

/-- Both lines are inserted before either total is stored. -/
def crossed : List (Event Env) := steps [0, 0, 0, 1, 1, 1, 1, 2, 2, 2, 2, 1, 2, 1, 1, 2, 2]

theorem totals_lost : ¬∀ (store : Store) (requests : Nat → Request), TotalsMatch store.rows store.seq →
    (∀ i o, requests i ≠ .deleteOrder o) → ∀ (es : List (Event Env)), ∀ d ∈ states step (store.serve requests) es,
      AtRest d → TotalsMatch d.committed d.seq := by
  intro h
  have hrest : AtRest (run step (shop.serve twoLines) crossed) := by
    intro i
    by_cases hi : i < 3
    · interval_cases i <;> decide
    · rw [crossed, run_steps_client (by simp; omega)]
      match i, hi with
      | i + 3, _ => rfl
  have := h shop twoLines twoLines_store twoLines_keep crossed _ (run_mem_states _ _) hrest 1
    ⟨1, .pending, 1000, midnight, midnight⟩ (by decide)
  exact absurd this (by decide)

/-- With one line after the other, the total counts both. -/
theorem totals_match_one_by_one : TotalsMatch
    (run step (shop.serve twoLines) (steps [0, 0, 0, 1, 1, 1, 1, 1, 1, 1, 2, 2, 2, 2, 2, 2, 2])).committed
    (run step (shop.serve twoLines) (steps [0, 0, 0, 1, 1, 1, 1, 1, 1, 1, 2, 2, 2, 2, 2, 2, 2])).seq := by
  refine totals_match_of_safe_recompute shop twoLines twoLines_store twoLines_keep _ ?_ _ (run_mem_states _ _)
  refine ⟨?_, ?_, ?_, ?_, ?_, ?_, ?_, ?_, ?_, ?_, ?_, ?_, ?_, ?_, ?_, ?_, ?_, trivial⟩
  all_goals
    intro o loaded h
    cases h
  · exact may_sum_steps [0, 0, 0, 1, 1, 1, 1] (by decide) (by decide)
  · exact may_sum_steps [0, 0, 0, 1, 1, 1, 1, 1, 1, 1, 2, 2, 2, 2] (by decide) (by decide)

end IrisService.Orders
