import Mathlib.Algebra.BigOperators.Group.Finset.Basic
import Mathlib.Algebra.Order.BigOperators.Group.Finset
import IrisService.Orders.System

/-! Order totals against line sums, for the committed rows and for what one transaction sees.

A transaction adds to a sum the same amount whatever the others commit, because the rows it writes are
locked. So a client is described by what its changes do to each order (`Phase`), and that description
outlives the commits of the others (`Ok.others`). -/

namespace IrisService.Orders
open ReadCommitted

/-! ### Sums -/

/-- What a line adds to the total of the order. -/
def lineAmount (line : Option OrderLine) (orderId : Nat) : Nat :=
  match line with
  | some l => if l.orderId = orderId then l.unitPriceAtOrder * l.quantity else 0
  | none => 0

/-- The sum over the lines of the order whose identity is below `n`. -/
def sumOf (n : Nat) (rows : Rows Row) (orderId : Nat) : Nat :=
  ∑ id ∈ Finset.range n, lineAmount (rows .orderLine id) orderId

/-- The stored total of the order, zero where there is no order. -/
def totalOf (rows : Rows Row) (orderId : Nat) : Nat :=
  match rows .orders orderId with
  | some order => Order.totalAmount order
  | none => 0

section Sums
variable {n : Nat} {rows rows' c c' : Rows Row} {w : Writes Row} {o id : Nat}

theorem recomputedTotal_eq (v : View Row) (o : Nat) : recomputedTotal v o = sumOf (v.seq .orderLine) v.rows o := by
  unfold recomputedTotal linesOf select sumOf
  generalize v.seq .orderLine = n
  induction n with
  | zero => rfl
  | succ n ih =>
    rw [List.range_succ, List.filterMap_append, List.filter_append, List.map_append, List.sum_append, ih,
      Finset.sum_range_succ]
    congr 1
    cases h : v.rows .orderLine n with
    | none => simp [h, lineAmount]
    | some l => by_cases hl : OrderLine.orderId l = o <;> simp [h, lineAmount, hl]

theorem totalOf_congr (h : rows .orders o = rows' .orders o) : totalOf rows o = totalOf rows' o := by
  unfold totalOf
  rw [h]

theorem sumOf_congr (h : ∀ id < n, lineAmount (rows .orderLine id) o = lineAmount (rows' .orderLine id) o) :
    sumOf n rows o = sumOf n rows' o :=
  Finset.sum_congr rfl fun id hid => h id (Finset.mem_range.mp hid)

/-- A transaction changes a sum by the same amount whatever else is committed under its locks. -/
theorem sumOf_onto_add (h : ∀ id, w .orderLine id ≠ none → c' .orderLine id = c .orderLine id) :
    sumOf n (w.onto c') o + sumOf n c o = sumOf n (w.onto c) o + sumOf n c' o := by
  unfold sumOf
  rw [← Finset.sum_add_distrib, ← Finset.sum_add_distrib]
  refine Finset.sum_congr rfl fun id _ => ?_
  cases hw : w .orderLine id with
  | none =>
    rw [Writes.onto_of_none hw, Writes.onto_of_none hw]
    exact Nat.add_comm _ _
  | some r => rw [Writes.onto_of_some hw, Writes.onto_of_some hw, h id (by simp [hw])]

/-- A fresh identity adds nothing to a sum. -/
theorem sumOf_succ (h : rows .orderLine n = none) : sumOf (n + 1) rows o = sumOf n rows o := by
  simp [sumOf, Finset.sum_range_succ, h, lineAmount]

end Sums

/-! ### What a client's changes do -/

/-- How far a session has come with the total of an order. -/
inductive Phase where
  /-- Every total and every sum is as committed. -/
  | clean
  /-- The lines of the order have changed; `shrinks` when one of them is being deleted. -/
  | changed (o : Nat) (shrinks : Bool)
  /-- The code holds the new total of the order. -/
  | summed (o total : Nat)
  /-- The order row carries the new total. -/
  | stored (o total : Nat)
  deriving DecidableEq

/-- The session holds a new total of the order. -/
def Phase.Holds (φ : Phase) (o : Nat) : Prop := ∃ t, φ = .summed o t ∨ φ = .stored o t

/-- The phase describes the changes `w` over the committed rows `c`. -/
def Ok (n : Nat) (c : Rows Row) (w : Writes Row) : Phase → Prop
  | .clean => ∀ o, totalOf (w.onto c) o = totalOf c o ∧ sumOf n (w.onto c) o = sumOf n c o
  | .changed o shrinks =>
    (∀ o', totalOf (w.onto c) o' = totalOf c o') ∧ (∀ o', o' ≠ o → sumOf n (w.onto c) o' = sumOf n c o') ∧
      (shrinks = true → sumOf n (w.onto c) o ≤ sumOf n c o)
  | .summed o total =>
    (∀ o', totalOf (w.onto c) o' = totalOf c o') ∧ (∀ o', o' ≠ o → sumOf n (w.onto c) o' = sumOf n c o') ∧
      sumOf n (w.onto c) o = total
  | .stored o total =>
    (∀ o', o' ≠ o → totalOf (w.onto c) o' = totalOf c o') ∧
      (∀ o', o' ≠ o → sumOf n (w.onto c) o' = sumOf n c o') ∧
      w .orders o ≠ none ∧ totalOf (w.onto c) o = total ∧ sumOf n (w.onto c) o = total

namespace Ok
variable {n : Nat} {c c' : Rows Row} {w : Writes Row} {φ : Phase}

theorem empty : Ok n c (Writes.empty : Writes Row) .clean := fun _ => ⟨rfl, rfl⟩

/-- The lines and orders a client has not touched are the same for everybody. -/
theorem congr {w' : Writes Row} (h : Ok n c w φ) (ho : w' .orders = w .orders) (hl : w' .orderLine = w .orderLine) :
    Ok n c w' φ := by
  have htotal : ∀ o, totalOf (w'.onto c) o = totalOf (w.onto c) o := fun o =>
    totalOf_congr (by simp only [Writes.onto, ho])
  have hsum : ∀ o, sumOf n (w'.onto c) o = sumOf n (w.onto c) o := fun o =>
    sumOf_congr fun id _ => by simp only [Writes.onto, hl]
  cases φ <;> simpa only [Ok, htotal, hsum, ho] using h

/-- What the others commit under the client's locks leaves its phase as it is, unless they change the sum
    of the order whose new total it holds. -/
theorem others (h : Ok n c w φ) (ho : ∀ o, w .orders o ≠ none → c' .orders o = c .orders o)
    (hl : ∀ id, w .orderLine id ≠ none → c' .orderLine id = c .orderLine id)
    (hholds : ∀ o, φ.Holds o → sumOf n c' o = sumOf n c o) : Ok n c' w φ := by
  have htotal : ∀ o, totalOf (w.onto c) o = totalOf c o → totalOf (w.onto c') o = totalOf c' o := fun o h => by
    cases hw : w .orders o with
    | none => exact totalOf_congr (Writes.onto_of_none hw)
    | some r =>
      have hc := ho o (by simp [hw])
      rw [totalOf_congr hc, ← h]
      exact totalOf_congr (by rw [Writes.onto_of_some hw, Writes.onto_of_some hw])
  have hsum : ∀ o, sumOf n (w.onto c') o + sumOf n c o = sumOf n (w.onto c) o + sumOf n c' o := fun o =>
    sumOf_onto_add hl
  cases φ with
  | clean => exact fun o => ⟨htotal o (h o).1, by have := hsum o; have := (h o).2; omega⟩
  | changed o shrinks =>
    obtain ⟨h1, h2, h3⟩ := h
    refine ⟨fun o' => htotal o' (h1 o'), fun o' hne => ?_, fun hs => ?_⟩
    · have := hsum o'
      have := h2 o' hne
      omega
    · have := hsum o
      have := h3 hs
      omega
  | summed o total =>
    obtain ⟨h1, h2, h3⟩ := h
    refine ⟨fun o' => htotal o' (h1 o'), fun o' hne => ?_, ?_⟩
    · have := hsum o'
      have := h2 o' hne
      omega
    · have := hsum o
      have := hholds o ⟨total, Or.inl rfl⟩
      omega
  | stored o total =>
    obtain ⟨h1, h2, hw, h3, h4⟩ := h
    refine ⟨fun o' hne => htotal o' (h1 o' hne), fun o' hne => ?_, hw, ?_, ?_⟩
    · have := hsum o'
      have := h2 o' hne
      omega
    · obtain ⟨r, hr⟩ := Option.ne_none_iff_exists'.mp hw
      rw [← h3]
      exact totalOf_congr (by rw [Writes.onto_of_some hr, Writes.onto_of_some hr])
    · have := hsum o
      have := hholds o ⟨total, Or.inr rfl⟩
      omega

/-- An identity that nobody uses yet may join the sums. -/
theorem grow (h : Ok n c w φ) (hc : c .orderLine n = none) (hw : w .orderLine n = none) : Ok (n + 1) c w φ := by
  have honto : (w.onto c) .orderLine n = none := (Writes.onto_of_none hw).trans hc
  cases φ <;> simpa only [Ok, sumOf_succ hc, sumOf_succ honto] using h

end Ok

end IrisService.Orders
