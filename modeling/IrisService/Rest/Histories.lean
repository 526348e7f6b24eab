import IrisService.Rest.SpecLaws

/-! Histories: what a store is after requests that it has served one after another, each of them alone. -/

namespace IrisService.Rest
open ReadCommitted Orders Products Customers

/-- A request, with the clock that its handler reads. -/
abbrev Served := Request × (Nat → Clock)

/-- The store after the requests, one after another. -/
def Store.afterAll (store : Store) (history : List Served) : Store :=
  history.foldl (fun store served => store.after served.1 served.2) store

/-- What each request leaves as it is holds after all of them. -/
theorem afterAll_induction {P : Store → Prop} {store : Store} (h0 : P store)
    (hstep : ∀ store, P store → ∀ request clock, P (store.after request clock)) (history : List Served) :
    P (store.afterAll history) := by
  induction history generalizing store with
  | nil => exact h0
  | cons served history ih => exact ih (hstep store h0 served.1 served.2)

/-! ### Line sums -/

section Lines
variable {rows rows' : Rows Row} {orderId : Nat}

theorem linesTotal_eq_sumOf {n : Nat} (h : ∀ id, n ≤ id → rows .orderLine id = none) :
    linesTotal rows orderId = sumOf n rows orderId := by
  refine finsum_eq_sum_of_support_subset _ fun id hid => ?_
  rw [Finset.coe_range, Set.mem_Iio]
  by_contra hle
  rw [Function.mem_support, h id (Nat.not_lt.mp hle)] at hid
  exact hid rfl

/-- A line that is written replaces its amount in the sum. -/
theorem linesTotal_withRow (store : Store) (id : Nat) (line : Option OrderLine) (orderId : Nat) :
    linesTotal (withRow store.rows .orderLine id line) orderId + lineAmount (store.rows .orderLine id) orderId =
      linesTotal store.rows orderId + lineAmount line orderId := by
  set n := max (store.seq .orderLine) (id + 1) with hn
  have hbefore : ∀ id', n ≤ id' → store.rows .orderLine id' = none := fun id' hid' =>
    store.fresh .orderLine id' ((le_max_left _ _).trans hid')
  have hafter : ∀ id', n ≤ id' → withRow store.rows .orderLine id line .orderLine id' = none := fun id' hid' => by
    rw [withRow_of_id_ne (by omega)]
    exact hbefore id' hid'
  rw [linesTotal_eq_sumOf hbefore, linesTotal_eq_sumOf hafter]
  exact sumOf_set (w := Writes.empty) (c := store.rows) (by omega)

/-- Lines of the same amounts have the same sum. -/
theorem linesTotal_congr_amount
    (h : ∀ id, lineAmount (rows .orderLine id) orderId = lineAmount (rows' .orderLine id) orderId) :
    linesTotal rows orderId = linesTotal rows' orderId := by
  simp only [linesTotal, h]

/-- An order that is not there has no lines. -/
theorem linesTotal_of_absent (store : Store) (h : store.rows .orders orderId = none) :
    linesTotal store.rows orderId = 0 := by
  refine finsum_eq_zero_of_forall_eq_zero fun id => ?_
  cases hline : store.rows .orderLine id with
  | none => rfl
  | some l =>
    have hne : l.orderId ≠ orderId := by
      rintro rfl
      exact store.migrated.lineOrder id l hline h
    simp [lineAmount, hne]

end Lines

/-! ### Totals -/

/-- The total of each order is the sum over its lines. -/
def TotalsAddUp (rows : Rows Row) : Prop :=
  ∀ orderId o, rows .orders orderId = some o → Order.totalAmount o = linesTotal rows orderId

namespace TotalsAddUp
variable {store : Store} {rows rows' : Rows Row} {clock : Nat → Clock} {orderId : Nat}

theorem empty : TotalsAddUp Store.empty.rows := fun _ _ h => by cases h

/-- Rows of other tables do not matter. -/
theorem congr (h : TotalsAddUp rows) (horders : rows' .orders = rows .orders)
    (hlines : rows' .orderLine = rows .orderLine) : TotalsAddUp rows' := by
  intro orderId o ho
  rw [horders] at ho
  rw [h orderId o ho]
  exact linesTotal_congr (fun id => by rw [hlines]) orderId

theorem withRow (h : TotalsAddUp rows) {t : Table} (id : Nat) (row : Option (Row t)) (horders : t ≠ .orders)
    (hlines : t ≠ .orderLine) : TotalsAddUp (withRow rows t id row) :=
  h.congr (funext fun _ => withRow_of_table_ne horders.symm) (funext fun _ => withRow_of_table_ne hlines.symm)

/-- An order is written with the total that it has, or with what its lines have come to. -/
theorem withOrder (horders : ∀ orderId', orderId' ≠ orderId → ∀ o, rows .orders orderId' = some o →
      Order.totalAmount o = linesTotal rows orderId')
    {order : Order} (htotal : order.totalAmount = linesTotal rows orderId) :
    TotalsAddUp (Rest.withRow rows .orders orderId (some order)) := by
  intro orderId' o ho
  have hlines : linesTotal (Rest.withRow rows .orders orderId (some order)) orderId' = linesTotal rows orderId' :=
    linesTotal_congr (fun id => withRow_of_table_ne (by decide)) orderId'
  rw [hlines]
  rcases withRow_cases ho with ⟨rfl, hrow⟩ | ⟨hne, hrow⟩
  · cases hrow
    exact htotal
  · exact horders orderId' hne o hrow

theorem withTotal {orderId total : Nat} {order : Order} {now : DateTime}
    (horders : ∀ orderId', orderId' ≠ orderId → ∀ o, rows .orders orderId' = some o →
      Order.totalAmount o = linesTotal rows orderId')
    (horder : rows .orders orderId = some order) (htotal : total = linesTotal rows orderId) :
    TotalsAddUp (withTotal rows orderId order total now) := by
  unfold Rest.withTotal
  split
  · rename_i hsame
    intro orderId' o ho
    by_cases hne : orderId' = orderId
    · subst hne
      rw [horder] at ho
      cases ho
      exact hsame.symm.trans htotal
    · exact horders orderId' hne o ho
  · exact withOrder horders htotal

/-- The other orders do not see that a line of an order is written. -/
theorem others (h : TotalsAddUp store.rows) (id orderId : Nat) (line : Option OrderLine)
    (hbefore : ∀ l, store.rows .orderLine id = some l → l.orderId = orderId)
    (hafter : ∀ l, line = some l → l.orderId = orderId) :
    ∀ orderId', orderId' ≠ orderId → ∀ o, Rest.withRow store.rows .orderLine id line .orders orderId' = some o →
      Order.totalAmount o = linesTotal (Rest.withRow store.rows .orderLine id line) orderId' := by
  intro orderId' hne o ho
  rw [withRow_of_table_ne (by decide)] at ho
  have hsum := linesTotal_withRow store id line orderId'
  have hzero : ∀ r : Option OrderLine, (∀ l, r = some l → l.orderId = orderId) → lineAmount r orderId' = 0 := by
    intro r hr
    cases r with
    | none => rfl
    | some l => simp [lineAmount, hr l rfl, hne.symm]
  rw [hzero _ hbefore, hzero _ hafter] at hsum
  rw [h orderId' o ho]
  exact hsum.symm

/-! ### The requests -/

theorem createOrder (h : TotalsAddUp store.rows) (customerId : Nat) :
    TotalsAddUp (store.outcome clock (.createOrder customerId)).2 := by
  simp only [Store.outcome]
  cases store.rows .customer customerId with
  | none => exact h
  | some c =>
    refine withOrder (fun orderId' _ o ho => h orderId' o ho) ?_
    exact (linesTotal_of_absent store (store.fresh .orders _ (Nat.le_refl _))).symm

theorem updateOrderStatus (h : TotalsAddUp store.rows) (orderId : Nat) (status : OrderStatus) :
    TotalsAddUp (store.outcome clock (.updateOrderStatus orderId status)).2 := by
  simp only [Store.outcome]
  cases ho : store.rows .orders orderId with
  | none => exact h
  | some o =>
    simp only
    split
    · exact h
    · split
      · exact h
      · exact withOrder (fun orderId' _ o' ho' => h orderId' o' ho') (h orderId o ho)

theorem deleteOrder (h : TotalsAddUp store.rows) (orderId : Nat) :
    TotalsAddUp (store.outcome clock (.deleteOrder orderId)).2 := by
  simp only [Store.outcome]
  cases store.rows .orders orderId with
  | none => exact h
  | some _ =>
    intro orderId' o ho
    simp only [withoutOrder] at ho
    split at ho
    · cases ho
    · rename_i hne
      rw [h orderId' o ho]
      refine linesTotal_congr_amount fun id => ?_
      simp only [withoutOrder]
      cases store.rows .orderLine id with
      | none => rfl
      | some l =>
        by_cases hl : OrderLine.orderId l = orderId
        · rw [Option.filter_some_neg (by simpa using hl)]
          simp [lineAmount, hl, Ne.symm hne]
        · rw [Option.filter_some_pos (by simpa using hl)]

theorem addLine (h : TotalsAddUp store.rows) (orderId : Nat) (payload : OrderLineCreate) :
    TotalsAddUp (store.outcome clock (.addLine orderId payload)).2 := by
  simp only [Store.outcome]
  cases ho : store.rows .orders orderId with
  | none => exact h
  | some o =>
    cases store.rows .product payload.productId with
    | none => exact h
    | some p =>
      simp only
      split
      · have hfresh : store.rows .orderLine (store.seq .orderLine) = none := store.fresh .orderLine _ (Nat.le_refl _)
        have hothers := h.others (store.seq .orderLine) orderId (some (newLine orderId payload p (clock 2).now))
          (by rw [hfresh]; simp) (fun l hl => by cases hl; rfl)
        refine withTotal hothers ((withRow_of_table_ne (by decide)).trans ho) ?_
        exact (linesTotal_withLine (l := newLine orderId payload p (clock 2).now) store rfl).symm
      · exact h

theorem updateLineStatus (h : TotalsAddUp store.rows) (orderId lineId : Nat) (payload : OrderLineStatusUpdate) :
    TotalsAddUp (store.outcome clock (.updateLineStatus orderId lineId payload)).2 := by
  simp only [Store.outcome]
  cases hl : store.rows .orderLine lineId with
  | none => exact h
  | some l =>
    simp only
    split
    · exact h
    · split
      · exact h
      · intro orderId' o ho
        have ho' : store.rows .orders orderId' = some o := by
          simpa [withRow_of_table_ne] using ho
        have hsum := linesTotal_withRow store lineId (some { l with status := payload.status }) orderId'
        have hsame : lineAmount (some { l with status := payload.status }) orderId' =
            lineAmount (store.rows .orderLine lineId) orderId' := by
          rw [hl]
          rfl
        rw [hsame] at hsum
        rw [h orderId' o ho']
        exact (Nat.add_right_cancel hsum).symm

theorem deleteLine (h : TotalsAddUp store.rows) (orderId lineId : Nat) :
    TotalsAddUp (store.outcome clock (.deleteLine orderId lineId)).2 := by
  simp only [Store.outcome]
  cases hl : store.rows .orderLine lineId with
  | none => exact h
  | some l =>
    simp only
    split
    · exact h
    · rename_i hof
      rw [not_not] at hof
      have hothers := h.others lineId orderId none
        (fun l' hl' => by rw [hl] at hl'; cases hl'; exact hof) (fun _ hnone => by cases hnone)
      have hsum := linesTotal_withRow store lineId none orderId
      rw [hl] at hsum
      have hamount : lineAmount (some l) orderId = l.unitPriceAtOrder * l.quantity := if_pos hof
      have hzero : lineAmount none orderId = 0 := rfl
      rw [hamount, hzero, Nat.add_zero] at hsum
      cases ho : store.rows .orders orderId with
      | none => exact absurd ho (hof ▸ store.migrated.lineOrder lineId l hl)
      | some o =>
        simp only
        split
        · refine withTotal hothers ((withRow_of_table_ne (by decide)).trans ho) ?_
          omega
        · exact h

/-- One case for each request. -/
theorem outcome (h : TotalsAddUp store.rows) (request : Request) : TotalsAddUp (store.outcome clock request).2 := by
  cases request with
  | createCustomer body =>
    simp only [Store.outcome]
    split
    · exact h
    · exact h.withRow _ _ (by decide) (by decide)
  | updateCustomer id body =>
    simp only [Store.outcome]
    cases store.rows .customer id with
    | none => exact h
    | some c =>
      simp only
      split
      · exact h
      · exact h.withRow _ _ (by decide) (by decide)
  | patchCustomer id body =>
    simp only [Store.outcome]
    cases store.rows .customer id with
    | none => exact h
    | some c =>
      simp only
      split
      · exact h
      · exact h.withRow _ _ (by decide) (by decide)
  | deleteCustomer id =>
    simp only [Store.outcome]
    cases store.rows .customer id with
    | none => exact h
    | some c =>
      simp only
      split
      · exact h
      · exact h.withRow _ _ (by decide) (by decide)
  | createProduct payload =>
    simp only [Store.outcome]
    split
    · exact h
    · split
      · exact h.withRow _ _ (by decide) (by decide)
      · exact h
  | updateProduct productId payload =>
    simp only [Store.outcome]
    cases store.rows .product productId with
    | none => exact h
    | some p =>
      simp only
      split
      · exact h
      · split
        · exact h
        · split
          · exact h
          · exact h.withRow _ _ (by decide) (by decide)
  | deleteProduct productId =>
    simp only [Store.outcome]
    cases store.rows .product productId with
    | none => exact h
    | some p =>
      simp only
      split
      · exact h
      · exact h.withRow _ _ (by decide) (by decide)
  | createOrder customerId => exact h.createOrder customerId
  | updateOrderStatus orderId status => exact h.updateOrderStatus orderId status
  | deleteOrder orderId => exact h.deleteOrder orderId
  | addLine orderId payload => exact h.addLine orderId payload
  | updateLineStatus orderId lineId payload => exact h.updateLineStatus orderId lineId payload
  | deleteLine orderId lineId => exact h.deleteLine orderId lineId

theorem after (h : TotalsAddUp store.rows) (request : Request) (clock : Nat → Clock) :
    TotalsAddUp (store.after request clock).rows := by
  rw [rows_spec store request clock]
  rw [Store.spec]
  split
  · exact h.outcome request
  · exact h

end TotalsAddUp

/-- After any history, the total of each order is the sum over its lines. -/
theorem TotalsAddUp.afterAll {store : Store} (h : TotalsAddUp store.rows) (history : List Served) :
    TotalsAddUp (store.afterAll history).rows :=
  afterAll_induction (P := fun store => TotalsAddUp store.rows) h (fun _ h request clock => h.after request clock) history

end IrisService.Rest
