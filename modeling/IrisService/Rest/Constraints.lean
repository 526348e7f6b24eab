import IrisService.Rest.Requests

/-! The unique and foreign-key constraints of the migrated schema, and which requests ask for rows that break one. -/

namespace IrisService.Rest
open ReadCommitted Orders Products Customers

/-- The rows keep the constraints of the migrated schema. -/
structure Migrated (rows : Rows Row) : Prop where
  /-- `uq_customer_email` -/
  emails : ∀ id id' c c', rows .customer id = some c → rows .customer id' = some c' →
    Customer.email c = Customer.email c' → id = id'
  /-- `uq_product_name` -/
  names : ∀ id id' p p', rows .product id = some p → rows .product id' = some p' →
    Product.name p = Product.name p' → id = id'
  /-- `fk_orders_customer` -/
  orderCustomer : ∀ id o, rows .orders id = some o → rows .customer (Order.customerId o) ≠ none
  /-- `fk_order_line_order` -/
  lineOrder : ∀ id l, rows .orderLine id = some l → rows .orders (OrderLine.orderId l) ≠ none
  /-- `fk_order_line_product` -/
  lineProduct : ∀ id l, rows .orderLine id = some l → rows .product (OrderLine.productId l) ≠ none

/-- The rows with one of them written, or deleted. -/
def withRow (rows : Rows Row) (t : Table) (id : Nat) (row : Option (Row t)) : Rows Row :=
  (Writes.empty.set ⟨t, id, row⟩).onto rows

section WithRow
variable {rows : Rows Row} {t t' : Table} {id id' : Nat} {row : Option (Row t)}

@[simp] theorem withRow_self : withRow rows t id row t id = row := by
  simp [withRow, Writes.onto]

theorem withRow_of_id_ne (h : id' ≠ id) : withRow rows t id row t id' = rows t id' := by
  simp [withRow, Writes.onto, h]

@[simp] theorem withRow_of_table_ne (h : t' ≠ t) : withRow rows t id row t' id' = rows t' id' := by
  simp [withRow, Writes.onto, h]

theorem withRow_cases {r : Row t} (h : withRow rows t id row t id' = some r) :
    (id' = id ∧ row = some r) ∨ id' ≠ id ∧ rows t id' = some r := by
  by_cases hid : id' = id
  · subst hid
    rw [withRow_self] at h
    exact Or.inl ⟨rfl, h⟩
  · rw [withRow_of_id_ne hid] at h
    exact Or.inr ⟨hid, h⟩

theorem withRow_ne_none {r : Row t} (h : rows t id' ≠ none) : withRow rows t id (some r) t id' ≠ none := by
  by_cases hid : id' = id
  · subst hid
    simp
  · rwa [withRow_of_id_ne hid]

/-- What holds of the new row and of all others. -/
theorem forall_withRow {P : Row t → Prop} {r x : Row t} (hnew : P r) (hold : ∀ i x, rows t i = some x → P x)
    (h : withRow rows t id (some r) t id' = some x) : P x := by
  rcases withRow_cases h with ⟨-, hx⟩ | ⟨-, hx⟩
  · cases hx
    exact hnew
  · exact hold id' x hx

/-- A unique column stays unique when the value of the new row is free. -/
theorem unique_withRow {β : Type} {column : Row t → β} {r : Row t}
    (hunique : ∀ i i' x x', rows t i = some x → rows t i' = some x' → column x = column x' → i = i')
    (hfree : ∀ i x, i ≠ id → rows t i = some x → column x ≠ column r) {i i' : Nat} {x x' : Row t}
    (hi : withRow rows t id (some r) t i = some x) (hi' : withRow rows t id (some r) t i' = some x')
    (he : column x = column x') : i = i' := by
  rcases withRow_cases hi with ⟨rfl, hx⟩ | ⟨hne, hrow⟩
  · cases hx
    rcases withRow_cases hi' with ⟨rfl, -⟩ | ⟨hne', hrow'⟩
    · rfl
    · exact absurd he.symm (hfree i' x' hne' hrow')
  · rcases withRow_cases hi' with ⟨rfl, hx'⟩ | ⟨-, hrow'⟩
    · cases hx'
      exact absurd he (hfree i x hne hrow)
    · exact hunique i i' x x' hrow hrow' he

theorem withRow_none {t₀ : Table} {id₀ : Nat} {r : Row t} (h : withRow rows t₀ id₀ none t id' = some r) :
    rows t id' = some r := by
  by_cases ht : t = t₀
  · subst ht
    rcases withRow_cases h with ⟨-, hnone⟩ | ⟨-, hrow⟩
    · cases hnone
    · exact hrow
  · rwa [withRow_of_table_ne ht] at h

end WithRow

namespace Migrated
variable {rows : Rows Row} {id : Nat}

theorem putCustomer {c : Customer} (h : Migrated rows)
    (hfree : ∀ id' c', id' ≠ id → rows .customer id' = some c' → Customer.email c' ≠ c.email) :
    Migrated (withRow rows .customer id (some c)) where
  emails _ _ _ _ hi hi' he := unique_withRow h.emails hfree hi hi' he
  names i i' x x' hi hi' := by
    rw [withRow_of_table_ne (by simp)] at hi hi'
    exact h.names i i' x x' hi hi'
  orderCustomer i o ho := by
    rw [withRow_of_table_ne (by simp)] at ho
    exact withRow_ne_none (h.orderCustomer i o ho)
  lineOrder i l hl := by
    rw [withRow_of_table_ne (by simp)] at hl ⊢
    exact h.lineOrder i l hl
  lineProduct i l hl := by
    rw [withRow_of_table_ne (by simp)] at hl ⊢
    exact h.lineProduct i l hl

theorem putProduct {p : Product} (h : Migrated rows)
    (hfree : ∀ id' p', id' ≠ id → rows .product id' = some p' → Product.name p' ≠ p.name) :
    Migrated (withRow rows .product id (some p)) where
  emails i i' x x' hi hi' := by
    rw [withRow_of_table_ne (by simp)] at hi hi'
    exact h.emails i i' x x' hi hi'
  names _ _ _ _ hi hi' he := unique_withRow h.names hfree hi hi' he
  orderCustomer i o ho := by
    rw [withRow_of_table_ne (by simp)] at ho ⊢
    exact h.orderCustomer i o ho
  lineOrder i l hl := by
    rw [withRow_of_table_ne (by simp)] at hl ⊢
    exact h.lineOrder i l hl
  lineProduct i l hl := by
    rw [withRow_of_table_ne (by simp)] at hl
    exact withRow_ne_none (h.lineProduct i l hl)

theorem putOrder {o : Order} (h : Migrated rows) (hcustomer : rows .customer o.customerId ≠ none) :
    Migrated (withRow rows .orders id (some o)) where
  emails i i' x x' hi hi' := by
    rw [withRow_of_table_ne (by simp)] at hi hi'
    exact h.emails i i' x x' hi hi'
  names i i' x x' hi hi' := by
    rw [withRow_of_table_ne (by simp)] at hi hi'
    exact h.names i i' x x' hi hi'
  orderCustomer i x hx := by
    rw [withRow_of_table_ne (by simp)]
    exact forall_withRow (P := fun o : Order => rows .customer o.customerId ≠ none) hcustomer h.orderCustomer hx
  lineOrder i l hl := by
    rw [withRow_of_table_ne (by simp)] at hl
    exact withRow_ne_none (h.lineOrder i l hl)
  lineProduct i l hl := by
    rw [withRow_of_table_ne (by simp)] at hl ⊢
    exact h.lineProduct i l hl

theorem putLine {l : OrderLine} (h : Migrated rows) (horder : rows .orders l.orderId ≠ none)
    (hproduct : rows .product l.productId ≠ none) : Migrated (withRow rows .orderLine id (some l)) where
  emails i i' x x' hi hi' := by
    rw [withRow_of_table_ne (by simp)] at hi hi'
    exact h.emails i i' x x' hi hi'
  names i i' x x' hi hi' := by
    rw [withRow_of_table_ne (by simp)] at hi hi'
    exact h.names i i' x x' hi hi'
  orderCustomer i o ho := by
    rw [withRow_of_table_ne (by simp)] at ho ⊢
    exact h.orderCustomer i o ho
  lineOrder i x hx := by
    rw [withRow_of_table_ne (by simp)]
    exact forall_withRow (P := fun l : OrderLine => rows .orders l.orderId ≠ none) horder h.lineOrder hx
  lineProduct i x hx := by
    rw [withRow_of_table_ne (by simp)]
    exact forall_withRow (P := fun l : OrderLine => rows .product l.productId ≠ none) hproduct h.lineProduct hx

/-! A row that is changed in place keeps what it refers to; a new email or name has to be free. -/

theorem updateCustomer {c c' : Customer} (h : Migrated rows) (hrow : rows .customer id = some c)
    (hfree : c'.email ≠ c.email → ∀ i x, i ≠ id → rows .customer i = some x → Customer.email x ≠ c'.email) :
    Migrated (withRow rows .customer id (some c')) := by
  refine h.putCustomer fun i x hne hx he => ?_
  by_cases hsame : c'.email = c.email
  · exact hne (h.emails i id x c hx hrow (he.trans hsame))
  · exact hfree hsame i x hne hx he

theorem updateProduct {p p' : Product} (h : Migrated rows) (hrow : rows .product id = some p)
    (hfree : p'.name ≠ p.name → ∀ i x, i ≠ id → rows .product i = some x → Product.name x ≠ p'.name) :
    Migrated (withRow rows .product id (some p')) := by
  refine h.putProduct fun i x hne hx he => ?_
  by_cases hsame : p'.name = p.name
  · exact hne (h.names i id x p hx hrow (he.trans hsame))
  · exact hfree hsame i x hne hx he

theorem updateOrder {o o' : Order} (h : Migrated rows) (hrow : rows .orders id = some o)
    (hsame : o'.customerId = o.customerId) : Migrated (withRow rows .orders id (some o')) := by
  refine h.putOrder ?_
  rw [hsame]
  exact h.orderCustomer id o hrow

theorem updateLine {l l' : OrderLine} (h : Migrated rows) (hrow : rows .orderLine id = some l)
    (horder : l'.orderId = l.orderId) (hproduct : l'.productId = l.productId) :
    Migrated (withRow rows .orderLine id (some l')) := by
  refine h.putLine ?_ ?_
  · rw [horder]
    exact h.lineOrder id l hrow
  · rw [hproduct]
    exact h.lineProduct id l hrow

/-- Rows that are left over keep the constraints if the rows they refer to are left over too. -/
theorem of_subset {rows' : Rows Row} (h : Migrated rows) (hsub : ∀ t i r, rows' t i = some r → rows t i = some r)
    (horder : ∀ i o, rows' .orders i = some o → rows' .customer (Order.customerId o) ≠ none)
    (hline : ∀ i l, rows' .orderLine i = some l →
      rows' .orders (OrderLine.orderId l) ≠ none ∧ rows' .product (OrderLine.productId l) ≠ none) : Migrated rows' where
  emails i i' c c' hi hi' := h.emails i i' c c' (hsub _ _ _ hi) (hsub _ _ _ hi')
  names i i' p p' hi hi' := h.names i i' p p' (hsub _ _ _ hi) (hsub _ _ _ hi')
  orderCustomer := horder
  lineOrder i l hl := (hline i l hl).1
  lineProduct i l hl := (hline i l hl).2

theorem dropCustomer (h : Migrated rows) (hfree : ∀ i o, rows .orders i = some o → Order.customerId o ≠ id) :
    Migrated (withRow rows .customer id none) := by
  refine h.of_subset (fun t i r hr => withRow_none hr) (fun i o ho => ?_) fun i l hl => ?_
  · rw [withRow_of_table_ne (by simp)] at ho
    rw [withRow_of_id_ne (hfree i o ho)]
    exact h.orderCustomer i o ho
  · rw [withRow_of_table_ne (by simp)] at hl ⊢
    rw [withRow_of_table_ne (by simp)]
    exact ⟨h.lineOrder i l hl, h.lineProduct i l hl⟩

theorem dropProduct (h : Migrated rows) (hfree : ∀ i l, rows .orderLine i = some l → OrderLine.productId l ≠ id) :
    Migrated (withRow rows .product id none) := by
  refine h.of_subset (fun t i r hr => withRow_none hr) (fun i o ho => ?_) fun i l hl => ?_
  · rw [withRow_of_table_ne (by simp)] at ho ⊢
    exact h.orderCustomer i o ho
  · rw [withRow_of_table_ne (by simp)] at hl ⊢
    rw [withRow_of_id_ne (hfree i l hl)]
    exact ⟨h.lineOrder i l hl, h.lineProduct i l hl⟩

theorem dropLine (h : Migrated rows) : Migrated (withRow rows .orderLine id none) := by
  refine h.of_subset (fun t i r hr => withRow_none hr) (fun i o ho => ?_) fun i l hl => ?_
  · rw [withRow_of_table_ne (by simp)] at ho ⊢
    exact h.orderCustomer i o ho
  · have hl' := withRow_none hl
    rw [withRow_of_table_ne (by simp), withRow_of_table_ne (by simp)]
    exact ⟨h.lineOrder i l hl', h.lineProduct i l hl'⟩

/-- An order goes together with its lines. -/
theorem dropOrder (h : Migrated rows) (orderId : Nat) {cs : List (Change Row)} (hdel : ∀ c ∈ cs, c.row = none)
    (honly : ∀ c ∈ cs, c.At .orders orderId ∨ c.table = .orderLine)
    (hlines : ∀ i l, rows .orderLine i = some l → OrderLine.orderId l = orderId → ∃ c ∈ cs, c.At .orderLine i) :
    Migrated ((Writes.empty.setAll cs).onto rows) := by
  have hkeeps : ∀ {t i r}, rows t i = some r → (∀ c ∈ cs, ¬c.At t i) → (Writes.empty.setAll cs).onto rows t i ≠ none := by
    intro t i r hr hat
    rw [(Writes.onto_deletes hdel).mpr ⟨hr, hat⟩]
    simp
  refine h.of_subset (fun t i r hr => ((Writes.onto_deletes hdel).mp hr).1) (fun i o ho => ?_) fun i l hl => ?_
  · obtain ⟨c, hc⟩ := Option.ne_none_iff_exists'.mp (h.orderCustomer i o ((Writes.onto_deletes hdel).mp ho).1)
    refine hkeeps hc fun c hmem hat => ?_
    rcases honly c hmem with ⟨horders, -⟩ | hline
    · cases horders.symm.trans hat.1
    · cases hline.symm.trans hat.1
  · obtain ⟨hrow, hkept⟩ := (Writes.onto_deletes hdel).mp hl
    obtain ⟨o, ho⟩ := Option.ne_none_iff_exists'.mp (h.lineOrder i l hrow)
    obtain ⟨p, hp⟩ := Option.ne_none_iff_exists'.mp (h.lineProduct i l hrow)
    refine ⟨hkeeps ho fun c hmem hat => ?_, hkeeps hp fun c hmem hat => ?_⟩
    · rcases honly c hmem with ⟨-, hid⟩ | hline
      · -- The line's own order is deleted, so the line is.
        obtain ⟨c', hc', hat'⟩ := hlines i l hrow (hat.2.symm.trans hid)
        exact hkept c' hc' hat'
      · cases hline.symm.trans hat.1
    · rcases honly c hmem with ⟨horders, -⟩ | hline
      · cases horders.symm.trans hat.1
      · cases hline.symm.trans hat.1

/-- `DELETE` of an order, with the cascade to the lines that the statement sees. -/
theorem dropOrder_linesOf {v : View Row} (h : Migrated v.rows) (hused : v.Used) (orderId : Nat) :
    Migrated ((Writes.empty.setAll
      (⟨.orders, orderId, none⟩ :: (linesOf v orderId).map fun l => ⟨.orderLine, l.1, none⟩)).onto v.rows) := by
  refine h.dropOrder orderId (fun c hc => ?_) (fun c hc => ?_) fun i l hl he => ?_
  · rcases List.mem_cons.mp hc with rfl | hc
    · rfl
    · obtain ⟨l, -, rfl⟩ := List.mem_map.mp hc
      rfl
  · rcases List.mem_cons.mp hc with rfl | hc
    · exact Or.inl ⟨rfl, rfl⟩
    · obtain ⟨l, -, rfl⟩ := List.mem_map.mp hc
      exact Or.inr rfl
  · have hline : (i, l) ∈ linesOf v orderId :=
      List.mem_filter.mpr ⟨mem_select_of_row (hused _ i l hl) hl, by simpa using he⟩
    exact ⟨_, List.mem_cons_of_mem _ (List.mem_map.mpr ⟨(i, l), hline, rfl⟩), rfl, rfl⟩

end Migrated

end IrisService.Rest
