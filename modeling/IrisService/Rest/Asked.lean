import IrisService.Rest.Constraints

/-! The rows that a request asks for. Where they would break a constraint, the store refuses the statement. -/

namespace IrisService.Rest
open ReadCommitted Orders Products Customers

/-- A store at rest under the migrated schema. -/
structure Store where
  rows : Rows Row
  seq : Table → Nat
  fresh : ∀ t id, seq t ≤ id → rows t id = none
  migrated : Migrated rows

/-- What a statement sees when the store is at rest. -/
def Store.view (store : Store) : View Row := ⟨store.rows, store.seq⟩

theorem Store.used (store : Store) : store.view.Used := by
  intro t id row hrow
  by_contra hid
  have hnone : store.view.rows t id = none := store.fresh t id (Nat.not_lt.mp hid)
  rw [hnone] at hrow
  cases hrow

theorem Store.lt_seq (store : Store) {t : Table} {id : Nat} {row : Row t} (hrow : store.rows t id = some row) :
    id < store.seq t := store.used t id row hrow

/-- The changes that a request asks for; a row that is not there is not changed. -/
def Request.changes (v : View Row) (clock : Clock) : Request → List (Change Row)
  | .createCustomer body => [⟨.customer, v.seq .customer, some (newCustomer body clock.now)⟩]
  | .updateCustomer id body =>
    (v.rows .customer id).toList.map fun c => ⟨.customer, id, some { c with name := body.name, email := body.email }⟩
  | .patchCustomer id body =>
    (v.rows .customer id).toList.map fun c =>
      ⟨.customer, id, some { c with name := body.name.getD c.name, email := body.email.getD c.email }⟩
  | .deleteCustomer id => [⟨.customer, id, none⟩]
  | .createProduct payload => [⟨.product, v.seq .product, some (newProduct payload clock)⟩]
  | .updateProduct productId payload =>
    (v.rows .product productId).toList.map fun p =>
      ⟨.product, productId,
        some ⟨payload.name, payload.description, payload.unitPrice, payload.stockQuantity, p.createdAt, clock.now⟩⟩
  | .deleteProduct productId => [⟨.product, productId, none⟩]
  | .createOrder customerId => [⟨.orders, v.seq .orders, some (newOrder customerId clock)⟩]
  | .updateOrderStatus orderId status =>
    (v.rows .orders orderId).toList.map fun o =>
      ⟨.orders, orderId, some { o with status := status, updatedAt := clock.now }⟩
  -- `fk_order_line_order` cascades.
  | .deleteOrder orderId => ⟨.orders, orderId, none⟩ :: (linesOf v orderId).map fun l => ⟨.orderLine, l.1, none⟩
  | .addLine orderId payload =>
    let price := (v.rows .product payload.productId).elim 0 Product.unitPrice
    [⟨.orderLine, v.seq .orderLine, some ⟨orderId, payload.productId, payload.quantity, price, .pending, clock.now⟩⟩]
  | .updateLineStatus _ lineId payload =>
    (v.rows .orderLine lineId).toList.map fun l => ⟨.orderLine, lineId, some { l with status := payload.status }⟩
  | .deleteLine _ lineId => [⟨.orderLine, lineId, none⟩]

/-- The rows of the store as the request asks for them. -/
def Store.asked (store : Store) (request : Request) (clock : Clock) : Rows Row :=
  (Writes.empty.setAll (request.changes store.view clock)).onto store.rows

/-- The handler looks for the conflict, or has an `except` clause for it. -/
def Request.guarded : Request → Bool
  | .createCustomer _ | .updateCustomer _ _ | .patchCustomer _ _ | .createProduct _ | .createOrder _ | .addLine _ _ => true
  | _ => false

section Asked
variable {store : Store} {clock : Clock}

end Asked

end IrisService.Rest
