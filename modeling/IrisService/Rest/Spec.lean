import IrisService.Library.Solo
import IrisService.Orders.Totals
import IrisService.Rest.Driver
import Mathlib.Algebra.BigOperators.Finprod

/-! What the requests are for: each of them takes the store in one step from rows to rows, with its answer. The handlers,
which flush only what has changed, look again at what they have written and add up the lines that they see, come to
the same on a store that serves the request alone. -/

namespace IrisService.Rest
open ReadCommitted Orders Products Customers

/-! ### What the rows say -/

/-- A customer has the email. -/
def EmailTaken (rows : Rows Row) (email : String) : Prop := ∃ id c, rows .customer id = some c ∧ Customer.email c = email

/-- Another customer than `id` has the email. -/
def EmailOfOther (rows : Rows Row) (email : String) (id : Nat) : Prop :=
  ∃ id' c, id' ≠ id ∧ rows .customer id' = some c ∧ Customer.email c = email

/-- A product has the name. -/
def NameTaken (rows : Rows Row) (name : String) : Prop := ∃ id p, rows .product id = some p ∧ Product.name p = name

/-- Another product than `id` has the name. -/
def NameOfOther (rows : Rows Row) (name : String) (id : Nat) : Prop :=
  ∃ id' p, id' ≠ id ∧ rows .product id' = some p ∧ Product.name p = name

/-- The customer has orders. -/
def HasOrders (rows : Rows Row) (customerId : Nat) : Prop :=
  ∃ id o, rows .orders id = some o ∧ Order.customerId o = customerId

/-- The product is on an order. -/
def IsOrdered (rows : Rows Row) (productId : Nat) : Prop :=
  ∃ id l, rows .orderLine id = some l ∧ OrderLine.productId l = productId

/-- The sum over the lines of the order. -/
noncomputable def linesTotal (rows : Rows Row) (orderId : Nat) : Nat := ∑ᶠ id, lineAmount (rows .orderLine id) orderId

/-- The rows without the order and its lines. -/
def withoutOrder (rows : Rows Row) (orderId : Nat) : Rows Row := fun t =>
  match t with
  | .orders => fun id => if id = orderId then none else rows .orders id
  | .orderLine => fun id => (rows .orderLine id).filter fun l => l.orderId ≠ orderId
  | t => rows t

/-- The rows with the total stored on the order. A total that the order has already is not stored again. -/
def withTotal (rows : Rows Row) (orderId : Nat) (order : Order) (total : Nat) (now : DateTime) : Rows Row :=
  if total = order.totalAmount then rows
  else withRow rows .orders orderId (some { order with totalAmount := total, updatedAt := now })

/-! ### The specification -/

open Classical in
/-- The answer to a request whose ids the driver binds, and the rows after it. The clock is read at the step that writes
    the row. -/
noncomputable def Store.outcome (store : Store) (clock : Nat → Clock) : Request → Response × Rows Row
  | .createCustomer body =>
    if EmailTaken store.rows body.email then (.created (.http (emailExists body.email)), store.rows)
    else (.created (.created ⟨store.seq .customer, body.name, body.email⟩),
      withRow store.rows .customer (store.seq .customer) (some (newCustomer body (clock 0).now)))
  | .updateCustomer id body =>
    match store.rows .customer id with
    | none => (.customer (customerNotFound id), store.rows)
    | some c =>
      if body.email ≠ c.email ∧ EmailOfOther store.rows body.email id then
        (.customer (.http (emailExists body.email)), store.rows)
      else (.customer (.customer 200 ⟨id, body.name, body.email⟩),
        withRow store.rows .customer id (some ⟨body.name, body.email, c.createdAt⟩))
  | .patchCustomer id body =>
    match store.rows .customer id with
    | none => (.customer (customerNotFound id), store.rows)
    | some c =>
      if body.email.getD c.email ≠ c.email ∧ EmailOfOther store.rows (body.email.getD c.email) id then
        (.customer (.http (emailExists (body.email.getD c.email))), store.rows)
      else (.customer (.customer 200 ⟨id, body.name.getD c.name, body.email.getD c.email⟩),
        withRow store.rows .customer id (some ⟨body.name.getD c.name, body.email.getD c.email, c.createdAt⟩))
  | .deleteCustomer id =>
    match store.rows .customer id with
    | none => (.customer (customerNotFound id), store.rows)
    | some _ =>
      if HasOrders store.rows id then (.customer (.raised "IntegrityError"), store.rows)
      else (.customer .noContent, withRow store.rows .customer id none)
  | .createProduct payload =>
    if NameTaken store.rows payload.name then (.other (.http ⟨409, .productName payload.name⟩), store.rows)
    else if fitsInteger payload.stockQuantity && fitsNumeric payload.unitPrice then
      (.other (.product 201 (store.seq .product) (newProduct payload (clock 1))),
        withRow store.rows .product (store.seq .product) (some (newProduct payload (clock 1))))
    else (.other (.raised "DBAPIError"), store.rows)
  | .updateProduct productId payload =>
    match store.rows .product productId with
    | none => (.other (notFound "Product"), store.rows)
    | some p =>
      let p' : Product :=
        ⟨payload.name, payload.description, payload.unitPrice, payload.stockQuantity, p.createdAt, (clock 1).now⟩
      if unchanged payload p then (.other (.product 200 productId p), store.rows)
      else if !(fitsInteger payload.stockQuantity && fitsNumeric payload.unitPrice) then
        (.other (.raised "DBAPIError"), store.rows)
      else if payload.name ≠ p.name ∧ NameOfOther store.rows payload.name productId then
        (.other (.raised "IntegrityError"), store.rows)
      else (.other (.product 200 productId p'), withRow store.rows .product productId (some p'))
  | .deleteProduct productId =>
    match store.rows .product productId with
    | none => (.other (notFound "Product"), store.rows)
    | some _ =>
      if IsOrdered store.rows productId then (.other (.raised "IntegrityError"), store.rows)
      else (.other .noContent, withRow store.rows .product productId none)
  | .createOrder customerId =>
    match store.rows .customer customerId with
    | none => (.other (.http ⟨422, .text s!"Customer {customerId} not found"⟩), store.rows)
    | some _ => (.other (.order 201 (store.seq .orders) (newOrder customerId (clock 0))),
        withRow store.rows .orders (store.seq .orders) (some (newOrder customerId (clock 0))))
  | .updateOrderStatus orderId status =>
    match store.rows .orders orderId with
    | none => (.other (notFound "Order"), store.rows)
    | some o =>
      let o' : Order := { o with status := status, updatedAt := (clock 1).now }
      if !o.status.canTransitionTo (some status) then
        (.other (.http (invalidStatusTransition o.status status)), store.rows)
      else if status = o.status then (.other (.order 200 orderId o), store.rows)
      else (.other (.order 200 orderId o'), withRow store.rows .orders orderId (some o'))
  | .deleteOrder orderId =>
    match store.rows .orders orderId with
    | none => (.other (notFound "Order"), store.rows)
    | some _ => (.other .noContent, withoutOrder store.rows orderId)
  | .addLine orderId payload =>
    match store.rows .orders orderId, store.rows .product payload.productId with
    | none, _ => (.other (notFound "Order"), store.rows)
    | some _, none => (.other (.http ⟨422, .text s!"Product {payload.productId} not found"⟩), store.rows)
    | some o, some p =>
      let l := newLine orderId payload p (clock 2).now
      let total := linesTotal store.rows orderId + p.unitPrice * payload.quantity
      if fitsInteger payload.quantity && (total = o.totalAmount || fitsNumeric total) then
        (.other (.orderLine 201 (store.seq .orderLine) l),
          withTotal (withRow store.rows .orderLine (store.seq .orderLine) (some l)) orderId o total (clock 5).now)
      else (.other (.raised "DBAPIError"), store.rows)
  | .updateLineStatus orderId lineId payload =>
    match store.rows .orderLine lineId with
    | none => (.other (notFound "OrderLine"), store.rows)
    | some l =>
      let l' : OrderLine := { l with status := payload.status }
      if l.orderId ≠ orderId then (.other (notFound "OrderLine"), store.rows)
      else if !l.status.canTransitionTo (some payload.status) then
        (.other (.http (invalidLineStatusTransition l.status payload)), store.rows)
      else (.other (.orderLine 200 lineId l'), withRow store.rows .orderLine lineId (some l'))
  | .deleteLine orderId lineId =>
    match store.rows .orderLine lineId, store.rows .orders orderId with
    | none, _ => (.other (notFound "OrderLine"), store.rows)
    | some l, o =>
      let total := linesTotal store.rows orderId - l.unitPriceAtOrder * l.quantity
      let rows := withRow store.rows .orderLine lineId none
      if l.orderId ≠ orderId then (.other (notFound "OrderLine"), store.rows)
      else match o with
        | none => (.other .noContent, rows)
        | some o =>
          if total = o.totalAmount || fitsNumeric total then
            (.other .noContent, withTotal rows orderId o total (clock 4).now)
          else (.other (.raised "DBAPIError"), store.rows)

/-- The answer to a request and the rows after it. An id that the driver does not bind ends the request in its exception. -/
noncomputable def Store.spec (store : Store) (clock : Nat → Clock) (request : Request) : Response × Rows Row :=
  if store.Binds request then store.outcome clock request else (request.failure, store.rows)

end IrisService.Rest
