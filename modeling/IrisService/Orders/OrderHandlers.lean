import IrisService.Http

/-! `order/router.py`: the handlers that write `orders`, and the MCP tools on orders of `mcp/tools.py`.

A handler is a machine that stops at each `await` on the session. What the code holds in its local
variables there is the machine's state; `done` is reached when `get_db_session` has committed or rolled
back. -/

namespace IrisService.Orders
open ReadCommitted

/-- `UPDATE … WHERE id = …` of one row. The ORM raises when the statement matches no row. -/
def update {S : Type} (v : View Row) (t : Table) (id : Nat) (set : Row t → Row t) (flushed stale : S) : Action Row S :=
  match v.rows t id with
  | some row => .write [⟨t, id, some (set row)⟩] flushed
  | none => .rollback stale

/-- The exception of an `UPDATE` that finds no row. -/
def staleData : Reply := .raised "StaleDataError"

/-- `session.refresh` of a row that is no longer there. -/
def notRefreshed : Reply := .raised "InvalidRequestError"

/-! ### create_order -/

/-- The point that a `create_order` has come to. -/
inductive CreateOrder where
  | start
  | flushed (id : Nat)
  | refreshed (id : Nat) (order : Order)
  | done (r : Reply)

/-- The row of a new order; the defaults of `created_at` and `updated_at` each read the clock. -/
def newOrder (customerId : Nat) (clock : Clock) : Order where
  customerId := customerId
  status := .pending
  totalAmount := 0
  createdAt := clock.now
  updatedAt := clock.next

/-- `create_order`: the customer is checked by its foreign key. -/
def createOrder (customerId : Nat) (clock : Clock) : CreateOrder → View Row → Action Row CreateOrder
  | .start, v =>
    -- `fk_orders_customer`
    if (v.rows .customer customerId).isSome then .insert .orders (fun _ => newOrder customerId clock) .flushed
    else .rollback (.done (.http ⟨422, .text s!"Customer {customerId} not found"⟩))
  | .flushed id, v =>
    match v.rows .orders id with
    | some order => .next (.refreshed id order)
    | none => .rollback (.done notRefreshed)
  | .refreshed id order, _ => .commit (.done (.order 201 id order))
  | .done r, _ => .next (.done r)

/-! ### update_order_status -/

/-- The point that an `update_order_status` has come to. -/
inductive UpdateOrderStatus where
  | start
  | checked (order : Order)
  | flushed (order : Order)
  | refreshed (order : Order) (saved : Order)
  | done (r : Reply)

/-- The 409 of a transition that is not allowed. -/
def invalidStatusTransition (current target : OrderStatus) : HTTPException where
  statusCode := 409
  detail := .transition "urn:problem:invalid-status-transition" "Invalid order status transition"
    ("Cannot transition from " ++ current.value ++ " to " ++ target.value) current.value target.value none

/-- `update_order_status`: checked against the row as it was read. -/
def updateOrderStatus (orderId : Nat) (target : OrderStatus) (now : DateTime) :
    UpdateOrderStatus → View Row → Action Row UpdateOrderStatus
  | .start, v =>
    match v.rows .orders orderId with
    | none => .rollback (.done (notFound "Order"))
    | some order =>
      if order.status.canTransitionTo (some target) then .next (.checked order)
      else .rollback (.done (.http (invalidStatusTransition order.status target)))
  | .checked order, v =>
    -- An unchanged attribute is not flushed.
    if target = order.status then .next (.flushed order)
    else update v .orders orderId (fun row => { row with status := target, updatedAt := now }) (.flushed order)
      (.done staleData)
  | .flushed order, v =>
    match v.rows .orders orderId with
    | some saved => .next (.refreshed order saved)
    | none => .rollback (.done notRefreshed)
  | .refreshed _ saved, _ => .commit (.done (.order 200 orderId saved))
  | .done r, _ => .next (.done r)

/-! ### delete_order -/

/-- The point that a `delete_order` has come to. -/
inductive DeleteOrder where
  | start
  | loaded
  | flushed
  | done (r : Reply)

/-- The lines of an order that a statement sees. -/
def linesOf (v : View Row) (orderId : Nat) : List (Nat × OrderLine) :=
  (select v .orderLine).filter fun l => l.2.orderId = orderId

/-- `delete_order`: the lines go with the order. -/
def deleteOrder (orderId : Nat) : DeleteOrder → View Row → Action Row DeleteOrder
  | .start, v =>
    match v.rows .orders orderId with
    | none => .rollback (.done (notFound "Order"))
    | some _ => .next .loaded
  | .loaded, v =>
    match v.rows .orders orderId with
    -- `fk_order_line_order` cascades.
    | some _ => .write (⟨.orders, orderId, none⟩ :: (linesOf v orderId).map fun l => ⟨.orderLine, l.1, none⟩) .flushed
    -- The ORM only warns about a DELETE that matches no row.
    | none => .next .flushed
  | .flushed, _ => .commit (.done .noContent)
  | .done r, _ => .next (.done r)

/-! ### The MCP tools -/

/-- The point that the tool `create_order` has come to. -/
inductive McpCreateOrder where
  | start
  /-- The key is not in the cache. -/
  | missed
  | flushed (id : Nat)
  | refreshed (id : Nat) (order : Order)
  /-- The session is being closed. -/
  | committed (id : Nat) (order : Order)
  | done (r : Reply)

/-- `create_order` of `mcp/tools.py`; `cached` is the entry of the idempotency cache under its key. -/
def mcpCreateOrder (customerId : Nat) (clock : Clock) (cached : Option (Nat × Order)) :
    McpCreateOrder → View Row → Action Row McpCreateOrder
  | .start, _ =>
    match cached with
    | some ref => .next (.done (.orderRef ref.1 ref.2))
    | none => .next .missed
  | .missed, v =>
    if (v.rows .customer customerId).isSome then .insert .orders (fun _ => newOrder customerId clock) .flushed
    else .rollback (.done (.toolNotFound "Customer" customerId))
  | .flushed id, v =>
    match v.rows .orders id with
    | some order => .next (.refreshed id order)
    | none => .rollback (.done notRefreshed)
  | .refreshed id order, _ => .commit (.committed id order)
  | .committed id order, _ => .next (.done (.orderRef id order))
  | .done r, _ => .next (.done r)

/-- The point that the tool `cancel_order` has come to. -/
inductive CancelOrder where
  | start
  | loaded (order : Order)
  | flushed (order : Order)
  | done (r : Reply)

/-- The tool `cancel_order`: only the status is set. -/
def cancelOrder (orderId : Nat) (now : DateTime) : CancelOrder → View Row → Action Row CancelOrder
  | .start, v =>
    match v.rows .orders orderId with
    | none => .rollback (.done (.toolNotFound "Order" orderId))
    | some order => .next (.loaded order)
  | .loaded order, v =>
    if order.status = .cancelled then .next (.flushed order)
    else update v .orders orderId (fun row => { row with status := .cancelled, updatedAt := now }) (.flushed order)
      (.done staleData)
  | .flushed order, _ => .commit (.done (.cancelResult orderId true order.status))
  | .done r, _ => .next (.done r)

end IrisService.Orders
