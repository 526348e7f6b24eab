import IrisService.Orders.OrderHandlers

/-! `order/order_line_router.py`: the lines of an order, and its total. -/

namespace IrisService.Orders
open ReadCommitted

/-! ### _recompute_order_total -/

/-- The sum over the lines that a statement sees of the order. -/
def recomputedTotal (v : View Row) (orderId : Nat) : Nat :=
  ((linesOf v orderId).map fun l => l.2.unitPriceAtOrder * l.2.quantity).sum

/-- Stores the total of `order`, as this session loaded it. A total that equals the loaded one is not
    flushed; one that does not fit its column is refused. A sum past the 28 digits of `Decimal` does not
    fit either way. -/
def storeTotal {S : Type} (v : View Row) (orderId : Nat) (order : Order) (total : Nat) (now : DateTime)
    (flushed : S) (failed : Reply → S) : Action Row S :=
  if total = order.totalAmount then .next flushed
  else if fitsNumeric total then
    update v .orders orderId (fun row => { row with totalAmount := total, updatedAt := now }) flushed (failed staleData)
  else .rollback (failed (.raised "DBAPIError"))

/-! ### list_lines -/

/-- The point that a `list_lines` has come to. -/
inductive ListLines where
  | start
  | loaded (lines : List (Nat × OrderLine))
  | done (r : Reply)

/-- `list_lines` -/
def listLines (orderId : Nat) : ListLines → View Row → Action Row ListLines
  | .start, v => .next (.loaded (linesOf v orderId))
  | .loaded lines, _ => .commit (.done (.orderLines lines))
  | .done r, _ => .next (.done r)

/-! ### add_line -/

/-- The body of `POST /orders/ID/lines`. -/
structure OrderLineCreate where
  productId : Nat
  quantity : Nat
  deriving DecidableEq, Repr

/-- The point that an `add_line` has come to. -/
inductive AddLine where
  | start
  | loaded (order : Order)
  | priced (order : Order) (product : Product)
  | flushed (order : Order) (id : Nat)
  | refreshed (order : Order) (id : Nat) (line : OrderLine)
  | summed (order : Order) (id : Nat) (line : OrderLine) (total : Nat)
  | stored (order : Order) (id : Nat) (line : OrderLine) (total : Nat)
  | done (r : Reply)

/-- A line at the current price of its product. -/
def newLine (orderId : Nat) (payload : OrderLineCreate) (product : Product) (now : DateTime) : OrderLine where
  orderId := orderId
  productId := payload.productId
  quantity := payload.quantity
  unitPriceAtOrder := product.unitPrice
  status := .pending
  createdAt := now

/-- `add_line`: order, product, insertion, refresh, and the total of the order. -/
def addLine (orderId : Nat) (payload : OrderLineCreate) (now : DateTime) : AddLine → View Row → Action Row AddLine
  | .start, v =>
    match v.rows .orders orderId with
    | none => .rollback (.done (notFound "Order"))
    | some order => .next (.loaded order)
  | .loaded order, v =>
    match v.rows .product payload.productId with
    | none => .rollback (.done (.http ⟨422, .text s!"Product {payload.productId} not found"⟩))
    | some product => .next (.priced order product)
  | .priced order product, v =>
    if !fitsInteger payload.quantity then .rollback (.done (.raised "DBAPIError"))
    -- `fk_order_line_order` and `fk_order_line_product`
    else if (v.rows .orders orderId).isSome && (v.rows .product payload.productId).isSome then
      .insert .orderLine (fun _ => newLine orderId payload product now) (.flushed order)
    else .rollback (.done (.raised "IntegrityError"))
  | .flushed order id, v =>
    match v.rows .orderLine id with
    | some line => .next (.refreshed order id line)
    | none => .rollback (.done notRefreshed)
  | .refreshed order id line, v => .next (.summed order id line (recomputedTotal v orderId))
  | .summed order id line total, v => storeTotal v orderId order total now (.stored order id line total) .done
  | .stored _ id line _, _ => .commit (.done (.orderLine 201 id line))
  | .done r, _ => .next (.done r)

/-! ### update_line_status -/

/-- The body of `PATCH /orders/ID/lines/ID/status`. -/
structure OrderLineStatusUpdate where
  status : OrderLineStatus
  reason : Option String
  deriving DecidableEq, Repr

/-- The point that an `update_line_status` has come to. -/
inductive UpdateLineStatus where
  | start
  | checked (line : OrderLine)
  | flushed (line : OrderLine)
  | refreshed (line : OrderLine) (saved : OrderLine)
  | done (r : Reply)

/-- The 409 of a transition that is not allowed. -/
def invalidLineStatusTransition (current : OrderLineStatus) (payload : OrderLineStatusUpdate) : HTTPException where
  statusCode := 409
  detail := .transition "urn:problem:invalid-line-status-transition" "Invalid order line status transition"
    ("Cannot transition line from " ++ current.value ++ " to " ++ payload.status.value) current.value
    payload.status.value (some (payload.reason.getD ""))

/-- `update_line_status`: checked against the row as it was read. -/
def updateLineStatus (orderId lineId : Nat) (payload : OrderLineStatusUpdate) :
    UpdateLineStatus → View Row → Action Row UpdateLineStatus
  | .start, v =>
    match v.rows .orderLine lineId with
    | none => .rollback (.done (notFound "OrderLine"))
    | some line =>
      if line.orderId ≠ orderId then .rollback (.done (notFound "OrderLine"))
      else if line.status.canTransitionTo (some payload.status) then .next (.checked line)
      else .rollback (.done (.http (invalidLineStatusTransition line.status payload)))
  | .checked line, v =>
    if payload.status = line.status then .next (.flushed line)
    else update v .orderLine lineId (fun row => { row with status := payload.status }) (.flushed line) (.done staleData)
  | .flushed line, v =>
    match v.rows .orderLine lineId with
    | some saved => .next (.refreshed line saved)
    | none => .rollback (.done notRefreshed)
  | .refreshed _ saved, _ => .commit (.done (.orderLine 200 lineId saved))
  | .done r, _ => .next (.done r)

/-! ### delete_line -/

/-- The point that a `delete_line` has come to. -/
inductive DeleteLine where
  | start
  | loaded (line : OrderLine)
  | flushed
  | ordered (order : Order)
  | summed (order : Order) (total : Nat)
  | stored (order : Order) (total : Nat)
  | gone
  | done (r : Reply)

/-- `delete_line`: the line goes, and the total of its order is summed again. -/
def deleteLine (orderId lineId : Nat) (now : DateTime) : DeleteLine → View Row → Action Row DeleteLine
  | .start, v =>
    match v.rows .orderLine lineId with
    | none => .rollback (.done (notFound "OrderLine"))
    | some line => if line.orderId ≠ orderId then .rollback (.done (notFound "OrderLine")) else .next (.loaded line)
  | .loaded _, v =>
    match v.rows .orderLine lineId with
    | some _ => .write [⟨.orderLine, lineId, none⟩] .flushed
    -- The ORM only warns about a DELETE that matches no row.
    | none => .next .flushed
  | .flushed, v =>
    match v.rows .orders orderId with
    | some order => .next (.ordered order)
    | none => .next .gone
  | .ordered order, v => .next (.summed order (recomputedTotal v orderId))
  | .summed order total, v => storeTotal v orderId order total now (.stored order total) .done
  | .stored _ _, _ => .commit (.done .noContent)
  | .gone, _ => .commit (.done .noContent)
  | .done r, _ => .next (.done r)

end IrisService.Orders
