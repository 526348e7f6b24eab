import IrisService.Customers.Handlers
import IrisService.Orders.System

/-! The requests of the API that write customers, products, orders and order lines. -/

namespace IrisService.Rest
open ReadCommitted Orders Products Customers

/-- A validated request. Its ids are told from 0 on: a lower one is that of no row, and below -2³¹ the driver refuses it
    as it does from 2³¹ on. -/
inductive Request where
  | createCustomer (body : CustomerCreate)
  | updateCustomer (id : Nat) (body : CustomerCreate)
  | patchCustomer (id : Nat) (body : CustomerPatch)
  | deleteCustomer (id : Nat)
  | createProduct (payload : ProductCreate)
  | updateProduct (productId : Nat) (payload : ProductCreate)
  | deleteProduct (productId : Nat)
  | createOrder (customerId : Nat)
  | updateOrderStatus (orderId : Nat) (status : OrderStatus)
  | deleteOrder (orderId : Nat)
  | addLine (orderId : Nat) (payload : OrderLineCreate)
  | updateLineStatus (orderId lineId : Nat) (payload : OrderLineStatusUpdate)
  | deleteLine (orderId lineId : Nat)

/-- A request together with where its handler stands. -/
inductive Session where
  | createCustomer (body : CustomerCreate) (at_ : Create)
  | updateCustomer (id : Nat) (body : CustomerCreate) (at_ : UpdateCustomer)
  | patchCustomer (id : Nat) (body : CustomerPatch) (at_ : UpdateCustomer)
  | deleteCustomer (id : Nat) (at_ : DeleteCustomer)
  | deleteProduct (productId : Nat) (at_ : DeleteProduct)
  | other (session : Orders.Session)

/-- The request as it comes in. -/
def Request.open : Request → Session
  | .createCustomer body => .createCustomer body .start
  | .updateCustomer id body => .updateCustomer id body .start
  | .patchCustomer id body => .patchCustomer id body .start
  | .deleteCustomer id => .deleteCustomer id .start
  | .createProduct payload => .other (.createProduct payload .start)
  | .updateProduct productId payload => .other (.updateProduct productId payload .start)
  | .deleteProduct productId => .deleteProduct productId .start
  | .createOrder customerId => .other (.createOrder customerId .start)
  | .updateOrderStatus orderId status => .other (.updateOrderStatus orderId status .start)
  | .deleteOrder orderId => .other (.deleteOrder orderId .start)
  | .addLine orderId payload => .other (.addLine orderId payload .start)
  | .updateLineStatus orderId lineId payload => .other (.updateLineStatus orderId lineId payload .start)
  | .deleteLine orderId lineId => .other (.deleteLine orderId lineId .start)

/-- The request that a session serves; a listing and the MCP tools are none of these. -/
def Session.request? : Session → Option Request
  | .createCustomer body _ => some (.createCustomer body)
  | .updateCustomer id body _ => some (.updateCustomer id body)
  | .patchCustomer id body _ => some (.patchCustomer id body)
  | .deleteCustomer id _ => some (.deleteCustomer id)
  | .deleteProduct productId _ => some (.deleteProduct productId)
  | .other (.createProduct payload _) => some (.createProduct payload)
  | .other (.updateProduct productId payload _) => some (.updateProduct productId payload)
  | .other (.createOrder customerId _) => some (.createOrder customerId)
  | .other (.updateOrderStatus orderId status _) => some (.updateOrderStatus orderId status)
  | .other (.deleteOrder orderId _) => some (.deleteOrder orderId)
  | .other (.addLine orderId payload _) => some (.addLine orderId payload)
  | .other (.updateLineStatus orderId lineId payload _) => some (.updateLineStatus orderId lineId payload)
  | .other (.deleteLine orderId lineId _) => some (.deleteLine orderId lineId)
  | .other (.listLines _ _) | .other (.mcpCreateOrder _ _) | .other (.cancelOrder _ _) => none

@[simp] theorem Request.request?_open (request : Request) : request.open.request? = some request := by
  cases request <;> rfl

/-- A step of the handler, where the driver lets its statement through. -/
def handle (clock : Clock) (s : Session) (v : View Row) : Action Row Session :=
  match s with
  | .createCustomer body st => (Customers.createCustomer body clock.now st v).map (.createCustomer body)
  | .updateCustomer id body st => (Customers.updateCustomer id body st v).map (.updateCustomer id body)
  | .patchCustomer id body st => (Customers.patchCustomer id body st v).map (.patchCustomer id body)
  | .deleteCustomer id st => (Customers.deleteCustomer id st v).map (.deleteCustomer id)
  | .deleteProduct productId st => (Products.deleteProduct productId st v).map (.deleteProduct productId)
  | .other session => (Orders.act ⟨clock, none⟩ session v).map .other

/-! ### Responses -/

/-- What the client of a request is answered. -/
inductive Response where
  | created (a : Customers.Answer)
  | customer (r : CustomerReply)
  | other (r : Reply)
  deriving DecidableEq

/-- The response of a request that is over. -/
def Session.response? : Session → Option Response
  | .createCustomer _ (.done a) => some (.created a)
  | .updateCustomer _ _ (.done r) | .patchCustomer _ _ (.done r) | .deleteCustomer _ (.done r) => some (.customer r)
  | .deleteProduct _ (.done r) => some (.other r)
  | .other session => session.reply?.map .other
  | _ => none

/-- The status that FastAPI sends; what an MCP tool returns has none. -/
def Response.statusCode : Response → Option Nat
  | .created (.created _) => some 201
  | .created (.http exc) | .customer (.http exc) | .other (.http exc) => some exc.statusCode
  | .created (.raised _) | .customer (.raised _) | .other (.raised _) => some 500
  | .customer (.customer statusCode _) => some statusCode
  | .customer .noContent | .other .noContent => some 204
  | .other (.order statusCode _ _) | .other (.orderLine statusCode _ _) | .other (.product statusCode _ _) =>
      some statusCode
  | .other (.orderLines _) => some 200
  | .other (.orderRef _ _) | .other (.cancelResult _ _ _) | .other (.toolNotFound _ _) => none

/-- The class of an exception that no handler catches. -/
def Response.escaped : Response → Option String
  | .created (.raised exc) | .customer (.raised exc) | .other (.raised exc) => some exc
  | _ => none

/-- The request is answered 2xx. -/
def Response.succeeded (r : Response) : Bool := r.statusCode.any fun c => 200 ≤ c && c < 300

/-- What the client is answered. The response is sent when the handler returns, and the session is committed after it. -/
def Session.answer? : Session → Option Response
  | .createCustomer _ (.published dto) => some (.created (.created dto))
  | .updateCustomer _ _ (.flushed dto) | .patchCustomer _ _ (.flushed dto) => some (.customer (.customer 200 dto))
  | .deleteCustomer _ .flushed => some (.customer .noContent)
  | .deleteProduct _ .flushed => some (.other .noContent)
  | .other session => session.answer?.map .other
  | s => s.response?

/-! ### The driver -/

/-- The id that the next statement is the first to bind. asyncpg encodes an `INTEGER` argument in 32 bits, and refuses
    one that does not fit before its statement is sent. -/
def Session.binds : Session → Option Nat
  | .updateCustomer id _ .start | .patchCustomer id _ .start | .deleteCustomer id .start => some id
  | .deleteProduct productId .start | .other (.updateProduct productId _ .start) => some productId
  | .other (.createOrder customerId .start) | .other (.mcpCreateOrder customerId .missed) => some customerId
  | .other (.updateOrderStatus orderId _ .start) | .other (.deleteOrder orderId .start) => some orderId
  | .other (.listLines orderId .start) | .other (.cancelOrder orderId .start) => some orderId
  | .other (.addLine orderId _ .start) => some orderId
  | .other (.addLine _ payload (.loaded _)) => some payload.productId
  | .other (.updateLineStatus _ lineId _ .start) | .other (.deleteLine _ lineId .start) => some lineId
  | _ => none

/-! ### The program -/

/-- What becomes of a request whose statement is refused, by the driver or by the store, or whose connection is lost. A
    commit that is refused comes after the answer. -/
def Session.refused (s : Session) : Session :=
  match s with
  | .createCustomer body st => match st with
    | .done a => .createCustomer body (.done a)
    | .published dto => .createCustomer body (.done (.created dto))
    | _ => .createCustomer body (.done (.raised "DBAPIError"))
  | .updateCustomer id body st => match st with
    | .done r => .updateCustomer id body (.done r)
    | .flushed dto => .updateCustomer id body (.done (.customer 200 dto))
    | _ => .updateCustomer id body (.done (.raised "DBAPIError"))
  | .patchCustomer id body st => match st with
    | .done r => .patchCustomer id body (.done r)
    | .flushed dto => .patchCustomer id body (.done (.customer 200 dto))
    | _ => .patchCustomer id body (.done (.raised "DBAPIError"))
  | .deleteCustomer id st => match st with
    | .done r => .deleteCustomer id (.done r)
    | .flushed => .deleteCustomer id (.done .noContent)
    | _ => .deleteCustomer id (.done (.raised "DBAPIError"))
  | .deleteProduct productId st => match st with
    | .done r => .deleteProduct productId (.done r)
    | .flushed => .deleteProduct productId (.done .noContent)
    | _ => .deleteProduct productId (.done (.raised "DBAPIError"))
  | .other session => .other session.refused

/-- A step of the handler through the driver. -/
def act (clock : Clock) (s : Session) (v : View Row) : Action Row Session :=
  if s.binds.all fitsInteger then handle clock s v else .rollback s.refused

theorem act_of_binds {clock : Clock} {s : Session} {v : View Row} (h : s.binds.all fitsInteger = true) :
    act clock s v = handle clock s v := if_pos h

theorem act_of_not_binds {clock : Clock} {s : Session} {v : View Row} (h : s.binds.all fitsInteger = false) :
    act clock s v = .rollback s.refused := if_neg (Bool.eq_false_iff.mp h)

/-- What holds of the handler's step, and of a refusal by the driver. -/
theorem act_of {clock : Clock} {s : Session} {v : View Row} {P : Action Row Session → Prop} (hhandle : P (handle clock s v))
    (hrefused : s.binds.all fitsInteger = false → P (.rollback s.refused)) : P (act clock s v) := by
  cases h : s.binds.all fitsInteger with
  | true =>
    rw [act_of_binds h]
    exact hhandle
  | false =>
    rw [act_of_not_binds h]
    exact hrefused h

/-- The requests as transactions. -/
def program : Program Row Session Clock := ⟨act, Session.refused⟩

/-- The store with its requests. -/
abbrev State := Db Row Session

end IrisService.Rest
