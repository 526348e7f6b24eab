import IrisService.Orders.LineHandlers
import IrisService.Products.Handlers

/-! The order domain under load: any number of clients, each with one request, on one store. -/

namespace IrisService.Orders
open ReadCommitted Products

/-- A validated request, or a call of an MCP tool. -/
inductive Request where
  | createOrder (customerId : Nat)
  | updateOrderStatus (orderId : Nat) (status : OrderStatus)
  | deleteOrder (orderId : Nat)
  | listLines (orderId : Nat)
  | addLine (orderId : Nat) (payload : OrderLineCreate)
  | updateLineStatus (orderId lineId : Nat) (payload : OrderLineStatusUpdate)
  | deleteLine (orderId lineId : Nat)
  | createProduct (payload : ProductCreate)
  | updateProduct (productId : Nat) (payload : ProductCreate)
  | mcpCreateOrder (customerId : Nat)
  | cancelOrder (orderId : Nat)
  deriving DecidableEq, Repr

/-- A request together with where its handler stands. -/
inductive Session where
  | createOrder (customerId : Nat) (at_ : CreateOrder)
  | updateOrderStatus (orderId : Nat) (status : OrderStatus) (at_ : UpdateOrderStatus)
  | deleteOrder (orderId : Nat) (at_ : DeleteOrder)
  | listLines (orderId : Nat) (at_ : ListLines)
  | addLine (orderId : Nat) (payload : OrderLineCreate) (at_ : AddLine)
  | updateLineStatus (orderId lineId : Nat) (payload : OrderLineStatusUpdate) (at_ : UpdateLineStatus)
  | deleteLine (orderId lineId : Nat) (at_ : DeleteLine)
  | createProduct (payload : ProductCreate) (at_ : CreateProduct)
  | updateProduct (productId : Nat) (payload : ProductCreate) (at_ : UpdateProduct)
  | mcpCreateOrder (customerId : Nat) (at_ : McpCreateOrder)
  | cancelOrder (orderId : Nat) (at_ : CancelOrder)

/-- The session in which the request is served. -/
def Request.open : Request → Session
  | .createOrder customerId => .createOrder customerId .start
  | .updateOrderStatus orderId status => .updateOrderStatus orderId status .start
  | .deleteOrder orderId => .deleteOrder orderId .start
  | .listLines orderId => .listLines orderId .start
  | .addLine orderId payload => .addLine orderId payload .start
  | .updateLineStatus orderId lineId payload => .updateLineStatus orderId lineId payload .start
  | .deleteLine orderId lineId => .deleteLine orderId lineId .start
  | .createProduct payload => .createProduct payload .start
  | .updateProduct productId payload => .updateProduct productId payload .start
  | .mcpCreateOrder customerId => .mcpCreateOrder customerId .start
  | .cancelOrder orderId => .cancelOrder orderId .start

/-- What a step reads besides the store: the clock, and the cached order under the idempotency key of an
    MCP `create_order` call. -/
structure Env extends Clock where
  cached : Option (Nat × Order)

def act (e : Env) (s : Session) (v : View Row) : Action Row Session :=
  match s with
  | .createOrder customerId st => (createOrder customerId e.toClock st v).map (.createOrder customerId)
  | .updateOrderStatus orderId status st =>
    (updateOrderStatus orderId status e.now st v).map (.updateOrderStatus orderId status)
  | .deleteOrder orderId st => (deleteOrder orderId st v).map (.deleteOrder orderId)
  | .listLines orderId st => (listLines orderId st v).map (.listLines orderId)
  | .addLine orderId payload st => (addLine orderId payload e.now st v).map (.addLine orderId payload)
  | .updateLineStatus orderId lineId payload st =>
    (updateLineStatus orderId lineId payload st v).map (.updateLineStatus orderId lineId payload)
  | .deleteLine orderId lineId st => (deleteLine orderId lineId e.now st v).map (.deleteLine orderId lineId)
  | .createProduct payload st => (createProduct payload e.toClock st v).map (.createProduct payload)
  | .updateProduct productId payload st =>
      (updateProduct productId payload e.now st v).map (.updateProduct productId payload)
  | .mcpCreateOrder customerId st => (mcpCreateOrder customerId e.toClock e.cached st v).map (.mcpCreateOrder customerId)
  | .cancelOrder orderId st => (cancelOrder orderId e.now st v).map (.cancelOrder orderId)

/-- The reply of a request that is over. -/
def Session.reply? : Session → Option Reply
  | .createOrder _ (.done r) | .updateOrderStatus _ _ (.done r) | .deleteOrder _ (.done r) | .listLines _ (.done r)
  | .addLine _ _ (.done r) | .updateLineStatus _ _ _ (.done r) | .deleteLine _ _ (.done r) | .createProduct _ (.done r)
  | .updateProduct _ _ (.done r) | .mcpCreateOrder _ (.done r) | .cancelOrder _ (.done r) => some r
  | _ => none

/-- What the caller is answered. A handler's reply is sent when the handler returns, and the session is committed after
    it; an MCP tool commits before it returns. -/
def Session.answer? : Session → Option Reply
  | .createOrder _ (.refreshed id order) => some (.order 201 id order)
  | .updateOrderStatus orderId _ (.refreshed _ saved) => some (.order 200 orderId saved)
  | .deleteOrder _ .flushed => some .noContent
  | .listLines _ (.loaded lines) => some (.orderLines lines)
  | .addLine _ _ (.stored _ id line _) => some (.orderLine 201 id line)
  | .updateLineStatus _ lineId _ (.refreshed _ saved) => some (.orderLine 200 lineId saved)
  | .deleteLine _ _ (.stored _ _) | .deleteLine _ _ .gone => some .noContent
  | .createProduct _ (.refreshed id product) => some (.product 201 id product)
  | .updateProduct productId _ (.refreshed product) => some (.product 200 productId product)
  | s => s.reply?

/-- The request has not reached the store yet. -/
def Session.waiting : Session → Bool
  | .createOrder _ .start | .updateOrderStatus _ _ .start | .deleteOrder _ .start | .listLines _ .start
  | .addLine _ _ .start | .updateLineStatus _ _ _ .start | .deleteLine _ _ .start | .createProduct _ .start
  | .updateProduct _ _ .start | .mcpCreateOrder _ .start | .mcpCreateOrder _ .missed | .cancelOrder _ .start => true
  | _ => false

/-- The transaction of the request is over. -/
def Session.closed : Session → Bool
  | .mcpCreateOrder _ (.committed _ _) => true
  | s => s.reply?.isSome

/-- The request has a transaction open. -/
def Session.inFlight (s : Session) : Bool := !s.waiting && !s.closed

/-- The same request, ended with the reply. -/
def Session.ended (r : Reply) : Session → Session
  | .createOrder customerId _ => .createOrder customerId (.done r)
  | .updateOrderStatus orderId status _ => .updateOrderStatus orderId status (.done r)
  | .deleteOrder orderId _ => .deleteOrder orderId (.done r)
  | .listLines orderId _ => .listLines orderId (.done r)
  | .addLine orderId payload _ => .addLine orderId payload (.done r)
  | .updateLineStatus orderId lineId payload _ => .updateLineStatus orderId lineId payload (.done r)
  | .deleteLine orderId lineId _ => .deleteLine orderId lineId (.done r)
  | .createProduct payload _ => .createProduct payload (.done r)
  | .updateProduct productId payload _ => .updateProduct productId payload (.done r)
  | .mcpCreateOrder customerId _ => .mcpCreateOrder customerId (.done r)
  | .cancelOrder orderId _ => .cancelOrder orderId (.done r)

/-- What a request becomes when the store refuses its statement or loses its connection. A commit that is refused comes
    after the reply. -/
def Session.refused (s : Session) : Session :=
  if s.reply?.isSome then s else s.ended (s.answer?.getD (.raised "DBAPIError"))

/-- The sessions as a program over the store. -/
def program : Program Row Session Env := ⟨act, Session.refused⟩

/-- The store and the sessions. -/
abbrev State := Db Row Session

def step : State → Event Env → State := Db.step program

/-- No transaction is open. -/
def AtRest (d : State) : Prop := ∀ i, (d.client i).state.inFlight = false

/-- The store `rows` with one client for each request, none of them started. -/
def initial (rows : Rows Row) (seq : Table → Nat) (requests : Nat → Request) : State :=
  Db.start rows seq fun i => (requests i).open

/-! ### Open transactions -/

/-- Changes are made in an open transaction, and a commit or a rollback ends it. -/
def Opens (s : Session) : Action Row Session → Prop
  | .next s' => s'.inFlight = false → s.inFlight = false
  | .insert _ _ s' => ∀ id, (s' id).inFlight = true
  | .write _ s' => s'.inFlight = true
  | .commit s' | .rollback s' => s'.inFlight = false

theorem act_opens (e : Env) (s : Session) (v : View Row) : Opens s (act e s v) := by
  cases s with
  | createOrder customerId st =>
    cases st <;> simp only [act, createOrder]
    all_goals (repeat' split)
    all_goals simp [Opens, Action.map, Session.inFlight, Session.waiting, Session.closed,
      Session.reply?]
  | updateOrderStatus o status st =>
    cases st <;> simp only [act, updateOrderStatus, update]
    all_goals (repeat' split)
    all_goals simp [Opens, Action.map, Session.inFlight, Session.waiting, Session.closed,
      Session.reply?]
  | deleteOrder o st =>
    cases st <;> simp only [act, deleteOrder]
    all_goals (repeat' split)
    all_goals simp [Opens, Action.map, Session.inFlight, Session.waiting, Session.closed,
      Session.reply?]
  | listLines o st =>
    cases st <;> simp [act, listLines, Opens, Action.map, Session.inFlight, Session.waiting, Session.closed,
      Session.reply?]
  | addLine o payload st =>
    cases st <;> simp only [act, addLine, storeTotal, update]
    all_goals (repeat' split)
    all_goals simp [Opens, Action.map, Session.inFlight, Session.waiting, Session.closed,
      Session.reply?]
  | updateLineStatus o id payload st =>
    cases st <;> simp only [act, updateLineStatus, update]
    all_goals (repeat' split)
    all_goals simp [Opens, Action.map, Session.inFlight, Session.waiting, Session.closed,
      Session.reply?]
  | deleteLine o id st =>
    cases st <;> simp only [act, deleteLine, storeTotal, update]
    all_goals (repeat' split)
    all_goals simp [Opens, Action.map, Session.inFlight, Session.waiting, Session.closed,
      Session.reply?]
  | createProduct payload st =>
    cases st <;> simp only [act, createProduct]
    all_goals (repeat' split)
    all_goals simp [Opens, Action.map, Session.inFlight, Session.waiting, Session.closed,
      Session.reply?]
  | updateProduct id payload st =>
    cases st <;> simp only [act, updateProduct, update]
    all_goals (repeat' split)
    all_goals simp [Opens, Action.map, Session.inFlight, Session.waiting, Session.closed,
      Session.reply?]
  | mcpCreateOrder customerId st =>
    cases st <;> simp only [act, mcpCreateOrder]
    all_goals (repeat' split)
    all_goals simp [Opens, Action.map, Session.inFlight, Session.waiting, Session.closed,
      Session.reply?]
  | cancelOrder o st =>
    cases st <;> simp only [act, cancelOrder, update]
    all_goals (repeat' split)
    all_goals simp [Opens, Action.map, Session.inFlight, Session.waiting, Session.closed,
      Session.reply?]

theorem refused_inFlight (s : Session) : s.refused.inFlight = false := by
  unfold Session.refused
  split
  · rename_i hdone
    have hclosed : s.closed = true := by
      unfold Session.closed
      split
      · rfl
      · exact hdone
    simp [Session.inFlight, hclosed]
  · cases s <;> rfl

/-- A client that has no transaction open has no changes. -/
def Idle (d : State) : Prop := ∀ i, (d.client i).state.inFlight = false → (d.client i).writes = Writes.empty

theorem idle_initial (rows : Rows Row) (seq : Table → Nat) (requests : Nat → Request) : Idle (initial rows seq requests) :=
  fun _ _ => rfl

theorem idle_perform {d : State} {i : Nat} {a : Action Row Session} (h : Idle d) (ha : Opens (d.client i).state a) :
    Idle (d.perform i a) := by
  have hquiet : Db.Idle Session.inFlight d := h
  refine hquiet.perform ?_
  cases a <;> exact ha

theorem idle_step {d : State} (h : Idle d) (e : Event Env) : Idle (step d e) := by
  cases e with
  | step i e => exact idle_perform h (act_opens e _ _)
  | fail i => exact idle_perform (a := .rollback _) h (refused_inFlight _)

end IrisService.Orders
