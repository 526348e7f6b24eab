import IrisService.Rest.Requests

/-! What one step of a request can do, whatever the other transactions do. -/

namespace IrisService.Rest
open ReadCommitted Orders Products Customers

/-- The steps left to the end of a request, at most. -/
def Session.left : Session → Nat
  | .createCustomer _ st => match st with
    | .start => 5
    | .flushed _ => 4
    | .pushed _ => 3
    | .buffered _ => 2
    | .published _ => 1
    | .done _ => 0
  | .updateCustomer _ _ st | .patchCustomer _ _ st => match st with
    | .start => 3
    | .loaded _ => 2
    | .flushed _ => 1
    | .done _ => 0
  | .deleteCustomer _ st => match st with
    | .start => 3
    | .loaded => 2
    | .flushed => 1
    | .done _ => 0
  | .deleteProduct _ st => match st with
    | .start => 3
    | .loaded => 2
    | .flushed => 1
    | .done _ => 0
  | .other (.createProduct _ st) => match st with
    | .start => 4
    | .checked => 3
    | .flushed _ => 2
    | .refreshed _ _ => 1
    | .done _ => 0
  | .other (.updateProduct _ _ st) => match st with
    | .start => 4
    | .loaded _ => 3
    | .flushed => 2
    | .refreshed _ => 1
    | .done _ => 0
  | .other (.createOrder _ st) => match st with
    | .start => 3
    | .flushed _ => 2
    | .refreshed _ _ => 1
    | .done _ => 0
  | .other (.updateOrderStatus _ _ st) => match st with
    | .start => 4
    | .checked _ => 3
    | .flushed _ => 2
    | .refreshed _ _ => 1
    | .done _ => 0
  | .other (.deleteOrder _ st) => match st with
    | .start => 3
    | .loaded => 2
    | .flushed => 1
    | .done _ => 0
  | .other (.addLine _ _ st) => match st with
    | .start => 7
    | .loaded _ => 6
    | .priced _ _ => 5
    | .flushed _ _ => 4
    | .refreshed _ _ _ => 3
    | .summed _ _ _ _ => 2
    | .stored _ _ _ _ => 1
    | .done _ => 0
  | .other (.updateLineStatus _ _ _ st) => match st with
    | .start => 4
    | .checked _ => 3
    | .flushed _ => 2
    | .refreshed _ _ => 1
    | .done _ => 0
  | .other (.deleteLine _ _ st) => match st with
    | .start => 6
    | .loaded _ => 5
    | .flushed => 4
    | .ordered _ => 3
    | .summed _ _ => 2
    | .stored _ _ | .gone => 1
    | .done _ => 0
  | .other (.listLines _ _) | .other (.mcpCreateOrder _ _) | .other (.cancelOrder _ _) => 0

theorem left_eq_zero {s : Session} {r : Response} (h : s.response? = some r) : s.left = 0 := by
  cases s with
  | other session =>
    cases session with
    | listLines orderId st => rfl
    | mcpCreateOrder customerId st => rfl
    | cancelOrder orderId st => rfl
    | _ => rename_i st; cases st <;> first | rfl | cases h
  | _ => rename_i st; cases st <;> first | rfl | cases h

theorem answered_of_left {s : Session} (hs : s.request? ≠ none) (h : s.left = 0) : s.response? ≠ none := by
  cases s with
  | other session =>
    cases session with
    | listLines orderId st => exact absurd rfl hs
    | mcpCreateOrder customerId st => exact absurd rfl hs
    | cancelOrder orderId st => exact absurd rfl hs
    | _ => rename_i st; cases st <;> simp [Session.left, Session.response?, Orders.Session.reply?] at h ⊢
  | _ => rename_i st; cases st <;> simp [Session.left, Session.response?] at h ⊢

/-- The handler is past the statement that a constraint may refuse. -/
def Session.flushed : Session → Bool
  | .createCustomer _ (.flushed _) | .createCustomer _ (.pushed _) | .createCustomer _ (.buffered _)
  | .createCustomer _ (.published _) => true
  | .updateCustomer _ _ (.flushed _) | .patchCustomer _ _ (.flushed _) => true
  | .deleteCustomer _ .flushed | .deleteProduct _ .flushed | .other (.deleteOrder _ .flushed) => true
  | .other (.createProduct _ (.flushed _)) | .other (.createProduct _ (.refreshed _ _)) => true
  | .other (.updateProduct _ _ .flushed) | .other (.updateProduct _ _ (.refreshed _)) => true
  | .other (.createOrder _ (.flushed _)) | .other (.createOrder _ (.refreshed _ _)) => true
  | .other (.updateOrderStatus _ _ (.flushed _)) | .other (.updateOrderStatus _ _ (.refreshed _ _)) => true
  | .other (.addLine _ _ (.flushed _ _)) | .other (.addLine _ _ (.refreshed _ _ _))
  | .other (.addLine _ _ (.summed _ _ _ _)) | .other (.addLine _ _ (.stored _ _ _ _)) => true
  | .other (.updateLineStatus _ _ _ (.flushed _)) | .other (.updateLineStatus _ _ _ (.refreshed _ _)) => true
  | .other (.deleteLine _ _ .flushed) | .other (.deleteLine _ _ (.ordered _)) | .other (.deleteLine _ _ (.summed _ _))
  | .other (.deleteLine _ _ (.stored _ _)) | .other (.deleteLine _ _ .gone) => true
  | _ => false

/-- The store refuses the statement, and the handler has no `except IntegrityError`. -/
def Session.uncaught (v : View Row) : Session → Bool
  | .deleteCustomer id .loaded => (select v .orders).any fun o => o.2.customerId = id
  | .deleteProduct productId .loaded => (select v .orderLine).any fun l => l.2.productId = productId
  | .other (.updateProduct productId payload (.loaded product)) =>
    payload.name ≠ product.name && nameTaken v payload.name productId
  | .other (.addLine orderId payload (.priced _ _)) =>
    !((v.rows .orders orderId).isSome && (v.rows .product payload.productId).isSome)
  | _ => false

/-- The request gets on with its work: it is not answered, and it stays flushed once it is. -/
structure Session.Moves (s s' : Session) : Prop where
  request : s'.request? = s.request?
  left : s'.left < s.left
  unanswered : s'.response? = none
  flushed : s.flushed = true → s'.flushed = true

/-- The request is answered. -/
structure Session.Ends (s s' : Session) (r : Response) : Prop where
  request : s'.request? = s.request?
  unanswered : s.response? = none
  left : s'.left = 0
  response : s'.response? = some r

/-- A commit is answered 2xx and a rollback is not; an answer stays. Only rows that the statement sees are written. -/
def Proceeds (v : View Row) (s : Session) : Action Row Session → Prop
  | .next s' => s.response? ≠ none ∧ s' = s ∨ s.Moves s'
  | .insert _ _ s' => ∀ id, s.Moves (s' id) ∧ (s' id).flushed = true
  | .write cs s' => (Action.write cs s').Visible v ∧ s.Moves s' ∧ s'.flushed = true
  | .commit s' => ∃ r, s.Ends s' r ∧ r.succeeded = true ∧ r.escaped = none
  | .rollback s' => ∃ r, s.Ends s' r ∧ r.succeeded = false ∧ (r.escaped = some "IntegrityError" → s.uncaught v = true)

section Handlers
variable {v : View Row} {clock : Clock}

/-- An UPDATE whose row is gone ends in an exception of the ORM. -/
theorem update_proceeds {S : Type} {f : S → Session} {s : Session} {r : Response} {t : Table} {id : Nat}
    {set : Row t → Row t} {flushed stale : S} (hmoves : s.Moves (f flushed)) (hflushed : (f flushed).flushed = true)
    (hends : s.Ends (f stale) r) (hr : r.escaped = some "StaleDataError" ∧ r.succeeded = false) :
    Proceeds v s ((update v t id set flushed stale).map f) := by
  unfold update
  split
  · rename_i hrow
    exact ⟨Action.visible_singleton hrow, hmoves, hflushed⟩
  · exact ⟨r, hends, hr.2, by simp [hr.1]⟩

/-! ### Customers -/

theorem createCustomer_proceeds (body : CustomerCreate) (st : Create) :
    Proceeds v (.createCustomer body st) (handle clock (.createCustomer body st) v) := by
  cases st with
  | start =>
    simp only [handle, Customers.createCustomer]
    split
    · exact ⟨_, ⟨rfl, rfl, rfl, rfl⟩, rfl, by simp [Response.escaped]⟩
    · exact fun id => ⟨⟨rfl, Nat.lt_add_one 4, rfl, fun _ => rfl⟩, rfl⟩
  | flushed dto => exact Or.inr ⟨rfl, Nat.lt_add_one 3, rfl, fun _ => rfl⟩
  | pushed dto => exact Or.inr ⟨rfl, Nat.lt_add_one 2, rfl, fun _ => rfl⟩
  | buffered dto => exact Or.inr ⟨rfl, Nat.lt_add_one 1, rfl, fun _ => rfl⟩
  | published dto => exact ⟨_, ⟨rfl, rfl, rfl, rfl⟩, rfl, rfl⟩
  | done a => exact Or.inl ⟨by simp [Session.response?], rfl⟩

theorem flushCustomer_proceeds {S : Type} {f : S → Session} {s : Session} {r r' : Response} {id : Nat}
    {loaded : Customer} {name email : String} {flushed conflict stale : S} (hmoves : s.Moves (f flushed))
    (hflushed : (f flushed).flushed = true) (hconflict : s.Ends (f conflict) r)
    (hr : r.escaped = none ∧ r.succeeded = false)
    (hstale : s.Ends (f stale) r') (hr' : r'.escaped = some "StaleDataError" ∧ r'.succeeded = false) :
    Proceeds v s ((flushCustomer v id loaded name email flushed conflict stale).map f) := by
  unfold flushCustomer
  split
  · exact Or.inr hmoves
  · split
    · exact ⟨r, hconflict, hr.2, by simp [hr.1]⟩
    · exact update_proceeds hmoves hflushed hstale hr'

theorem updateCustomer_proceeds (id : Nat) (body : CustomerCreate) (st : UpdateCustomer) :
    Proceeds v (.updateCustomer id body st) (handle clock (.updateCustomer id body st) v) := by
  cases st with
  | start =>
    simp only [handle, Customers.updateCustomer]
    split
    · exact ⟨_, ⟨rfl, rfl, rfl, rfl⟩, rfl, by simp [Response.escaped, customerNotFound]⟩
    · exact Or.inr ⟨rfl, Nat.lt_add_one 2, rfl, fun h => h⟩
  | loaded customer =>
    exact flushCustomer_proceeds ⟨rfl, Nat.lt_add_one 1, rfl, fun _ => rfl⟩ rfl ⟨rfl, rfl, rfl, rfl⟩ ⟨rfl, rfl⟩
      ⟨rfl, rfl, rfl, rfl⟩ ⟨rfl, rfl⟩
  | flushed dto => exact ⟨_, ⟨rfl, rfl, rfl, rfl⟩, rfl, rfl⟩
  | done r => exact Or.inl ⟨by simp [Session.response?], rfl⟩

theorem patchCustomer_proceeds (id : Nat) (body : CustomerPatch) (st : UpdateCustomer) :
    Proceeds v (.patchCustomer id body st) (handle clock (.patchCustomer id body st) v) := by
  cases st with
  | start =>
    simp only [handle, Customers.patchCustomer]
    split
    · exact ⟨_, ⟨rfl, rfl, rfl, rfl⟩, rfl, by simp [Response.escaped, customerNotFound]⟩
    · exact Or.inr ⟨rfl, Nat.lt_add_one 2, rfl, fun h => h⟩
  | loaded customer =>
    exact flushCustomer_proceeds ⟨rfl, Nat.lt_add_one 1, rfl, fun _ => rfl⟩ rfl ⟨rfl, rfl, rfl, rfl⟩ ⟨rfl, rfl⟩
      ⟨rfl, rfl, rfl, rfl⟩ ⟨rfl, rfl⟩
  | flushed dto => exact ⟨_, ⟨rfl, rfl, rfl, rfl⟩, rfl, rfl⟩
  | done r => exact Or.inl ⟨by simp [Session.response?], rfl⟩

theorem deleteCustomer_proceeds (id : Nat) (st : DeleteCustomer) :
    Proceeds v (.deleteCustomer id st) (handle clock (.deleteCustomer id st) v) := by
  cases st with
  | start =>
    simp only [handle, Customers.deleteCustomer]
    split
    · exact ⟨_, ⟨rfl, rfl, rfl, rfl⟩, rfl, by simp [Response.escaped, customerNotFound]⟩
    · exact Or.inr ⟨rfl, Nat.lt_add_one 2, rfl, fun h => h⟩
  | loaded =>
    simp only [handle, Customers.deleteCustomer]
    split
    · rename_i hreferred
      exact ⟨_, ⟨rfl, rfl, rfl, rfl⟩, rfl, fun _ => hreferred⟩
    · split
      · rename_i hrow
        exact ⟨Action.visible_singleton hrow, ⟨rfl, Nat.lt_add_one 1, rfl, fun _ => rfl⟩, rfl⟩
      · exact Or.inr ⟨rfl, Nat.lt_add_one 1, rfl, fun _ => rfl⟩
  | flushed => exact ⟨_, ⟨rfl, rfl, rfl, rfl⟩, rfl, rfl⟩
  | done r => exact Or.inl ⟨by simp [Session.response?], rfl⟩

/-! ### Products -/

theorem createProduct_proceeds (payload : ProductCreate) (st : CreateProduct) :
    Proceeds v (.other (.createProduct payload st)) (handle clock (.other (.createProduct payload st)) v) := by
  cases st with
  | start =>
    simp only [handle, Orders.act, Products.createProduct]
    split
    · exact ⟨_, ⟨rfl, rfl, rfl, rfl⟩, rfl, by simp [Response.escaped]⟩
    · exact Or.inr ⟨rfl, Nat.lt_add_one 3, rfl, fun h => h⟩
  | checked =>
    simp only [handle, Orders.act, Products.createProduct]
    split
    · exact ⟨_, ⟨rfl, rfl, rfl, rfl⟩, rfl, by simp [Response.escaped]⟩
    · split
      · exact ⟨_, ⟨rfl, rfl, rfl, rfl⟩, rfl, by simp [Response.escaped]⟩
      · exact fun id => ⟨⟨rfl, Nat.lt_add_one 2, rfl, fun _ => rfl⟩, rfl⟩
  | flushed id =>
    simp only [handle, Orders.act, Products.createProduct]
    split
    · exact Or.inr ⟨rfl, Nat.lt_add_one 1, rfl, fun _ => rfl⟩
    · exact ⟨_, ⟨rfl, rfl, rfl, rfl⟩, rfl, by simp [Response.escaped, notRefreshed]⟩
  | refreshed id product => exact ⟨_, ⟨rfl, rfl, rfl, rfl⟩, rfl, rfl⟩
  | done r => exact Or.inl ⟨by simp [Session.response?, Session.reply?], rfl⟩

theorem updateProduct_proceeds (productId : Nat) (payload : ProductCreate) (st : UpdateProduct) :
    Proceeds v (.other (.updateProduct productId payload st))
      (handle clock (.other (.updateProduct productId payload st)) v) := by
  cases st with
  | start =>
    simp only [handle, Orders.act, Products.updateProduct]
    split
    · exact ⟨_, ⟨rfl, rfl, rfl, rfl⟩, rfl, by simp [Response.escaped, notFound]⟩
    · exact Or.inr ⟨rfl, Nat.lt_add_one 3, rfl, fun h => h⟩
  | loaded product =>
    simp only [handle, Orders.act, Products.updateProduct]
    split
    · exact Or.inr ⟨rfl, Nat.lt_add_one 2, rfl, fun _ => rfl⟩
    · split
      · exact ⟨_, ⟨rfl, rfl, rfl, rfl⟩, rfl, by simp [Response.escaped]⟩
      · split
        · rename_i htaken
          exact ⟨_, ⟨rfl, rfl, rfl, rfl⟩, rfl, fun _ => htaken⟩
        · rw [Action.map_map]
          exact update_proceeds
            ⟨rfl, Nat.lt_add_one 2, rfl, fun _ => rfl⟩ rfl ⟨rfl, rfl, rfl, rfl⟩ ⟨rfl, rfl⟩
  | flushed =>
    simp only [handle, Orders.act, Products.updateProduct]
    split
    · exact Or.inr ⟨rfl, Nat.lt_add_one 1, rfl, fun _ => rfl⟩
    · exact ⟨_, ⟨rfl, rfl, rfl, rfl⟩, rfl, by simp [Response.escaped, notRefreshed]⟩
  | refreshed product => exact ⟨_, ⟨rfl, rfl, rfl, rfl⟩, rfl, rfl⟩
  | done r => exact Or.inl ⟨by simp [Session.response?, Session.reply?], rfl⟩

theorem deleteProduct_proceeds (productId : Nat) (st : DeleteProduct) :
    Proceeds v (.deleteProduct productId st) (handle clock (.deleteProduct productId st) v) := by
  cases st with
  | start =>
    simp only [handle, Products.deleteProduct]
    split
    · exact ⟨_, ⟨rfl, rfl, rfl, rfl⟩, rfl, by simp [Response.escaped, notFound]⟩
    · exact Or.inr ⟨rfl, Nat.lt_add_one 2, rfl, fun h => h⟩
  | loaded =>
    simp only [handle, Products.deleteProduct]
    split
    · rename_i hreferred
      exact ⟨_, ⟨rfl, rfl, rfl, rfl⟩, rfl, fun _ => hreferred⟩
    · split
      · rename_i hrow
        exact ⟨Action.visible_singleton hrow, ⟨rfl, Nat.lt_add_one 1, rfl, fun _ => rfl⟩, rfl⟩
      · exact Or.inr ⟨rfl, Nat.lt_add_one 1, rfl, fun _ => rfl⟩
  | flushed => exact ⟨_, ⟨rfl, rfl, rfl, rfl⟩, rfl, rfl⟩
  | done r => exact Or.inl ⟨by simp [Session.response?], rfl⟩

/-! ### Orders -/

theorem createOrder_proceeds (customerId : Nat) (st : CreateOrder) :
    Proceeds v (.other (.createOrder customerId st)) (handle clock (.other (.createOrder customerId st)) v) := by
  cases st with
  | start =>
    simp only [handle, Orders.act, Orders.createOrder]
    split
    · exact fun id => ⟨⟨rfl, Nat.lt_add_one 2, rfl, fun _ => rfl⟩, rfl⟩
    · exact ⟨_, ⟨rfl, rfl, rfl, rfl⟩, rfl, by simp [Response.escaped]⟩
  | flushed id =>
    simp only [handle, Orders.act, Orders.createOrder]
    split
    · exact Or.inr ⟨rfl, Nat.lt_add_one 1, rfl, fun _ => rfl⟩
    · exact ⟨_, ⟨rfl, rfl, rfl, rfl⟩, rfl, by simp [Response.escaped, notRefreshed]⟩
  | refreshed id order => exact ⟨_, ⟨rfl, rfl, rfl, rfl⟩, rfl, rfl⟩
  | done r => exact Or.inl ⟨by simp [Session.response?, Session.reply?], rfl⟩

theorem updateOrderStatus_proceeds (orderId : Nat) (target : OrderStatus) (st : UpdateOrderStatus) :
    Proceeds v (.other (.updateOrderStatus orderId target st))
      (handle clock (.other (.updateOrderStatus orderId target st)) v) := by
  cases st with
  | start =>
    simp only [handle, Orders.act, Orders.updateOrderStatus]
    split
    · exact ⟨_, ⟨rfl, rfl, rfl, rfl⟩, rfl, by simp [Response.escaped, notFound]⟩
    · split
      · exact Or.inr ⟨rfl, Nat.lt_add_one 3, rfl, fun h => h⟩
      · exact ⟨_, ⟨rfl, rfl, rfl, rfl⟩, rfl, by simp [Response.escaped]⟩
  | checked order =>
    simp only [handle, Orders.act, Orders.updateOrderStatus]
    split
    · exact Or.inr ⟨rfl, Nat.lt_add_one 2, rfl, fun _ => rfl⟩
    · rw [Action.map_map]
      exact update_proceeds
        ⟨rfl, Nat.lt_add_one 2, rfl, fun _ => rfl⟩ rfl ⟨rfl, rfl, rfl, rfl⟩ ⟨rfl, rfl⟩
  | flushed order =>
    simp only [handle, Orders.act, Orders.updateOrderStatus]
    split
    · exact Or.inr ⟨rfl, Nat.lt_add_one 1, rfl, fun _ => rfl⟩
    · exact ⟨_, ⟨rfl, rfl, rfl, rfl⟩, rfl, by simp [Response.escaped, notRefreshed]⟩
  | refreshed order saved => exact ⟨_, ⟨rfl, rfl, rfl, rfl⟩, rfl, rfl⟩
  | done r => exact Or.inl ⟨by simp [Session.response?, Session.reply?], rfl⟩

theorem deleteOrder_proceeds (orderId : Nat) (st : DeleteOrder) :
    Proceeds v (.other (.deleteOrder orderId st)) (handle clock (.other (.deleteOrder orderId st)) v) := by
  cases st with
  | start =>
    simp only [handle, Orders.act, Orders.deleteOrder]
    split
    · exact ⟨_, ⟨rfl, rfl, rfl, rfl⟩, rfl, by simp [Response.escaped, notFound]⟩
    · exact Or.inr ⟨rfl, Nat.lt_add_one 2, rfl, fun h => h⟩
  | loaded =>
    simp only [handle, Orders.act, Orders.deleteOrder]
    split
    · rename_i hrow
      refine ⟨fun c hc => ?_, ⟨rfl, Nat.lt_add_one 1, rfl, fun _ => rfl⟩, rfl⟩
      rcases List.mem_cons.mp hc with rfl | hc
      · rw [hrow]
        rfl
      · obtain ⟨l, hl, rfl⟩ := List.mem_map.mp hc
        rw [mem_select (List.mem_filter.mp hl).1]
        rfl
    · exact Or.inr ⟨rfl, Nat.lt_add_one 1, rfl, fun _ => rfl⟩
  | flushed => exact ⟨_, ⟨rfl, rfl, rfl, rfl⟩, rfl, rfl⟩
  | done r => exact Or.inl ⟨by simp [Session.response?, Session.reply?], rfl⟩

/-! ### Order lines -/

theorem storeTotal_proceeds {S : Type} {f : S → Session} {s : Session} {r r' : Response} {orderId total : Nat}
    {order : Order} {now : DateTime} {flushed : S} {failed : Reply → S} (hmoves : s.Moves (f flushed))
    (hflushed : (f flushed).flushed = true) (hstale : s.Ends (f (failed staleData)) r) (hr : r.escaped = some "StaleDataError" ∧ r.succeeded = false)
    (hrefused : s.Ends (f (failed (.raised "DBAPIError"))) r')
    (hr' : r'.escaped = some "DBAPIError" ∧ r'.succeeded = false) :
    Proceeds v s ((storeTotal v orderId order total now flushed failed).map f) := by
  unfold storeTotal
  split
  · exact Or.inr hmoves
  · split
    · exact update_proceeds hmoves hflushed hstale hr
    · exact ⟨r', hrefused, hr'.2, by simp [hr'.1]⟩

theorem addLine_proceeds (orderId : Nat) (payload : OrderLineCreate) (st : AddLine) :
    Proceeds v (.other (.addLine orderId payload st)) (handle clock (.other (.addLine orderId payload st)) v) := by
  cases st with
  | start =>
    simp only [handle, Orders.act, Orders.addLine]
    split
    · exact ⟨_, ⟨rfl, rfl, rfl, rfl⟩, rfl, by simp [Response.escaped, notFound]⟩
    · exact Or.inr ⟨rfl, Nat.lt_add_one 6, rfl, fun h => h⟩
  | loaded order =>
    simp only [handle, Orders.act, Orders.addLine]
    split
    · exact ⟨_, ⟨rfl, rfl, rfl, rfl⟩, rfl, by simp [Response.escaped]⟩
    · exact Or.inr ⟨rfl, Nat.lt_add_one 5, rfl, fun h => h⟩
  | priced order product =>
    simp only [handle, Orders.act, Orders.addLine]
    split
    · exact ⟨_, ⟨rfl, rfl, rfl, rfl⟩, rfl, by simp [Response.escaped]⟩
    · split
      · exact fun id => ⟨⟨rfl, Nat.lt_add_one 4, rfl, fun _ => rfl⟩, rfl⟩
      · rename_i hrows
        refine ⟨_, ⟨rfl, rfl, rfl, rfl⟩, rfl, fun _ => ?_⟩
        simpa only [Session.uncaught, Bool.not_eq_true', Bool.not_eq_true] using hrows
  | flushed order id =>
    simp only [handle, Orders.act, Orders.addLine]
    split
    · exact Or.inr ⟨rfl, Nat.lt_add_one 3, rfl, fun _ => rfl⟩
    · exact ⟨_, ⟨rfl, rfl, rfl, rfl⟩, rfl, by simp [Response.escaped, notRefreshed]⟩
  | refreshed order id line => exact Or.inr ⟨rfl, Nat.lt_add_one 2, rfl, fun _ => rfl⟩
  | summed order id line total =>
    simp only [handle, Orders.act, Orders.addLine, Action.map_map]
    exact storeTotal_proceeds
      ⟨rfl, Nat.lt_add_one 1, rfl, fun _ => rfl⟩ rfl ⟨rfl, rfl, rfl, rfl⟩ ⟨rfl, rfl⟩ ⟨rfl, rfl, rfl, rfl⟩ ⟨rfl, rfl⟩
  | stored order id line total => exact ⟨_, ⟨rfl, rfl, rfl, rfl⟩, rfl, rfl⟩
  | done r => exact Or.inl ⟨by simp [Session.response?, Session.reply?], rfl⟩

theorem updateLineStatus_proceeds (orderId lineId : Nat) (payload : OrderLineStatusUpdate) (st : UpdateLineStatus) :
    Proceeds v (.other (.updateLineStatus orderId lineId payload st))
      (handle clock (.other (.updateLineStatus orderId lineId payload st)) v) := by
  cases st with
  | start =>
    simp only [handle, Orders.act, Orders.updateLineStatus]
    split
    · exact ⟨_, ⟨rfl, rfl, rfl, rfl⟩, rfl, by simp [Response.escaped, notFound]⟩
    · split
      · exact ⟨_, ⟨rfl, rfl, rfl, rfl⟩, rfl, by simp [Response.escaped, notFound]⟩
      · split
        · exact Or.inr ⟨rfl, Nat.lt_add_one 3, rfl, fun h => h⟩
        · exact ⟨_, ⟨rfl, rfl, rfl, rfl⟩, rfl, by simp [Response.escaped]⟩
  | checked line =>
    simp only [handle, Orders.act, Orders.updateLineStatus]
    split
    · exact Or.inr ⟨rfl, Nat.lt_add_one 2, rfl, fun _ => rfl⟩
    · rw [Action.map_map]
      exact update_proceeds
        ⟨rfl, Nat.lt_add_one 2, rfl, fun _ => rfl⟩ rfl ⟨rfl, rfl, rfl, rfl⟩ ⟨rfl, rfl⟩
  | flushed line =>
    simp only [handle, Orders.act, Orders.updateLineStatus]
    split
    · exact Or.inr ⟨rfl, Nat.lt_add_one 1, rfl, fun _ => rfl⟩
    · exact ⟨_, ⟨rfl, rfl, rfl, rfl⟩, rfl, by simp [Response.escaped, notRefreshed]⟩
  | refreshed line saved => exact ⟨_, ⟨rfl, rfl, rfl, rfl⟩, rfl, rfl⟩
  | done r => exact Or.inl ⟨by simp [Session.response?, Session.reply?], rfl⟩

theorem deleteLine_proceeds (orderId lineId : Nat) (st : DeleteLine) :
    Proceeds v (.other (.deleteLine orderId lineId st)) (handle clock (.other (.deleteLine orderId lineId st)) v) := by
  cases st with
  | start =>
    simp only [handle, Orders.act, Orders.deleteLine]
    split
    · exact ⟨_, ⟨rfl, rfl, rfl, rfl⟩, rfl, by simp [Response.escaped, notFound]⟩
    · split
      · exact ⟨_, ⟨rfl, rfl, rfl, rfl⟩, rfl, by simp [Response.escaped, notFound]⟩
      · exact Or.inr ⟨rfl, Nat.lt_add_one 5, rfl, fun h => h⟩
  | loaded line =>
    simp only [handle, Orders.act, Orders.deleteLine]
    split
    · rename_i hrow
      exact ⟨Action.visible_singleton hrow, ⟨rfl, Nat.lt_add_one 4, rfl, fun _ => rfl⟩, rfl⟩
    · exact Or.inr ⟨rfl, Nat.lt_add_one 4, rfl, fun _ => rfl⟩
  | flushed =>
    simp only [handle, Orders.act, Orders.deleteLine]
    split
    · exact Or.inr ⟨rfl, Nat.lt_add_one 3, rfl, fun _ => rfl⟩
    · exact Or.inr ⟨rfl, by simp [Session.left], rfl, fun _ => rfl⟩
  | ordered order => exact Or.inr ⟨rfl, Nat.lt_add_one 2, rfl, fun _ => rfl⟩
  | summed order total =>
    simp only [handle, Orders.act, Orders.deleteLine, Action.map_map]
    exact storeTotal_proceeds
      ⟨rfl, Nat.lt_add_one 1, rfl, fun _ => rfl⟩ rfl ⟨rfl, rfl, rfl, rfl⟩ ⟨rfl, rfl⟩ ⟨rfl, rfl, rfl, rfl⟩ ⟨rfl, rfl⟩
  | stored order total => exact ⟨_, ⟨rfl, rfl, rfl, rfl⟩, rfl, rfl⟩
  | gone => exact ⟨_, ⟨rfl, rfl, rfl, rfl⟩, rfl, rfl⟩
  | done r => exact Or.inl ⟨by simp [Session.response?, Session.reply?], rfl⟩

/-! ### Requests -/

theorem handle_proceeds {s : Session} (hs : s.request? ≠ none) : Proceeds v s (handle clock s v) := by
  cases s with
  | createCustomer body st => exact createCustomer_proceeds body st
  | updateCustomer id body st => exact updateCustomer_proceeds id body st
  | patchCustomer id body st => exact patchCustomer_proceeds id body st
  | deleteCustomer id st => exact deleteCustomer_proceeds id st
  | deleteProduct productId st => exact deleteProduct_proceeds productId st
  | other session =>
    cases session with
    | createOrder customerId st => exact createOrder_proceeds customerId st
    | updateOrderStatus orderId status st => exact updateOrderStatus_proceeds orderId status st
    | deleteOrder orderId st => exact deleteOrder_proceeds orderId st
    | addLine orderId payload st => exact addLine_proceeds orderId payload st
    | updateLineStatus orderId lineId payload st => exact updateLineStatus_proceeds orderId lineId payload st
    | deleteLine orderId lineId st => exact deleteLine_proceeds orderId lineId st
    | createProduct payload st => exact createProduct_proceeds payload st
    | updateProduct productId payload st => exact updateProduct_proceeds productId payload st
    | _ => exact absurd rfl hs

end Handlers

/-! ### Answers -/

section Answers
variable {s : Session} {r : Response}

theorem answer_of_response (h : s.response? = some r) : s.answer? = some r := by
  cases s with
  | other session =>
    cases session
    all_goals
      rename_i st
      cases st <;> first | exact h | cases h
  | _ =>
    rename_i st
    cases st <;> first | exact h | cases h

theorem binds_of_answered (h : s.answer? = some r) : s.binds = none := by
  cases s with
  | other session =>
    cases session
    all_goals
      rename_i st
      cases st <;> first | rfl | cases h
  | _ =>
    rename_i st
    cases st <;> first | rfl | cases h

end Answers

/-! ### Refusals -/

/-- A request that the driver's exception ends. -/
def Request.failure : Request → Response
  | .createCustomer _ => .created (.raised "DBAPIError")
  | .updateCustomer _ _ | .patchCustomer _ _ | .deleteCustomer _ => .customer (.raised "DBAPIError")
  | _ => .other (.raised "DBAPIError")

theorem Request.failure_escaped (request : Request) : request.failure.escaped = some "DBAPIError" := by
  cases request <;> rfl

theorem Request.failure_failed (request : Request) : request.failure.succeeded = false := by
  cases request <;> rfl

/-- The driver refuses an id before anything is answered. -/
theorem refused_ends {s : Session} {request : Request} (hs : s.request? = some request)
    (hbinds : s.binds.all fitsInteger = false) : s.Ends s.refused request.failure := by
  unfold Session.binds at hbinds
  split at hbinds
  case h_16 => cases hbinds
  all_goals cases hs <;> exact ⟨rfl, rfl, rfl, rfl⟩

theorem act_proceeds {v : View Row} {clock : Clock} {s : Session} (hs : s.request? ≠ none) :
    Proceeds v s (act clock s v) := by
  refine act_of (handle_proceeds hs) fun hbinds => ?_
  obtain ⟨request, hrequest⟩ := Option.ne_none_iff_exists'.mp hs
  refine ⟨request.failure, refused_ends hrequest hbinds, request.failure_failed, ?_⟩
  rw [request.failure_escaped]
  simp

end IrisService.Rest
