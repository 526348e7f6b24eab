import IrisService.Library.CommitLog
import IrisService.Rest.ConstraintLaw

/-! What each call may change. A transaction writes whole rows, but it sets only the columns of its own statement and
holds the row until it commits, so whatever runs beside it a commit leaves every other column as it was committed. -/

namespace IrisService.Rest
open ReadCommitted Orders Products Customers Runs

/-- A request that writes, the lines of an order, or a call of an MCP tool on an order that is not answered from the
    idempotency cache. -/
inductive Call where
  | request (request : Request)
  | listLines (orderId : Nat)
  | mcpCreateOrder (customerId : Nat)
  | cancelOrder (orderId : Nat)

/-- The session in which the call is served. -/
def Call.open : Call → Session
  | .request r => r.open
  | .listLines orderId => .other (.listLines orderId .start)
  | .mcpCreateOrder customerId => .other (.mcpCreateOrder customerId .start)
  | .cancelOrder orderId => .other (.cancelOrder orderId .start)

/-- The call that a session serves. -/
def Session.call : Session → Call
  | .createCustomer body _ => .request (.createCustomer body)
  | .updateCustomer id body _ => .request (.updateCustomer id body)
  | .patchCustomer id body _ => .request (.patchCustomer id body)
  | .deleteCustomer id _ => .request (.deleteCustomer id)
  | .deleteProduct productId _ => .request (.deleteProduct productId)
  | .other (.createProduct payload _) => .request (.createProduct payload)
  | .other (.updateProduct productId payload _) => .request (.updateProduct productId payload)
  | .other (.createOrder customerId _) => .request (.createOrder customerId)
  | .other (.updateOrderStatus orderId status _) => .request (.updateOrderStatus orderId status)
  | .other (.deleteOrder orderId _) => .request (.deleteOrder orderId)
  | .other (.addLine orderId payload _) => .request (.addLine orderId payload)
  | .other (.updateLineStatus orderId lineId payload _) => .request (.updateLineStatus orderId lineId payload)
  | .other (.deleteLine orderId lineId _) => .request (.deleteLine orderId lineId)
  | .other (.listLines orderId _) => .listLines orderId
  | .other (.mcpCreateOrder customerId _) => .mcpCreateOrder customerId
  | .other (.cancelOrder orderId _) => .cancelOrder orderId

@[simp] theorem Call.call_open (call : Call) : call.open.call = call := by
  cases call with
  | request r => cases r <;> rfl
  | _ => rfl

/-! ### Footprints -/

/-- The rows that a request may insert. -/
def Request.inserts : Request → (t : Table) → Row t → Prop
  | .createCustomer body, .customer, c => c.name = body.name ∧ c.email = body.email
  | .createProduct payload, .product, p => p.name = payload.name ∧ p.description = payload.description ∧
      p.unitPrice = payload.unitPrice ∧ p.stockQuantity = payload.stockQuantity
  | .createOrder customerId, .orders, o => o.customerId = customerId ∧ o.status = .pending ∧ o.totalAmount = 0
  | .addLine orderId payload, .orderLine, l =>
    l.orderId = orderId ∧ l.productId = payload.productId ∧ l.quantity = payload.quantity ∧ l.status = .pending
  | _, _, _ => False

/-- The changes that a request may make to a row. -/
def Request.updates : Request → (t : Table) → Nat → Row t → Row t → Prop
  | .updateCustomer id body, .customer, id', c, c' => id' = id ∧ c'.createdAt = c.createdAt ∧
      (c'.name = c.name ∨ c'.name = body.name) ∧ (c'.email = c.email ∨ c'.email = body.email)
  | .patchCustomer id body, .customer, id', c, c' => id' = id ∧ c'.createdAt = c.createdAt ∧
      (c'.name = c.name ∨ body.name = some c'.name) ∧ (c'.email = c.email ∨ body.email = some c'.email)
  | .updateProduct productId payload, .product, id', p, p' => id' = productId ∧ p'.createdAt = p.createdAt ∧
      (p'.name = p.name ∨ p'.name = payload.name) ∧
      (p'.description = p.description ∨ p'.description = payload.description) ∧
      (p'.unitPrice = p.unitPrice ∨ p'.unitPrice = payload.unitPrice) ∧
      (p'.stockQuantity = p.stockQuantity ∨ p'.stockQuantity = payload.stockQuantity)
  | .updateOrderStatus orderId status, .orders, id', o, o' => id' = orderId ∧ o'.customerId = o.customerId ∧
      o'.createdAt = o.createdAt ∧ o'.totalAmount = o.totalAmount ∧ o'.status = status
  | .addLine orderId _, .orders, id', o, o' | .deleteLine orderId _, .orders, id', o, o' =>
    id' = orderId ∧ o'.customerId = o.customerId ∧ o'.createdAt = o.createdAt ∧ o'.status = o.status
  | .updateLineStatus _ lineId payload, .orderLine, id', l, l' => id' = lineId ∧ l' = { l with status := payload.status }
  | _, _, _, _, _ => False

/-- The rows that a request may delete. -/
def Request.deletes : Request → (t : Table) → Nat → Row t → Prop
  | .deleteCustomer id, .customer, id', _ => id' = id
  | .deleteProduct productId, .product, id', _ => id' = productId
  | .deleteOrder orderId, .orders, id', _ => id' = orderId
  | .deleteOrder orderId, .orderLine, _, l => l.orderId = orderId
  | .deleteLine _ lineId, .orderLine, id', _ => id' = lineId
  | _, _, _, _ => False

/-- No request inserts rows into a table whose rows it updates. -/
theorem Request.not_inserts_updates (request : Request) (t : Table) (id : Nat) (r r' : Row t) (h : request.inserts t r) :
    ¬request.updates t id r r' := by
  cases request <;> cases t <;> first | exact fun h' => h' | exact fun _ => h

theorem Request.not_updates_deletes (request : Request) (t : Table) (id : Nat) (r r' : Row t)
    (h : request.updates t id r r') : ¬request.deletes t id r' := by
  cases request <;> cases t <;> first | exact fun h' => h' | exact fun _ => h

theorem Request.updates_trans (request : Request) (t : Table) (id : Nat) (r r' r'' : Row t)
    (h : request.updates t id r r') (h' : request.updates t id r' r'') : request.updates t id r r'' := by
  cases request <;> cases t <;> first | exact h | skip
  all_goals simp only [Request.updates] at h h' ⊢
  all_goals grind

/-- What a request may do to the rows. -/
def Request.footprint (request : Request) : Footprint Row where
  inserts := request.inserts
  updates := request.updates
  deletes := request.deletes
  insert_update t id r r' h h' := absurd h' (request.not_inserts_updates t id r r' h)
  update_update := request.updates_trans
  update_delete t id r r' h h' := absurd h' (request.not_updates_deletes t id r r' h)

/-- What a call may do to the rows. -/
def Call.footprint : Call → Footprint Row
  | .request r => r.footprint
  | .listLines _ => Footprint.none
  | .mcpCreateOrder customerId => (Request.createOrder customerId).footprint
  | .cancelOrder orderId => (Request.updateOrderStatus orderId .cancelled).footprint

/-! ### Statements -/

section Statements
variable {v : View Row} {S : Type} {F : Footprint Row}

theorem update_within {t : Table} {id : Nat} {set : Row t → Row t} {flushed stale : S}
    (h : ∀ row, F.updates t id row (set row)) : (update v t id set flushed stale).Within F v := by
  unfold update
  split
  · rename_i row hrow
    intro c hc
    obtain rfl := List.mem_singleton.mp hc
    rw [hrow]
    exact .update (h row)
  · trivial

/-- The DELETE of a row that the statement sees. -/
theorem delete_within {t : Table} {id : Nat} {row : Row t} {s : S} (hrow : v.rows t id = some row)
    (h : F.deletes t id row) : (Action.write [⟨t, id, none⟩] s).Within F v := by
  intro c hc
  obtain rfl := List.mem_singleton.mp hc
  rw [hrow]
  exact .delete h

theorem flushCustomer_within {id : Nat} {loaded : Customer} {name email : String} {flushed conflict stale : S}
    (h : ∀ row : Customer, F.updates .customer id row { row with
      name := if name = loaded.name then row.name else name
      email := if email = loaded.email then row.email else email }) :
    (flushCustomer v id loaded name email flushed conflict stale).Within F v := by
  unfold flushCustomer
  split
  · trivial
  · split
    · trivial
    · exact update_within h

theorem storeTotal_within {orderId total : Nat} {order : Order} {now : DateTime} {flushed : S} {failed : Reply → S}
    (h : ∀ row : Order, F.updates .orders orderId row { row with totalAmount := total, updatedAt := now }) :
    (storeTotal v orderId order total now flushed failed).Within F v := by
  unfold storeTotal
  split
  · trivial
  · split
    · exact update_within h
    · trivial

end Statements

section Handlers
variable {v : View Row} {now : DateTime} {clock : Clock}

theorem createCustomer_within (body : CustomerCreate) (st : Create) :
    (Customers.createCustomer body now st v).Within (Request.createCustomer body).footprint v := by
  cases st with
  | start =>
    simp only [Customers.createCustomer]
    split
    · trivial
    · exact fun _ => ⟨rfl, rfl⟩
  | _ => trivial

theorem updateCustomer_within (id : Nat) (body : CustomerCreate) (st : UpdateCustomer) :
    (Customers.updateCustomer id body st v).Within (Request.updateCustomer id body).footprint v := by
  cases st with
  | start =>
    simp only [Customers.updateCustomer]
    split <;> trivial
  | loaded customer =>
    refine flushCustomer_within fun row => ⟨rfl, rfl, ?_, ?_⟩
    · exact ite_eq_or_eq _ _ _
    · exact ite_eq_or_eq _ _ _
  | _ => trivial

/-- An attribute that the patch leaves out is not changed. -/
theorem patched {α : Type} [DecidableEq α] (x : Option α) (loaded row : α) :
    (if x.getD loaded = loaded then row else x.getD loaded) = row ∨
      x = some (if x.getD loaded = loaded then row else x.getD loaded) := by
  cases x with
  | none => exact Or.inl (if_pos rfl)
  | some a =>
    rcases ite_eq_or_eq (a = loaded) row a with hrow | ha
    · exact Or.inl hrow
    · exact Or.inr (congrArg some ha.symm)

theorem patchCustomer_within (id : Nat) (body : CustomerPatch) (st : UpdateCustomer) :
    (Customers.patchCustomer id body st v).Within (Request.patchCustomer id body).footprint v := by
  cases st with
  | start =>
    simp only [Customers.patchCustomer]
    split <;> trivial
  | loaded customer =>
    refine flushCustomer_within fun row => ⟨rfl, rfl, ?_, ?_⟩
    · exact patched body.name customer.name row.name
    · exact patched body.email customer.email row.email
  | _ => trivial

theorem deleteCustomer_within (id : Nat) (st : DeleteCustomer) :
    (Customers.deleteCustomer id st v).Within (Request.deleteCustomer id).footprint v := by
  cases st with
  | start =>
    simp only [Customers.deleteCustomer]
    split <;> trivial
  | loaded =>
    simp only [Customers.deleteCustomer]
    split
    · trivial
    · split
      · rename_i hrow
        exact delete_within hrow rfl
      · trivial
  | _ => trivial

theorem createProduct_within (payload : ProductCreate) (st : CreateProduct) :
    (Products.createProduct payload clock st v).Within (Request.createProduct payload).footprint v := by
  cases st with
  | start =>
    simp only [Products.createProduct]
    split <;> trivial
  | checked =>
    simp only [Products.createProduct]
    split
    · trivial
    · split
      · trivial
      · exact fun _ => ⟨rfl, rfl, rfl, rfl⟩
  | flushed id =>
    simp only [Products.createProduct]
    split <;> trivial
  | _ => trivial

theorem updateProduct_within (productId : Nat) (payload : ProductCreate) (st : UpdateProduct) :
    (Products.updateProduct productId payload now st v).Within (Request.updateProduct productId payload).footprint v := by
  cases st with
  | start =>
    simp only [Products.updateProduct]
    split <;> trivial
  | loaded product =>
    simp only [Products.updateProduct]
    split
    · trivial
    · split
      · trivial
      · split
        · trivial
        · exact update_within fun row =>
            ⟨rfl, rfl, ite_eq_or_eq _ _ _, ite_eq_or_eq _ _ _, ite_eq_or_eq _ _ _, ite_eq_or_eq _ _ _⟩
  | flushed =>
    simp only [Products.updateProduct]
    split <;> trivial
  | _ => trivial

theorem deleteProduct_within (productId : Nat) (st : DeleteProduct) :
    (Products.deleteProduct productId st v).Within (Request.deleteProduct productId).footprint v := by
  cases st with
  | start =>
    simp only [Products.deleteProduct]
    split <;> trivial
  | loaded =>
    simp only [Products.deleteProduct]
    split
    · trivial
    · split
      · rename_i hrow
        exact delete_within hrow rfl
      · trivial
  | _ => trivial

theorem createOrder_within (customerId : Nat) (st : CreateOrder) :
    (Orders.createOrder customerId clock st v).Within (Request.createOrder customerId).footprint v := by
  cases st with
  | start =>
    simp only [Orders.createOrder]
    split
    · exact fun _ => ⟨rfl, rfl, rfl⟩
    · trivial
  | flushed id =>
    simp only [Orders.createOrder]
    split <;> trivial
  | _ => trivial

theorem mcpCreateOrder_within (customerId : Nat) (cached : Option (Nat × Order)) (st : McpCreateOrder) :
    (Orders.mcpCreateOrder customerId clock cached st v).Within (Request.createOrder customerId).footprint v := by
  cases st with
  | start =>
    simp only [Orders.mcpCreateOrder]
    split <;> trivial
  | missed =>
    simp only [Orders.mcpCreateOrder]
    split
    · exact fun _ => ⟨rfl, rfl, rfl⟩
    · trivial
  | flushed id =>
    simp only [Orders.mcpCreateOrder]
    split <;> trivial
  | _ => trivial

theorem updateOrderStatus_within (orderId : Nat) (target : OrderStatus) (st : UpdateOrderStatus) :
    (Orders.updateOrderStatus orderId target now st v).Within (Request.updateOrderStatus orderId target).footprint v := by
  cases st with
  | start =>
    simp only [Orders.updateOrderStatus]
    split
    · trivial
    · split <;> trivial
  | checked order =>
    simp only [Orders.updateOrderStatus]
    split
    · trivial
    · exact update_within fun _ => ⟨rfl, rfl, rfl, rfl, rfl⟩
  | flushed order =>
    simp only [Orders.updateOrderStatus]
    split <;> trivial
  | _ => trivial

theorem cancelOrder_within (orderId : Nat) (st : CancelOrder) :
    (Orders.cancelOrder orderId now st v).Within (Request.updateOrderStatus orderId .cancelled).footprint v := by
  cases st with
  | start =>
    simp only [Orders.cancelOrder]
    split <;> trivial
  | loaded order =>
    simp only [Orders.cancelOrder]
    split
    · trivial
    · exact update_within fun _ => ⟨rfl, rfl, rfl, rfl, rfl⟩
  | _ => trivial

theorem deleteOrder_within (orderId : Nat) (st : DeleteOrder) :
    (Orders.deleteOrder orderId st v).Within (Request.deleteOrder orderId).footprint v := by
  cases st with
  | start =>
    simp only [Orders.deleteOrder]
    split <;> trivial
  | loaded =>
    simp only [Orders.deleteOrder]
    split
    · rename_i hrow
      intro c hc
      rcases List.mem_cons.mp hc with rfl | hline
      · rw [hrow]
        exact .delete rfl
      · obtain ⟨l, hl, rfl⟩ := List.mem_map.mp hline
        obtain ⟨hselected, horder⟩ := List.mem_filter.mp hl
        have hof : l.2.orderId = orderId := of_decide_eq_true horder
        rw [mem_select hselected]
        exact .delete hof
    · trivial
  | _ => trivial

theorem addLine_within (orderId : Nat) (payload : OrderLineCreate) (st : AddLine) :
    (Orders.addLine orderId payload now st v).Within (Request.addLine orderId payload).footprint v := by
  cases st with
  | priced order product =>
    simp only [Orders.addLine]
    split
    · trivial
    · split
      · exact fun _ => ⟨rfl, rfl, rfl, rfl⟩
      · trivial
  | summed order id line total => exact storeTotal_within fun _ => ⟨rfl, rfl, rfl, rfl⟩
  | refreshed order id line => trivial
  | stored order id line total => trivial
  | done r => trivial
  | _ =>
    simp only [Orders.addLine]
    split <;> trivial

theorem updateLineStatus_within (orderId lineId : Nat) (payload : OrderLineStatusUpdate) (st : UpdateLineStatus) :
    (Orders.updateLineStatus orderId lineId payload st v).Within (Request.updateLineStatus orderId lineId payload).footprint
      v := by
  cases st with
  | start =>
    simp only [Orders.updateLineStatus]
    split
    · trivial
    · split
      · trivial
      · split <;> trivial
  | checked line =>
    simp only [Orders.updateLineStatus]
    split
    · trivial
    · exact update_within fun _ => ⟨rfl, rfl⟩
  | flushed line =>
    simp only [Orders.updateLineStatus]
    split <;> trivial
  | _ => trivial

theorem deleteLine_within (orderId lineId : Nat) (st : DeleteLine) :
    (Orders.deleteLine orderId lineId now st v).Within (Request.deleteLine orderId lineId).footprint v := by
  cases st with
  | start =>
    simp only [Orders.deleteLine]
    split
    · trivial
    · split <;> trivial
  | loaded line =>
    simp only [Orders.deleteLine]
    split
    · rename_i hrow
      exact delete_within hrow rfl
    · trivial
  | flushed =>
    simp only [Orders.deleteLine]
    split <;> trivial
  | summed order total => exact storeTotal_within fun _ => ⟨rfl, rfl, rfl, rfl⟩
  | _ => trivial

theorem listLines_within (orderId : Nat) (st : ListLines) (F : Footprint Row) :
    (Orders.listLines orderId st v).Within F v := by
  cases st <;> trivial

/-- A statement keeps within the footprint of its call. -/
theorem handle_within (s : Session) : (handle clock s v).Within s.call.footprint v := by
  cases s with
  | createCustomer body st => exact Action.within_map.mpr (createCustomer_within body st)
  | updateCustomer id body st => exact Action.within_map.mpr (updateCustomer_within id body st)
  | patchCustomer id body st => exact Action.within_map.mpr (patchCustomer_within id body st)
  | deleteCustomer id st => exact Action.within_map.mpr (deleteCustomer_within id st)
  | deleteProduct productId st => exact Action.within_map.mpr (deleteProduct_within productId st)
  | other session =>
    refine Action.within_map.mpr ?_
    cases session with
    | createOrder customerId st => exact Action.within_map.mpr (createOrder_within customerId st)
    | updateOrderStatus orderId status st => exact Action.within_map.mpr (updateOrderStatus_within orderId status st)
    | deleteOrder orderId st => exact Action.within_map.mpr (deleteOrder_within orderId st)
    | listLines orderId st => exact Action.within_map.mpr (listLines_within orderId st _)
    | addLine orderId payload st => exact Action.within_map.mpr (addLine_within orderId payload st)
    | updateLineStatus orderId lineId payload st =>
      exact Action.within_map.mpr (updateLineStatus_within orderId lineId payload st)
    | deleteLine orderId lineId st => exact Action.within_map.mpr (deleteLine_within orderId lineId st)
    | createProduct payload st => exact Action.within_map.mpr (createProduct_within payload st)
    | updateProduct productId payload st => exact Action.within_map.mpr (updateProduct_within productId payload st)
    | mcpCreateOrder customerId st => exact Action.within_map.mpr (mcpCreateOrder_within customerId none st)
    | cancelOrder orderId st => exact Action.within_map.mpr (cancelOrder_within orderId st)

theorem handle_call (s : Session) : (handle clock s v).All fun s' => s'.call = s.call := by
  cases s with
  | other session =>
    refine Action.all_map.mpr ?_
    cases session <;> exact Action.all_map.mpr (Action.all_of_forall fun _ => rfl)
  | _ => exact Action.all_map.mpr (Action.all_of_forall fun _ => rfl)

end Handlers

theorem refused_call (s : Session) : s.refused.call = s.call := by
  cases s with
  | other session =>
    simp only [Session.refused, Orders.Session.refused]
    split
    · rfl
    · cases session <;> rfl
  | _ =>
    rename_i st
    cases st <;> rfl

theorem act_call {v : View Row} {clock : Clock} (s : Session) : (act clock s v).All fun s' => s'.call = s.call :=
  act_of (handle_call s) fun _ => refused_call s

/-! ### Runs -/

/-- The store with one client for each call, none of them started. -/
def Store.calls (store : Store) (calls : Nat → Call) : State := Db.start store.rows store.seq fun i => (calls i).open

theorem program_confines : program.Confines (fun _ => True) (fun s => s.call.footprint) where
  within _ s _ _ := act_of (handle_within s) fun _ => trivial
  act_keeps _ s _ _ := (act_call s).imp fun _ hcall => ⟨trivial, congrArg Call.footprint hcall⟩
  fail_keeps s _ := ⟨trivial, congrArg Call.footprint (refused_call s)⟩

theorem calls_confined (store : Store) (calls : Nat → Call) :
    (store.calls calls).Confined fun s => s.call.footprint := Db.Confined.start store.fresh

theorem calls_footprint (store : Store) (calls : Nat → Call) (i : Nat) :
    ((store.calls calls).client i).state.call.footprint = (calls i).footprint :=
  congrArg Call.footprint (calls i).call_open

/-- Whatever calls interleave, and wherever the store refuses their statements, each step changes a committed row only
    as the call that takes it may: a row or a column that is not the call's own stays as it was committed. -/
theorem steps_within_footprints (store : Store) (calls : Nat → Call) (es : List (Event Clock)) :
    Meets (Db.step program) (fun d e => ∀ t id,
      (calls e.client).footprint.Allows t id (d.committed t id) ((d.step program e).committed t id))
      (store.calls calls) es := by
  refine (program_confines.meets (calls_confined store calls) (fun _ => trivial) es).mono fun d e h t id => ?_
  rw [← calls_footprint store calls]
  exact h t id

/-! ### Columns that no call changes -/

theorem Call.updates_customer {call : Call} {id : Nat} {c c' : Customer} (h : call.footprint.updates .customer id c c') :
    c'.createdAt = c.createdAt := by
  cases call with
  | request r => cases r <;> first | exact h.2.1 | cases h
  | _ => cases h

theorem Call.updates_product {call : Call} {id : Nat} {p p' : Product} (h : call.footprint.updates .product id p p') :
    p'.createdAt = p.createdAt := by
  cases call with
  | request r => cases r <;> first | exact h.2.1 | cases h
  | _ => cases h

theorem Call.updates_orders {call : Call} {id : Nat} {o o' : Order} (h : call.footprint.updates .orders id o o') :
    (o'.customerId, o'.createdAt) = (o.customerId, o.createdAt) := by
  cases call with
  | request r => cases r <;> first | exact Prod.ext h.2.1 h.2.2.1 | cases h
  | cancelOrder orderId => exact Prod.ext h.2.1 h.2.2.1
  | _ => cases h

theorem Call.updates_orderLine {call : Call} {id : Nat} {l l' : OrderLine} (h : call.footprint.updates .orderLine id l l') :
    { l' with status := .pending } = { l with status := .pending } := by
  cases call with
  | request r => cases r <;> first | (obtain ⟨-, rfl⟩ := h; rfl) | cases h
  | _ => cases h

/-- Whatever calls interleave, the time at which a customer or a product was created, the customer and the creation time
    of an order, and everything but the status of an order line keep their values for as long as the row is there. -/
theorem fixed_columns (store : Store) (calls : Nat → Call) (es : List (Event Clock)) (id : Nat) :
    (Db.column program .customer (fun c : Customer => c.createdAt) id (store.calls calls) es).IsChain (· = ·) ∧
      (Db.column program .product (fun p : Product => p.createdAt) id (store.calls calls) es).IsChain (· = ·) ∧
      (Db.column program .orders (fun o : Order => (o.customerId, o.createdAt)) id (store.calls calls) es).IsChain (· = ·) ∧
      (Db.column program .orderLine (fun l : OrderLine => { l with status := .pending }) id (store.calls calls) es).IsChain
        (· = ·) := by
  have hconfined := calls_confined store calls
  refine ⟨?_, ?_, ?_, ?_⟩
  · exact program_confines.isChain_column hconfined (fun _ => trivial) (fun _ _ _ _ => Call.updates_customer) id es
  · exact program_confines.isChain_column hconfined (fun _ => trivial) (fun _ _ _ _ => Call.updates_product) id es
  · exact program_confines.isChain_column hconfined (fun _ => trivial) (fun _ _ _ _ => Call.updates_orders) id es
  · exact program_confines.isChain_column hconfined (fun _ => trivial) (fun _ _ _ _ => Call.updates_orderLine) id es

/-! ### The catalogue -/

/-- The call updates or deletes the product. -/
def Call.edits (productId : Nat) : Call → Bool
  | .request (.updateProduct id _) | .request (.deleteProduct id) => id = productId
  | _ => false

theorem Call.not_edits {call : Call} {productId : Nat} (h : call.edits productId = false) (p : Product) :
    (∀ p', ¬call.footprint.updates .product productId p p') ∧ ¬call.footprint.deletes .product productId p := by
  cases call with
  | request r =>
    cases r with
    | updateProduct id payload =>
      have hne : id ≠ productId := of_decide_eq_false h
      exact ⟨fun p' hupd => hne hupd.1.symm, fun hdel => hdel⟩
    | deleteProduct id =>
      have hne : id ≠ productId := of_decide_eq_false h
      exact ⟨fun p' hupd => hupd, fun hdel => hne (Eq.symm hdel)⟩
    | _ => exact ⟨fun p' hupd => hupd, fun hdel => hdel⟩
  | _ => exact ⟨fun p' hupd => hupd, fun hdel => hdel⟩

/-- Orders and their lines leave the catalogue alone: unless a call updates or deletes the product itself, whatever calls
    interleave, its price and its stock stay as they are. -/
theorem catalogue_untouched (store : Store) (calls : Nat → Call) (es : List (Event Clock)) (productId : Nat)
    (product : Product) (hproduct : store.rows .product productId = some product)
    (hquiet : ∀ i, (calls i).edits productId = false) :
    ∀ d ∈ states (Db.step program) (store.calls calls) es, d.committed .product productId = some product := by
  refine program_confines.states_committed (calls_confined store calls) (fun _ => trivial) hproduct (fun i => ?_) es
  rw [calls_footprint]
  exact Call.not_edits (hquiet i) product

/-- A widget on an order, with one more line for it and the order deleted after that. -/
theorem widget_untouched : (run (Db.step program)
    (Store.sold.calls fun i => .request (if i = 0 then .addLine 0 ⟨0, 2⟩ else .deleteOrder 0))
    ((List.range 7).map (fun k => .step 0 (ticks k)) ++
      [.step 1 (ticks 7), .step 1 (ticks 8), .fail 1])).committed .product 0 =
      some ⟨"Widget", none, 999, 10, (ticks 1).now, (ticks 1).next⟩ :=
  catalogue_untouched _ _ _ 0 _ (by decide +kernel) (fun i => by by_cases h : i = 0 <;> simp [h, Call.edits]) _
    (run_mem_states _ _)

end IrisService.Rest
