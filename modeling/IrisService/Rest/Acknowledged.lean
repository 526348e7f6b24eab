import IrisService.Rest.Histories

/-! What the answers tell. A client that keeps a record of the answers to all requests, and nothing else, knows every
row, but for what no answer has in it. -/

namespace IrisService.Rest
open ReadCommitted Orders Products Customers

/-! ### Single rows -/

/-- `get_customer`, which answers no `created_at` -/
def getCustomer (rows : Rows Row) (id : Nat) : CustomerReply :=
  if !fitsInteger id then .raised "DBAPIError"
  else match rows .customer id with
    | none => customerNotFound id
    | some c => .customer 200 ⟨id, c.name, c.email⟩

/-- `get_product` -/
def getProduct (rows : Rows Row) (productId : Nat) : Reply :=
  if !fitsInteger productId then .raised "DBAPIError"
  else match rows .product productId with
    | none => notFound "Product"
    | some p => .product 200 productId p

/-! ### The record of a client -/

/-- A customer of whom only the name and the email are known. -/
def customerOf (dto : CustomerResponse) : Customer := ⟨dto.name, dto.email, ⟨0, none⟩⟩

/-- What the client writes down when a request is answered. -/
def tell (told : Rows Row) (request : Request) (r : Response) : Rows Row :=
  match request, r with
  | .createCustomer _, .created (.created dto) => withRow told .customer dto.id (some (customerOf dto))
  | .updateCustomer _ _, .customer (.customer _ dto) | .patchCustomer _ _, .customer (.customer _ dto) =>
    withRow told .customer dto.id (some (customerOf dto))
  | .deleteCustomer id, .customer .noContent => withRow told .customer id none
  | .createProduct _, .other (.product _ id p) | .updateProduct _ _, .other (.product _ id p) =>
    withRow told .product id (some p)
  | .deleteProduct id, .other .noContent => withRow told .product id none
  | .createOrder _, .other (.order _ id o) | .updateOrderStatus _ _, .other (.order _ id o) =>
    withRow told .orders id (some o)
  | .deleteOrder id, .other .noContent => withoutOrder told id
  | .addLine _ _, .other (.orderLine _ id l) | .updateLineStatus _ _ _, .other (.orderLine _ id l) =>
    withRow told .orderLine id (some l)
  | .deleteLine _ lineId, .other .noContent => withRow told .orderLine lineId none
  | _, _ => told

/-- The record after the answers to the requests, one after another. -/
def Store.told : Store → Rows Row → List Served → Rows Row
  | _, told, [] => told
  | store, told, (request, clock) :: history =>
    (store.after request clock).told
      (match (store.session request clock 7).response? with
        | some r => tell told request r
        | none => told) history

/-! ### What is told -/

/-- The row but for what the answers do not tell: when a customer was created, and what has become of an order's total
    and of its `updated_at` with its lines. -/
def visible : (t : Table) → Row t → Row t
  | .customer, c => { c with createdAt := ⟨0, none⟩ }
  | .orders, o => { o with totalAmount := 0, updatedAt := o.createdAt }
  | _, row => row

/-- The record has of each row what is told of it. -/
def Tells (told rows : Rows Row) : Prop := ∀ t id, (rows t id).map (visible t) = (told t id).map (visible t)

namespace Tells
variable {told rows : Rows Row} {store : Store} {clock : Nat → Clock}

theorem withRow (h : Tells told rows) {t : Table} {id : Nat} {row row' : Option (Row t)}
    (hrow : row.map (visible t) = row'.map (visible t)) : Tells (withRow told t id row') (withRow rows t id row) := by
  intro t' id'
  by_cases ht : t' = t
  · subst ht
    by_cases hid : id' = id
    · subst hid
      rwa [withRow_self, withRow_self]
    · rw [withRow_of_id_ne hid, withRow_of_id_ne hid]
      exact h t' id'
  · rw [withRow_of_table_ne ht, withRow_of_table_ne ht]
    exact h t' id'

theorem product (h : Tells told rows) (productId : Nat) : rows .product productId = told .product productId := by
  have hproduct := h .product productId
  rwa [show visible .product = id from rfl, Option.map_id] at hproduct

theorem line (h : Tells told rows) (lineId : Nat) : rows .orderLine lineId = told .orderLine lineId := by
  have hline := h .orderLine lineId
  rwa [show visible .orderLine = id from rfl, Option.map_id] at hline

theorem getCustomer (h : Tells told rows) (id : Nat) : getCustomer rows id = getCustomer told id := by
  have hcustomer := h .customer id
  unfold Rest.getCustomer
  cases hrow : rows .customer id with
  | none =>
    rw [hrow, Option.map_none, eq_comm, Option.map_eq_none_iff] at hcustomer
    rw [hcustomer]
  | some c =>
    rw [hrow, Option.map_some, eq_comm, Option.map_eq_some_iff] at hcustomer
    obtain ⟨c', htold, hvisible⟩ := hcustomer
    obtain ⟨name, email, createdAt⟩ := c
    obtain ⟨name', email', createdAt'⟩ := c'
    cases hvisible
    rw [htold]

/-- With the sum over its lines, all but the `updated_at` of an order is told. -/
theorem order (h : Tells told rows) (htotals : TotalsAddUp rows) (orderId : Nat) :
    (rows .orders orderId).map (unstamped) =
      (told .orders orderId).map fun o => unstamped { o with totalAmount := linesTotal told orderId } := by
  have horder := h .orders orderId
  cases hrow : rows .orders orderId with
  | none =>
    rw [hrow, Option.map_none, eq_comm, Option.map_eq_none_iff] at horder
    rw [horder]
    rfl
  | some o =>
    rw [hrow, Option.map_some, eq_comm, Option.map_eq_some_iff] at horder
    obtain ⟨o', htold, hvisible⟩ := horder
    have htotal : o.totalAmount = linesTotal told orderId := by
      rw [htotals orderId o hrow]
      exact linesTotal_congr h.line orderId
    have hsame : unstamped o = unstamped { o' with totalAmount := linesTotal told orderId } := by
      obtain ⟨customerId, status, totalAmount, createdAt, updatedAt⟩ := o
      obtain ⟨customerId', status', totalAmount', createdAt', updatedAt'⟩ := o'
      cases hvisible
      dsimp only at htotal
      subst htotal
      rfl
    rw [htold, Option.map_some, Option.map_some, hsame]

/-- What is told of a row that has not changed. -/
theorem same (h : Tells told rows) {t : Table} {id : Nat} {row row' : Row t} (hrow : rows t id = some row)
    (hsame : visible t row = visible t row') : Tells (Rest.withRow told t id (some row')) rows := by
  have hwritten : Tells (Rest.withRow told t id (some row')) (Rest.withRow rows t id (some row)) :=
    h.withRow (congrArg some hsame)
  rwa [withRow_same hrow] at hwritten

/-- A new total of an order is not told. -/
theorem withTotal (h : Tells told rows) {orderId total : Nat} {o : Order} {now : DateTime}
    (hrow : rows .orders orderId = some o) : Tells told (withTotal rows orderId o total now) := by
  unfold Rest.withTotal
  split
  · exact h
  · have hwritten : Tells (Rest.withRow told .orders orderId (told .orders orderId))
        (Rest.withRow rows .orders orderId (some { o with totalAmount := total, updatedAt := now })) := by
      refine h.withRow ?_
      rw [← h .orders orderId, hrow]
      rfl
    rwa [withRow_same rfl] at hwritten

theorem withoutOrder (h : Tells told rows) (orderId : Nat) :
    Tells (withoutOrder told orderId) (withoutOrder rows orderId) := by
  intro t id
  cases t with
  | orders =>
    by_cases hid : id = orderId
    · simp [Rest.withoutOrder, hid]
    · simpa [Rest.withoutOrder, hid] using h .orders id
  | orderLine =>
    simp only [Rest.withoutOrder, h.line id]
  | customer => exact h .customer id
  | product => exact h .product id
  | appUser => exact h .appUser id
  | refreshToken => exact h .refreshToken id

/-! One case for each request. -/

theorem createCustomer (h : Tells told store.rows) (body : CustomerCreate) :
    Tells (tell told (.createCustomer body) (store.outcome clock (.createCustomer body)).1)
      (store.outcome clock (.createCustomer body)).2 := by
  simp only [Store.outcome]
  split
  · exact h
  · exact h.withRow rfl

theorem updateCustomer (h : Tells told store.rows) (id : Nat) (body : CustomerCreate) :
    Tells (tell told (.updateCustomer id body) (store.outcome clock (.updateCustomer id body)).1)
      (store.outcome clock (.updateCustomer id body)).2 := by
  simp only [Store.outcome]
  split
  · exact h
  · split
    · exact h
    · exact h.withRow rfl

theorem patchCustomer (h : Tells told store.rows) (id : Nat) (body : CustomerPatch) :
    Tells (tell told (.patchCustomer id body) (store.outcome clock (.patchCustomer id body)).1)
      (store.outcome clock (.patchCustomer id body)).2 := by
  simp only [Store.outcome]
  split
  · exact h
  · split
    · exact h
    · exact h.withRow rfl

theorem deleteCustomer (h : Tells told store.rows) (id : Nat) :
    Tells (tell told (.deleteCustomer id) (store.outcome clock (.deleteCustomer id)).1)
      (store.outcome clock (.deleteCustomer id)).2 := by
  simp only [Store.outcome]
  split
  · exact h
  · split
    · exact h
    · exact h.withRow rfl

theorem createProduct (h : Tells told store.rows) (payload : ProductCreate) :
    Tells (tell told (.createProduct payload) (store.outcome clock (.createProduct payload)).1)
      (store.outcome clock (.createProduct payload)).2 := by
  simp only [Store.outcome]
  split
  · exact h
  · split
    · exact h.withRow rfl
    · exact h

/-- A PUT that changes nothing answers the row as it is. -/
theorem updateProduct (h : Tells told store.rows) (productId : Nat) (payload : ProductCreate) :
    Tells (tell told (.updateProduct productId payload) (store.outcome clock (.updateProduct productId payload)).1)
      (store.outcome clock (.updateProduct productId payload)).2 := by
  simp only [Store.outcome]
  split
  · exact h
  · rename_i p hrow
    split
    · exact h.same hrow rfl
    · split
      · exact h
      · split
        · exact h
        · exact h.withRow rfl

theorem deleteProduct (h : Tells told store.rows) (productId : Nat) :
    Tells (tell told (.deleteProduct productId) (store.outcome clock (.deleteProduct productId)).1)
      (store.outcome clock (.deleteProduct productId)).2 := by
  simp only [Store.outcome]
  split
  · exact h
  · split
    · exact h
    · exact h.withRow rfl

theorem createOrder (h : Tells told store.rows) (customerId : Nat) :
    Tells (tell told (.createOrder customerId) (store.outcome clock (.createOrder customerId)).1)
      (store.outcome clock (.createOrder customerId)).2 := by
  simp only [Store.outcome]
  split
  · exact h
  · exact h.withRow rfl

theorem updateOrderStatus (h : Tells told store.rows) (orderId : Nat) (status : OrderStatus) :
    Tells (tell told (.updateOrderStatus orderId status) (store.outcome clock (.updateOrderStatus orderId status)).1)
      (store.outcome clock (.updateOrderStatus orderId status)).2 := by
  simp only [Store.outcome]
  split
  · exact h
  · rename_i o hrow
    split
    · exact h
    · split
      · exact h.same hrow rfl
      · exact h.withRow rfl

theorem deleteOrder (h : Tells told store.rows) (orderId : Nat) :
    Tells (tell told (.deleteOrder orderId) (store.outcome clock (.deleteOrder orderId)).1)
      (store.outcome clock (.deleteOrder orderId)).2 := by
  simp only [Store.outcome]
  split
  · exact h
  · exact h.withoutOrder orderId

theorem addLine (h : Tells told store.rows) (orderId : Nat) (payload : OrderLineCreate) :
    Tells (tell told (.addLine orderId payload) (store.outcome clock (.addLine orderId payload)).1)
      (store.outcome clock (.addLine orderId payload)).2 := by
  simp only [Store.outcome]
  split
  · exact h
  · exact h
  · rename_i o p horder hproduct
    split
    · exact (h.withRow rfl).withTotal ((withRow_of_table_ne (by decide)).trans horder)
    · exact h

theorem updateLineStatus (h : Tells told store.rows) (orderId lineId : Nat) (payload : OrderLineStatusUpdate) :
    Tells (tell told (.updateLineStatus orderId lineId payload)
      (store.outcome clock (.updateLineStatus orderId lineId payload)).1)
      (store.outcome clock (.updateLineStatus orderId lineId payload)).2 := by
  simp only [Store.outcome]
  split
  · exact h
  · split
    · exact h
    · split
      · exact h
      · exact h.withRow rfl

theorem deleteLine (h : Tells told store.rows) (orderId lineId : Nat) :
    Tells (tell told (.deleteLine orderId lineId) (store.outcome clock (.deleteLine orderId lineId)).1)
      (store.outcome clock (.deleteLine orderId lineId)).2 := by
  simp only [Store.outcome]
  split
  · exact h
  · rename_i l o hline
    split
    · exact h
    · split
      · exact h.withRow rfl
      · rename_i o horder
        split
        · exact (h.withRow rfl).withTotal ((withRow_of_table_ne (by decide)).trans horder)
        · exact h

theorem outcome (h : Tells told store.rows) (request : Request) :
    Tells (tell told request (store.outcome clock request).1) (store.outcome clock request).2 := by
  cases request with
  | createCustomer body => exact h.createCustomer body
  | updateCustomer id body => exact h.updateCustomer id body
  | patchCustomer id body => exact h.patchCustomer id body
  | deleteCustomer id => exact h.deleteCustomer id
  | createProduct payload => exact h.createProduct payload
  | updateProduct productId payload => exact h.updateProduct productId payload
  | deleteProduct productId => exact h.deleteProduct productId
  | createOrder customerId => exact h.createOrder customerId
  | updateOrderStatus orderId status => exact h.updateOrderStatus orderId status
  | deleteOrder orderId => exact h.deleteOrder orderId
  | addLine orderId payload => exact h.addLine orderId payload
  | updateLineStatus orderId lineId payload => exact h.updateLineStatus orderId lineId payload
  | deleteLine orderId lineId => exact h.deleteLine orderId lineId

theorem spec (h : Tells told store.rows) (request : Request) :
    Tells (tell told request (store.spec clock request).1) (store.spec clock request).2 := by
  rw [Store.spec]
  split
  · exact h.outcome request
  · cases request <;> exact h

theorem afterAll (h : Tells told store.rows) (history : List Served) :
    Tells (store.told told history) (store.afterAll history).rows := by
  induction history generalizing store told with
  | nil => exact h
  | cons served history ih =>
    obtain ⟨request, clock⟩ := served
    refine ih ?_
    rw [answer_spec store request clock, rows_spec store request clock]
    exact h.spec request

end Tells

/-- The record of all answers to requests that an empty store has served. -/
def toldBy (history : List Served) : Rows Row := Store.empty.told Store.empty.rows history

theorem tells_toldBy (history : List Served) : Tells (toldBy history) (Store.empty.afterAll history).rows :=
  Tells.afterAll (fun _ _ => rfl) history

/-- Clients that keep all answers know the rows: after any requests, one after another, GET answers of a customer and of a
    product what the last answers said, the lines are as they were answered, and an order has the customer, the status
    and the time of creation that were answered, with the sum over the answered lines. -/
theorem answers_tell_rows (history : List Served) :
    let rows := (Store.empty.afterAll history).rows
    let told := toldBy history
    (∀ id, getCustomer rows id = getCustomer told id) ∧ (∀ id, getProduct rows id = getProduct told id) ∧
      (∀ id, rows .orderLine id = told .orderLine id) ∧
        ∀ id, (rows .orders id).map (unstamped) =
          (told .orders id).map fun o => unstamped { o with totalAmount := linesTotal told id } := by
  have htells := tells_toldBy history
  have htotals : TotalsAddUp (Store.empty.afterAll history).rows := TotalsAddUp.empty.afterAll history
  refine ⟨htells.getCustomer, fun id => ?_, htells.line, htells.order htotals⟩
  rw [getProduct, getProduct, htells.product id]

end IrisService.Rest
