import IrisService.Rest.SpecRuns

/-! What follows from the specification for a client that sends a request again, or takes back what it has created. -/

namespace IrisService.Rest
open ReadCommitted Orders Products Customers

/-! ### Requests sent again -/

/-- The request replaces attributes of a row: PUT and PATCH. -/
def Request.replaces : Request → Bool
  | .updateCustomer _ _ | .patchCustomer _ _ | .updateProduct _ _ | .updateOrderStatus _ _ | .updateLineStatus _ _ _ => true
  | _ => false

/-- The request makes a new row whenever it is sent. -/
def Request.accumulates : Request → Bool
  | .createOrder _ | .addLine _ _ => true
  | _ => false

theorem withRow_withRow (rows : Rows Row) (t : Table) (id : Nat) (row row' : Option (Row t)) :
    withRow (withRow rows t id row) t id row' = withRow rows t id row' := by
  funext t' id'
  by_cases ht : t' = t
  · subst ht
    by_cases hid : id' = id
    · subst hid
      simp
    · simp [withRow_of_id_ne hid]
  · simp [withRow_of_table_ne ht]

theorem withTotal_of_table_ne {rows : Rows Row} {orderId total : Nat} {order : Order} {now : DateTime} {t : Table}
    (ht : t ≠ .orders) (id : Nat) : withTotal rows orderId order total now t id = rows t id := by
  unfold withTotal
  split
  · rfl
  · exact withRow_of_table_ne ht

section Again
variable {store store' : Store} {clock clock' : Nat → Clock}

theorem again_createCustomer (body : CustomerCreate)
    (h : store'.rows = (store.outcome clock (.createCustomer body)).2) :
    (store'.outcome clock' (.createCustomer body)).2 = store'.rows := by
  by_cases htaken : EmailTaken store.rows body.email
  · obtain ⟨rows', seq', fresh', migrated'⟩ := store'
    simp only [Store.outcome, if_pos htaken] at h
    subst h
    simp only [Store.outcome, if_pos htaken]
  · simp only [Store.outcome, if_neg htaken] at h
    have hnew : EmailTaken store'.rows body.email := ⟨store.seq .customer, _, by rw [h, withRow_self], rfl⟩
    simp only [Store.outcome, if_pos hnew]

theorem again_updateCustomer (id : Nat) (body : CustomerCreate)
    (h : store'.rows = (store.outcome clock (.updateCustomer id body)).2) :
    store'.outcome clock' (.updateCustomer id body) = ((store.outcome clock (.updateCustomer id body)).1, store'.rows) := by
  cases hrow : store.rows .customer id with
  | none =>
    obtain ⟨rows', seq', fresh', migrated'⟩ := store'
    simp only [Store.outcome, hrow] at h
    subst h
    simp only [Store.outcome, hrow]
  | some c =>
    by_cases htaken : body.email ≠ c.email ∧ EmailOfOther store.rows body.email id
    · obtain ⟨rows', seq', fresh', migrated'⟩ := store'
      simp only [Store.outcome, hrow, if_pos htaken] at h
      subst h
      simp only [Store.outcome, hrow, if_pos htaken]
    · simp only [Store.outcome, hrow, if_neg htaken] at h
      have hrow' : store'.rows .customer id = some ⟨body.name, body.email, c.createdAt⟩ := by rw [h, withRow_self]
      simp only [Store.outcome, hrow, hrow', if_neg htaken, ne_eq, not_true_eq_false, false_and, if_false,
        withRow_same hrow']

theorem again_patchCustomer (id : Nat) (body : CustomerPatch)
    (h : store'.rows = (store.outcome clock (.patchCustomer id body)).2) :
    store'.outcome clock' (.patchCustomer id body) = ((store.outcome clock (.patchCustomer id body)).1, store'.rows) := by
  cases hrow : store.rows .customer id with
  | none =>
    obtain ⟨rows', seq', fresh', migrated'⟩ := store'
    simp only [Store.outcome, hrow] at h
    subst h
    simp only [Store.outcome, hrow]
  | some c =>
    by_cases htaken : body.email.getD c.email ≠ c.email ∧ EmailOfOther store.rows (body.email.getD c.email) id
    · obtain ⟨rows', seq', fresh', migrated'⟩ := store'
      simp only [Store.outcome, hrow, if_pos htaken] at h
      subst h
      simp only [Store.outcome, hrow, if_pos htaken]
    · simp only [Store.outcome, hrow, if_neg htaken] at h
      have hrow' : store'.rows .customer id = some ⟨body.name.getD c.name, body.email.getD c.email, c.createdAt⟩ := by
        rw [h, withRow_self]
      have hname : body.name.getD (body.name.getD c.name) = body.name.getD c.name := by cases body.name <;> rfl
      have hemail : body.email.getD (body.email.getD c.email) = body.email.getD c.email := by cases body.email <;> rfl
      simp only [Store.outcome, hrow, hrow', if_neg htaken, hname, hemail, ne_eq, not_true_eq_false, false_and, if_false,
        withRow_same hrow']

theorem again_deleteCustomer (id : Nat) (h : store'.rows = (store.outcome clock (.deleteCustomer id)).2) :
    (store'.outcome clock' (.deleteCustomer id)).2 = store'.rows := by
  cases hrow : store.rows .customer id with
  | none =>
    obtain ⟨rows', seq', fresh', migrated'⟩ := store'
    simp only [Store.outcome, hrow] at h
    subst h
    simp only [Store.outcome, hrow]
  | some c =>
    by_cases horders : HasOrders store.rows id
    · obtain ⟨rows', seq', fresh', migrated'⟩ := store'
      simp only [Store.outcome, hrow, if_pos horders] at h
      subst h
      simp only [Store.outcome, hrow, if_pos horders]
    · simp only [Store.outcome, hrow, if_neg horders] at h
      have hgone : store'.rows .customer id = none := by rw [h, withRow_self]
      simp only [Store.outcome, hgone]

theorem again_createProduct (payload : ProductCreate)
    (h : store'.rows = (store.outcome clock (.createProduct payload)).2) :
    (store'.outcome clock' (.createProduct payload)).2 = store'.rows := by
  by_cases htaken : NameTaken store.rows payload.name
  · obtain ⟨rows', seq', fresh', migrated'⟩ := store'
    simp only [Store.outcome, if_pos htaken] at h
    subst h
    simp only [Store.outcome, if_pos htaken]
  · by_cases hfits : (fitsInteger payload.stockQuantity && fitsNumeric payload.unitPrice) = true
    · simp only [Store.outcome, if_neg htaken, if_pos hfits] at h
      have hnew : NameTaken store'.rows payload.name := ⟨store.seq .product, _, by rw [h, withRow_self], rfl⟩
      simp only [Store.outcome, if_pos hnew]
    · obtain ⟨rows', seq', fresh', migrated'⟩ := store'
      simp only [Store.outcome, if_neg htaken, if_neg hfits] at h
      subst h
      simp only [Store.outcome, if_neg htaken, if_neg hfits]

theorem again_updateProduct (productId : Nat) (payload : ProductCreate)
    (h : store'.rows = (store.outcome clock (.updateProduct productId payload)).2) :
    store'.outcome clock' (.updateProduct productId payload) =
      ((store.outcome clock (.updateProduct productId payload)).1, store'.rows) := by
  cases hrow : store.rows .product productId with
  | none =>
    obtain ⟨rows', seq', fresh', migrated'⟩ := store'
    simp only [Store.outcome, hrow] at h
    subst h
    simp only [Store.outcome, hrow]
  | some p =>
    by_cases hsame : unchanged payload p = true
    · obtain ⟨rows', seq', fresh', migrated'⟩ := store'
      simp only [Store.outcome, hrow, if_pos hsame] at h
      subst h
      simp only [Store.outcome, hrow, if_pos hsame]
    · by_cases hfits : (fitsInteger payload.stockQuantity && fitsNumeric payload.unitPrice) = true
      · by_cases htaken : payload.name ≠ p.name ∧ NameOfOther store.rows payload.name productId
        · obtain ⟨rows', seq', fresh', migrated'⟩ := store'
          simp only [Store.outcome, hrow, if_neg hsame, hfits, Bool.not_true, Bool.false_eq_true, if_false,
            if_pos htaken] at h
          subst h
          simp only [Store.outcome, hrow, if_neg hsame, hfits, Bool.not_true, Bool.false_eq_true, if_false, if_pos htaken]
        · simp only [Store.outcome, hrow, if_neg hsame, hfits, Bool.not_true, Bool.false_eq_true, if_false,
            if_neg htaken] at h
          have hrow' : store'.rows .product productId = some ⟨payload.name, payload.description, payload.unitPrice,
              payload.stockQuantity, p.createdAt, (clock 1).now⟩ := by
            rw [h, withRow_self]
          have hsame' : unchanged payload ⟨payload.name, payload.description, payload.unitPrice, payload.stockQuantity,
              p.createdAt, (clock 1).now⟩ = true := by
            simp [unchanged]
          simp only [Store.outcome, hrow, hrow', if_neg hsame, hfits, Bool.not_true, Bool.false_eq_true, if_false,
            if_neg htaken, if_pos hsame']
      · rw [Bool.not_eq_true] at hfits
        obtain ⟨rows', seq', fresh', migrated'⟩ := store'
        simp only [Store.outcome, hrow, if_neg hsame, hfits, Bool.not_false, if_true] at h
        subst h
        simp only [Store.outcome, hrow, if_neg hsame, hfits, Bool.not_false, if_true]

theorem again_deleteProduct (productId : Nat) (h : store'.rows = (store.outcome clock (.deleteProduct productId)).2) :
    (store'.outcome clock' (.deleteProduct productId)).2 = store'.rows := by
  cases hrow : store.rows .product productId with
  | none =>
    obtain ⟨rows', seq', fresh', migrated'⟩ := store'
    simp only [Store.outcome, hrow] at h
    subst h
    simp only [Store.outcome, hrow]
  | some p =>
    by_cases hordered : IsOrdered store.rows productId
    · obtain ⟨rows', seq', fresh', migrated'⟩ := store'
      simp only [Store.outcome, hrow, if_pos hordered] at h
      subst h
      simp only [Store.outcome, hrow, if_pos hordered]
    · simp only [Store.outcome, hrow, if_neg hordered] at h
      have hgone : store'.rows .product productId = none := by rw [h, withRow_self]
      simp only [Store.outcome, hgone]

theorem again_updateOrderStatus (orderId : Nat) (status : OrderStatus)
    (h : store'.rows = (store.outcome clock (.updateOrderStatus orderId status)).2) :
    store'.outcome clock' (.updateOrderStatus orderId status) =
      ((store.outcome clock (.updateOrderStatus orderId status)).1, store'.rows) := by
  cases hrow : store.rows .orders orderId with
  | none =>
    obtain ⟨rows', seq', fresh', migrated'⟩ := store'
    simp only [Store.outcome, hrow] at h
    subst h
    simp only [Store.outcome, hrow]
  | some o =>
    cases hallowed : o.status.canTransitionTo (some status) with
    | false =>
      obtain ⟨rows', seq', fresh', migrated'⟩ := store'
      simp only [Store.outcome, hrow, hallowed, Bool.not_false, if_true] at h
      subst h
      simp only [Store.outcome, hrow, hallowed, Bool.not_false, if_true]
    | true =>
      by_cases hsame : status = o.status
      · obtain ⟨rows', seq', fresh', migrated'⟩ := store'
        simp only [Store.outcome, hrow, hallowed, Bool.not_true, Bool.false_eq_true, if_false, if_pos hsame] at h
        subst h
        simp only [Store.outcome, hrow, hallowed, Bool.not_true, Bool.false_eq_true, if_false, if_pos hsame]
      · simp only [Store.outcome, hrow, hallowed, Bool.not_true, Bool.false_eq_true, if_false, if_neg hsame] at h
        have hrow' : store'.rows .orders orderId = some { o with status := status, updatedAt := (clock 1).now } := by
          rw [h, withRow_self]
        have hstays : status.canTransitionTo (some status) = true := OrderStatus.allowed_refl status
        simp only [Store.outcome, hrow, hrow', hallowed, hstays, Bool.not_true, Bool.false_eq_true, if_false, if_neg hsame,
          if_true]

theorem again_deleteOrder (orderId : Nat) (h : store'.rows = (store.outcome clock (.deleteOrder orderId)).2) :
    (store'.outcome clock' (.deleteOrder orderId)).2 = store'.rows := by
  cases hrow : store.rows .orders orderId with
  | none =>
    obtain ⟨rows', seq', fresh', migrated'⟩ := store'
    simp only [Store.outcome, hrow] at h
    subst h
    simp only [Store.outcome, hrow]
  | some o =>
    simp only [Store.outcome, hrow] at h
    have hgone : store'.rows .orders orderId = none := by
      rw [h]
      exact if_pos rfl
    simp only [Store.outcome, hgone]

theorem again_updateLineStatus (orderId lineId : Nat) (payload : OrderLineStatusUpdate)
    (h : store'.rows = (store.outcome clock (.updateLineStatus orderId lineId payload)).2) :
    store'.outcome clock' (.updateLineStatus orderId lineId payload) =
      ((store.outcome clock (.updateLineStatus orderId lineId payload)).1, store'.rows) := by
  cases hrow : store.rows .orderLine lineId with
  | none =>
    obtain ⟨rows', seq', fresh', migrated'⟩ := store'
    simp only [Store.outcome, hrow] at h
    subst h
    simp only [Store.outcome, hrow]
  | some l =>
    by_cases hof : l.orderId ≠ orderId
    · obtain ⟨rows', seq', fresh', migrated'⟩ := store'
      simp only [Store.outcome, hrow, if_pos hof] at h
      subst h
      simp only [Store.outcome, hrow, if_pos hof]
    · cases hallowed : l.status.canTransitionTo (some payload.status) with
      | false =>
        obtain ⟨rows', seq', fresh', migrated'⟩ := store'
        simp only [Store.outcome, hrow, if_neg hof, hallowed, Bool.not_false, if_true] at h
        subst h
        simp only [Store.outcome, hrow, if_neg hof, hallowed, Bool.not_false, if_true]
      | true =>
        simp only [Store.outcome, hrow, if_neg hof, hallowed, Bool.not_true, Bool.false_eq_true, if_false] at h
        have hrow' : store'.rows .orderLine lineId = some { l with status := payload.status } := by rw [h, withRow_self]
        have hstays : payload.status.canTransitionTo (some payload.status) = true :=
          OrderLineStatus.allowed_refl payload.status
        simp only [Store.outcome, hrow, hrow', if_neg hof, hallowed, hstays, Bool.not_true, Bool.false_eq_true, if_false,
          withRow_same hrow']

theorem again_deleteLine (orderId lineId : Nat) (h : store'.rows = (store.outcome clock (.deleteLine orderId lineId)).2) :
    (store'.outcome clock' (.deleteLine orderId lineId)).2 = store'.rows := by
  cases hrow : store.rows .orderLine lineId with
  | none =>
    obtain ⟨rows', seq', fresh', migrated'⟩ := store'
    simp only [Store.outcome, hrow] at h
    subst h
    simp only [Store.outcome, hrow]
  | some l =>
    by_cases hof : l.orderId ≠ orderId
    · obtain ⟨rows', seq', fresh', migrated'⟩ := store'
      simp only [Store.outcome, hrow, if_pos hof] at h
      subst h
      simp only [Store.outcome, hrow, if_pos hof]
    · cases horder : store.rows .orders orderId with
      | none =>
        simp only [Store.outcome, hrow, horder, if_neg hof] at h
        have hgone : store'.rows .orderLine lineId = none := by rw [h, withRow_self]
        simp only [Store.outcome, hgone]
      | some o =>
        by_cases hfits : (decide (linesTotal store.rows orderId - l.unitPriceAtOrder * l.quantity = o.totalAmount) ||
            fitsNumeric (linesTotal store.rows orderId - l.unitPriceAtOrder * l.quantity)) = true
        · simp only [Store.outcome, hrow, horder, if_neg hof, hfits, if_true] at h
          have hgone : store'.rows .orderLine lineId = none := by
            rw [h, withTotal_of_table_ne (by decide), withRow_self]
          simp only [Store.outcome, hgone]
        · rw [Bool.not_eq_true] at hfits
          obtain ⟨rows', seq', fresh', migrated'⟩ := store'
          simp only [Store.outcome, hrow, horder, if_neg hof, hfits, Bool.false_eq_true, if_false] at h
          subst h
          simp only [Store.outcome, hrow, horder, if_neg hof, hfits, Bool.false_eq_true, if_false]

/-- The rows are those of the specification already, and a replacement is answered as before. -/
theorem outcome_again (clock' : Nat → Clock) {request : Request} (hrequest : request.accumulates = false)
    (h : store'.rows = (store.outcome clock request).2) : (store'.outcome clock' request).2 = store'.rows ∧
      (request.replaces = true → (store'.outcome clock' request).1 = (store.outcome clock request).1) := by
  cases request with
  | createCustomer body => exact ⟨again_createCustomer body h, by simp [Request.replaces]⟩
  | updateCustomer id body =>
    rw [again_updateCustomer id body h]
    exact ⟨rfl, fun _ => rfl⟩
  | patchCustomer id body =>
    rw [again_patchCustomer id body h]
    exact ⟨rfl, fun _ => rfl⟩
  | deleteCustomer id => exact ⟨again_deleteCustomer id h, by simp [Request.replaces]⟩
  | createProduct payload => exact ⟨again_createProduct payload h, by simp [Request.replaces]⟩
  | updateProduct productId payload =>
    rw [again_updateProduct productId payload h]
    exact ⟨rfl, fun _ => rfl⟩
  | deleteProduct productId => exact ⟨again_deleteProduct productId h, by simp [Request.replaces]⟩
  | updateOrderStatus orderId status =>
    rw [again_updateOrderStatus orderId status h]
    exact ⟨rfl, fun _ => rfl⟩
  | deleteOrder orderId => exact ⟨again_deleteOrder orderId h, by simp [Request.replaces]⟩
  | updateLineStatus orderId lineId payload =>
    rw [again_updateLineStatus orderId lineId payload h]
    exact ⟨rfl, fun _ => rfl⟩
  | deleteLine orderId lineId => exact ⟨again_deleteLine orderId lineId h, by simp [Request.replaces]⟩
  | createOrder customerId => cases hrequest
  | addLine orderId payload => cases hrequest

theorem spec_again (clock' : Nat → Clock) {request : Request} (hrequest : request.accumulates = false)
    (h : store'.rows = (store.spec clock request).2) : (store'.spec clock' request).2 = store'.rows ∧
      (request.replaces = true → (store'.spec clock' request).1 = (store.spec clock request).1) := by
  -- Only a line asks for a row before it binds an id.
  have hsame : store'.Binds request ↔ store.Binds request := by
    cases request with
    | addLine orderId payload => cases hrequest
    | _ => exact Iff.rfl
  by_cases hbinds : store.Binds request
  · simp only [Store.spec, if_pos hbinds, if_pos (hsame.mpr hbinds)] at h ⊢
    exact outcome_again clock' hrequest h
  · simp only [Store.spec, if_neg hbinds, if_neg (mt hsame.mp hbinds)]
    exact ⟨trivial, fun _ => trivial⟩

end Again

/-- A client may send a request again whose answer it has not seen, unless the request makes a new order or line: the
    second one leaves every row as the first one has left it, and a PUT or PATCH is answered as before. -/
theorem resend_changes_nothing (store : Store) (request : Request) (clock clock' : Nat → Clock)
    (hrequest : request.accumulates = false) :
    ((store.after request clock).after request clock').rows = (store.after request clock).rows ∧
      (request.replaces = true → ((store.after request clock).session request clock' 7).response? =
        (store.session request clock 7).response?) := by
  have hfirst := answer_spec store request clock
  have hrows := rows_spec store request clock
  have hsecond := answer_spec (store.after request clock) request clock'
  have hrows' := rows_spec (store.after request clock) request clock'
  obtain ⟨hsame, hanswer⟩ := spec_again clock' hrequest hrows
  exact ⟨hrows'.trans hsame, fun h => by rw [hsecond, hfirst, hanswer h]⟩

/-- A product that is put twice. -/
theorem widget_put_again :
    (((Store.empty.after (.createProduct ⟨"Widget", none, 999, 10⟩) ticks).after
      (.updateProduct 0 ⟨"Widget", none, 899, 9⟩) ticks).after (.updateProduct 0 ⟨"Widget", none, 899, 9⟩) ticks).rows =
    ((Store.empty.after (.createProduct ⟨"Widget", none, 999, 10⟩) ticks).after
      (.updateProduct 0 ⟨"Widget", none, 899, 9⟩) ticks).rows :=
  (resend_changes_nothing _ (.updateProduct 0 ⟨"Widget", none, 899, 9⟩) ticks ticks rfl).1

/-! ### Creations taken back -/

/-- The DELETE that takes back what an answer says to have been created. -/
def Response.undo? : Response → Option Request
  | .created (.created dto) => some (.deleteCustomer dto.id)
  | .other (.product 201 id _) => some (.deleteProduct id)
  | .other (.order 201 id _) => some (.deleteOrder id)
  | .other (.orderLine 201 id line) => some (.deleteLine line.orderId id)
  | _ => none

/-- The order but for the time of its last change. -/
def unstamped (o : Order) : Order := { o with updatedAt := o.createdAt }

/-- The order that the request adds a line to. -/
def Request.addsTo : Request → Option Nat
  | .addLine orderId _ => some orderId
  | _ => none

section Undo
variable {store store' : Store} {clock clock' : Nat → Clock}

/-- The identity of a new row has nothing in its place. -/
theorem withRow_fresh (store : Store) (t : Table) (row : Option (Row t)) :
    withRow (withRow store.rows t (store.seq t) row) t (store.seq t) none = store.rows := by
  rw [withRow_withRow, withRow_same (store.fresh t _ (Nat.le_refl _))]

theorem undo_createCustomer {body : CustomerCreate} {dto : CustomerResponse}
    (hanswer : (store.outcome clock (.createCustomer body)).1 = .created (.created dto))
    (hrows : store'.rows = (store.outcome clock (.createCustomer body)).2) :
    store'.outcome clock' (.deleteCustomer dto.id) = (.customer .noContent, store.rows) := by
  by_cases htaken : EmailTaken store.rows body.email
  · simp only [Store.outcome, if_pos htaken] at hanswer
    cases hanswer
  · simp only [Store.outcome, if_neg htaken, Response.created.injEq, Answer.created.injEq] at hanswer hrows
    subst hanswer
    have hrow : store'.rows .customer (store.seq .customer) = some (newCustomer body (clock 0).now) := by
      rw [hrows, withRow_self]
    -- An order of the new customer would refer to a row that was not there.
    have hunused : ¬HasOrders store'.rows (store.seq .customer) := by
      rintro ⟨id, o, ho, hcustomer⟩
      rw [hrows, withRow_of_table_ne (by decide)] at ho
      exact store.migrated.orderCustomer id o ho (by rw [hcustomer]; exact store.fresh .customer _ (Nat.le_refl _))
    simp only [Store.outcome, hrow, if_neg hunused]
    rw [hrows, withRow_fresh]

theorem undo_createProduct {payload : ProductCreate} {id : Nat} {row : Product}
    (hanswer : (store.outcome clock (.createProduct payload)).1 = .other (.product 201 id row))
    (hrows : store'.rows = (store.outcome clock (.createProduct payload)).2) :
    store'.outcome clock' (.deleteProduct id) = (.other .noContent, store.rows) := by
  by_cases htaken : NameTaken store.rows payload.name
  · simp only [Store.outcome, if_pos htaken] at hanswer
    cases hanswer
  · by_cases hfits : (fitsInteger payload.stockQuantity && fitsNumeric payload.unitPrice) = true
    · simp only [Store.outcome, if_neg htaken, if_pos hfits, Response.other.injEq, Reply.product.injEq, true_and]
        at hanswer hrows
      obtain ⟨rfl, -⟩ := hanswer
      have hrow : store'.rows .product (store.seq .product) = some (newProduct payload (clock 1)) := by
        rw [hrows, withRow_self]
      have hunused : ¬IsOrdered store'.rows (store.seq .product) := by
        rintro ⟨id, l, hl, hproduct⟩
        rw [hrows, withRow_of_table_ne (by decide)] at hl
        exact store.migrated.lineProduct id l hl (by rw [hproduct]; exact store.fresh .product _ (Nat.le_refl _))
      simp only [Store.outcome, hrow, if_neg hunused]
      rw [hrows, withRow_fresh]
    · simp only [Store.outcome, if_neg htaken, if_neg hfits] at hanswer
      cases hanswer

/-- A new order has no lines. -/
theorem withoutOrder_fresh (store : Store) (o : Order) :
    withoutOrder (withRow store.rows .orders (store.seq .orders) (some o)) (store.seq .orders) = store.rows := by
  have hfresh : store.rows .orders (store.seq .orders) = none := store.fresh .orders _ (Nat.le_refl _)
  funext t id
  cases t with
  | orders =>
    simp only [withoutOrder]
    split
    · rename_i hid
      rw [hid, hfresh]
    · rename_i hid
      exact withRow_of_id_ne hid
  | orderLine =>
    simp only [withoutOrder]
    rw [withRow_of_table_ne (by decide)]
    cases hrow : store.rows .orderLine id with
    | none => rfl
    | some l =>
      have hof : OrderLine.orderId l ≠ store.seq .orders := fun he =>
        store.migrated.lineOrder id l hrow (by rw [he]; exact hfresh)
      exact Option.filter_some_pos (by simpa using hof)
  | _ => exact withRow_of_table_ne (by decide)

theorem undo_createOrder {customerId id : Nat} {row : Order}
    (hanswer : (store.outcome clock (.createOrder customerId)).1 = .other (.order 201 id row))
    (hrows : store'.rows = (store.outcome clock (.createOrder customerId)).2) :
    store'.outcome clock' (.deleteOrder id) = (.other .noContent, store.rows) := by
  cases hcustomer : store.rows .customer customerId with
  | none =>
    simp only [Store.outcome, hcustomer] at hanswer
    cases hanswer
  | some c =>
    simp only [Store.outcome, hcustomer, Response.other.injEq, Reply.order.injEq, true_and] at hanswer hrows
    obtain ⟨rfl, -⟩ := hanswer
    have hrow : store'.rows .orders (store.seq .orders) = some (newOrder customerId (clock 0)) := by
      rw [hrows, withRow_self]
    simp only [Store.outcome, hrow]
    rw [hrows, withoutOrder_fresh]

/-! ### A line taken back -/

theorem linesTotal_congr {rows rows' : Rows Row} (h : ∀ id, rows .orderLine id = rows' .orderLine id) (orderId : Nat) :
    linesTotal rows orderId = linesTotal rows' orderId := by
  simp only [linesTotal, h]

theorem linesTotal_withLine (store : Store) {orderId : Nat} {l : OrderLine} (hof : l.orderId = orderId) :
    linesTotal (withRow store.rows .orderLine (store.seq .orderLine) (some l)) orderId =
      linesTotal store.rows orderId + l.unitPriceAtOrder * l.quantity := by
  set v : View Row := ⟨withRow store.rows .orderLine (store.seq .orderLine) (some l),
    Function.update store.seq .orderLine (store.seq .orderLine + 1)⟩ with hv
  have hused : v.Used := by
    intro t id row hrow
    by_cases ht : t = .orderLine
    · subst ht
      rcases withRow_cases hrow with ⟨rfl, -⟩ | ⟨-, hold⟩
      · simp [hv]
      · have hid := store.used .orderLine id row hold
        simp only [hv, Function.update_self]
        exact Nat.lt_succ_of_lt hid
    · simp only [hv, withRow_of_table_ne ht, Function.update_of_ne ht] at hrow ⊢
      exact store.used t id row hrow
  calc linesTotal v.rows orderId
      = recomputedTotal v orderId := (recomputedTotal_eq_linesTotal hused orderId).symm
    _ = recomputedTotal store.view orderId + l.unitPriceAtOrder * l.quantity := recomputedTotal_insert store.used l hof
    _ = linesTotal store.rows orderId + l.unitPriceAtOrder * l.quantity :=
        congrArg (· + _) (recomputedTotal_eq_linesTotal store.used orderId)

theorem withRow_comm {rows : Rows Row} {t t' : Table} (ht : t ≠ t') (id id' : Nat) (row : Option (Row t))
    (row' : Option (Row t')) :
    withRow (withRow rows t id row) t' id' row' = withRow (withRow rows t' id' row') t id row := by
  funext u k
  by_cases hu : u = t
  · subst hu
    rw [withRow_of_table_ne ht]
    by_cases hk : k = id
    · subst hk
      simp
    · simp [withRow_of_id_ne hk, withRow_of_table_ne ht]
  · by_cases hu' : u = t'
    · subst hu'
      by_cases hk : k = id'
      · subst hk
        simp [withRow_of_table_ne hu]
      · simp [withRow_of_id_ne hk, withRow_of_table_ne hu]
    · simp [withRow_of_table_ne hu, withRow_of_table_ne hu']

/-- What stood in the store where a line was added, and what was made of it. -/
theorem addLine_created {orderId id : Nat} {payload : OrderLineCreate} {row : OrderLine}
    (hanswer : (store.outcome clock (.addLine orderId payload)).1 = .other (.orderLine 201 id row)) :
    ∃ o total, store.rows .orders orderId = some o ∧ id = store.seq .orderLine ∧ row.orderId = orderId ∧
      total = linesTotal store.rows orderId + row.unitPriceAtOrder * row.quantity ∧
      (total = o.totalAmount ∨ fitsNumeric total = true) ∧
      (store.outcome clock (.addLine orderId payload)).2 =
        withTotal (withRow store.rows .orderLine id (some row)) orderId o total (clock 5).now := by
  cases horder : store.rows .orders orderId with
  | none =>
    simp only [Store.outcome, horder] at hanswer
    cases hanswer
  | some o =>
    cases hproduct : store.rows .product payload.productId with
    | none =>
      simp only [Store.outcome, horder, hproduct] at hanswer
      cases hanswer
    | some p =>
      set total := linesTotal store.rows orderId + p.unitPrice * payload.quantity with htotal
      by_cases hfits : (fitsInteger payload.quantity && (decide (total = o.totalAmount) || fitsNumeric total)) = true
      · simp only [Store.outcome, horder, hproduct, ← htotal, hfits, if_true, Response.other.injEq, Reply.orderLine.injEq,
          true_and] at hanswer ⊢
        obtain ⟨rfl, rfl⟩ := hanswer
        rw [Bool.and_eq_true, Bool.or_eq_true, decide_eq_true_eq] at hfits
        exact ⟨o, total, rfl, rfl, rfl, htotal, hfits.2, rfl⟩
      · rw [Bool.not_eq_true] at hfits
        simp only [Store.outcome, horder, hproduct, ← htotal, hfits, Bool.false_eq_true, if_false] at hanswer
        cases hanswer

theorem undo_addLine (clock' : Nat → Clock) {orderId id : Nat} {payload : OrderLineCreate} {row : OrderLine}
    (hmatch : ∀ o, store.rows .orders orderId = some o → Order.totalAmount o = linesTotal store.rows orderId)
    (hanswer : (store.outcome clock (.addLine orderId payload)).1 = .other (.orderLine 201 id row))
    (hrows : store'.rows = (store.outcome clock (.addLine orderId payload)).2) :
    ∃ o o', store.rows .orders orderId = some o ∧ unstamped o' = unstamped o ∧
      store'.outcome clock' (.deleteLine row.orderId id) =
        (.other .noContent, withRow store.rows .orders orderId (some o')) := by
  obtain ⟨o, total, horder, rfl, hof, htotal, hfits, hadded⟩ := addLine_created hanswer
  rw [hadded] at hrows
  have hstored := hmatch o horder
  have hlines : ∀ i, store'.rows .orderLine i =
      withRow store.rows .orderLine (store.seq .orderLine) (some row) .orderLine i := fun i => by
    rw [hrows, withTotal_of_table_ne (by decide)]
  have hline : store'.rows .orderLine (store.seq .orderLine) = some row := by rw [hlines, withRow_self]
  -- Without the line the sum is the total that was stored.
  have hback : linesTotal store'.rows orderId - row.unitPriceAtOrder * row.quantity = o.totalAmount := by
    rw [linesTotal_congr hlines, linesTotal_withLine store hof, hstored]
    exact Nat.add_sub_cancel _ _
  by_cases hfree : total = o.totalAmount
  · -- The line costs nothing, and no total is stored either time.
    rw [withTotal, if_pos hfree] at hrows
    have horder' : store'.rows .orders orderId = some o := by
      rw [hrows, ← horder]
      exact orders_withLine store.rows (store.seq .orderLine) (some row) orderId
    simp only [Store.outcome, hof, hline, horder', hback, ne_eq, not_true_eq_false, if_false, decide_true, Bool.true_or,
      if_true, withTotal]
    refine ⟨o, o, horder, rfl, ?_⟩
    rw [hrows, withRow_fresh, withRow_same horder]
  · rw [withTotal, if_neg hfree] at hrows
    have horder' : store'.rows .orders orderId =
        some { o with totalAmount := total, updatedAt := (clock 5).now } := by rw [hrows, withRow_self]
    have hfitsBack : fitsNumeric o.totalAmount = true := by
      have hle : o.totalAmount ≤ total := by
        rw [hstored, htotal]
        exact Nat.le_add_right _ _
      exact decide_eq_true (Nat.lt_of_le_of_lt hle (of_decide_eq_true (hfits.resolve_left hfree)))
    simp only [Store.outcome, hof, hline, horder', hback, ne_eq, not_true_eq_false, if_false, hfitsBack, Bool.or_true,
      if_true, withTotal, if_neg (Ne.symm hfree)]
    refine ⟨o, { o with updatedAt := (clock' 4).now }, horder, rfl, ?_⟩
    rw [hrows, withRow_comm (by decide), withRow_withRow, withRow_comm (by decide), withRow_fresh]

end Undo

/-- Only a 201 can be taken back, and only a POST is answered 201. -/
theorem undo?_outcome {store : Store} {clock : Nat → Clock} {request undo : Request}
    (h : (store.outcome clock request).1.undo? = some undo) :
    (∃ body dto, request = .createCustomer body ∧ undo = .deleteCustomer dto.id ∧
        (store.outcome clock request).1 = .created (.created dto)) ∨
      (∃ payload id row, request = .createProduct payload ∧ undo = .deleteProduct id ∧
        (store.outcome clock request).1 = .other (.product 201 id row)) ∨
      (∃ customerId id row, request = .createOrder customerId ∧ undo = .deleteOrder id ∧
        (store.outcome clock request).1 = .other (.order 201 id row)) ∨
      ∃ orderId payload id row, request = .addLine orderId payload ∧ undo = .deleteLine row.orderId id ∧
        (store.outcome clock request).1 = .other (.orderLine 201 id row) := by
  generalize hr : (store.outcome clock request).1 = r at h
  cases request with
  | createCustomer body =>
    simp only [Store.outcome] at hr
    split at hr
    · subst hr
      cases h
    · subst hr
      cases h
      exact Or.inl ⟨body, _, rfl, rfl, rfl⟩
  | createProduct payload =>
    simp only [Store.outcome] at hr
    split at hr
    · subst hr
      cases h
    · split at hr
      · subst hr
        cases h
        exact Or.inr (Or.inl ⟨payload, _, _, rfl, rfl, rfl⟩)
      · subst hr
        cases h
  | createOrder customerId =>
    simp only [Store.outcome] at hr
    split at hr
    · subst hr
      cases h
    · subst hr
      cases h
      exact Or.inr (Or.inr (Or.inl ⟨customerId, _, _, rfl, rfl, rfl⟩))
  | addLine orderId payload =>
    simp only [Store.outcome] at hr
    split at hr
    · subst hr
      cases h
    · subst hr
      cases h
    · split at hr
      · subst hr
        cases h
        exact Or.inr (Or.inr (Or.inr ⟨orderId, payload, _, _, rfl, rfl, rfl⟩))
      · subst hr
        cases h
  | _ =>
    simp only [Store.outcome] at hr
    repeat' split at hr
    all_goals subst hr
    all_goals cases h

/-- An answer that can be taken back is not the driver's exception. -/
theorem spec_of_undo {store : Store} {clock : Nat → Clock} {request undo : Request}
    (h : (store.spec clock request).1.undo? = some undo) : store.spec clock request = store.outcome clock request := by
  rw [Store.spec] at h ⊢
  split
  · rfl
  · rename_i hnot
    rw [if_neg hnot] at h
    cases request <;> cases h

/-- What a POST has created, the DELETE of it takes back: it is answered 204, and every row is as it was before. Only of
    the order that a line was added to, the time of the last change is another one; its total was that of its lines. The
    new identity is in the range of its column. -/
theorem delete_undoes_create (store : Store) (clock clock' : Nat → Clock) (request undo : Request) (r : Response)
    (hanswer : (store.session request clock 7).response? = some r) (hundo : r.undo? = some undo)
    (hmatch : ∀ orderId o, request.addsTo = some orderId → store.rows .orders orderId = some o →
      Order.totalAmount o = linesTotal store.rows orderId)
    (hbinds : (store.after request clock).Binds undo) :
    ((store.after request clock).session undo clock' 7).response?.bind Response.statusCode = some 204 ∧
      (∀ t id, (t = .orders → request.addsTo ≠ some id) →
        ((store.after request clock).after undo clock').rows t id = store.rows t id) ∧
      ∀ orderId, request.addsTo = some orderId →
        (((store.after request clock).after undo clock').rows .orders orderId).map unstamped =
          (store.rows .orders orderId).map unstamped := by
  have hrows := rows_spec store request clock
  have hsecond := answer_spec (store.after request clock) undo clock'
  have hrows' := rows_spec (store.after request clock) undo clock'
  rw [answer_spec store request clock, Option.some.injEq] at hanswer
  subst hanswer
  rw [spec_of_undo hundo] at hrows hundo
  rw [Store.spec, if_pos hbinds] at hsecond hrows'
  rw [hsecond, hrows', Option.bind_some]
  rcases undo?_outcome hundo with ⟨body, dto, rfl, rfl, h⟩ | ⟨payload, id, row, rfl, rfl, h⟩ |
    ⟨customerId, id, row, rfl, rfl, h⟩ | ⟨orderId, payload, id, row, rfl, rfl, h⟩
  · rw [undo_createCustomer h hrows]
    exact ⟨rfl, fun _ _ _ => rfl, fun _ hadds => by cases hadds⟩
  · rw [undo_createProduct h hrows]
    exact ⟨rfl, fun _ _ _ => rfl, fun _ hadds => by cases hadds⟩
  · rw [undo_createOrder h hrows]
    exact ⟨rfl, fun _ _ _ => rfl, fun _ hadds => by cases hadds⟩
  · obtain ⟨o, o', horder, hsame, hback⟩ := undo_addLine clock' (fun o => hmatch orderId o rfl) h hrows
    rw [hback]
    refine ⟨rfl, fun t i hother => ?_, fun i hadds => ?_⟩
    · by_cases ht : t = .orders
      · subst ht
        exact withRow_of_id_ne fun hi => hother rfl (congrArg some hi.symm)
      · exact withRow_of_table_ne ht
    · cases hadds
      simp only [withRow_self, horder, Option.map_some, hsame]

theorem totalAmount_of_recomputed {store : Store} {orderId : Nat}
    (h : (store.rows .orders orderId).map Order.totalAmount = some (recomputedTotal store.view orderId)) (o : Order)
    (horder : store.rows .orders orderId = some o) : o.totalAmount = linesTotal store.rows orderId := by
  rw [horder, Option.map_some, Option.some.injEq, recomputedTotal_eq_linesTotal store.used] at h
  exact h

/-- A second line on the order, added and taken back: the total of the order is that of the first line again. -/
theorem line_taken_back :
    ((Store.sold.after (.addLine 0 ⟨0, 2⟩) ticks).after (.deleteLine 0 1) ticks).rows .orderLine 1 =
        Store.sold.rows .orderLine 1 ∧
      (((Store.sold.after (.addLine 0 ⟨0, 2⟩) ticks).after (.deleteLine 0 1) ticks).rows .orders 0).map unstamped =
        (Store.sold.rows .orders 0).map unstamped := by
  have h := delete_undoes_create Store.sold ticks ticks (.addLine 0 ⟨0, 2⟩) (.deleteLine 0 1)
    (.other (.orderLine 201 1 ⟨0, 0, 2, 999, .pending, (ticks 2).now⟩)) (by decide +kernel) rfl ?_ rfl
  · exact ⟨h.2.1 .orderLine 1 (by simp), h.2.2 0 rfl⟩
  · rintro orderId o hadds horder
    cases hadds
    exact totalAmount_of_recomputed (by decide +kernel) o horder

end IrisService.Rest
