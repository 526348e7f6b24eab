import IrisService.Rest.Conflicts

/-! The ranges of the columns. Whatever the requests and however their steps interleave, no transaction writes a row
    that its table cannot hold. -/

namespace IrisService.Rest
open ReadCommitted Orders Products Customers Runs

/-- The numbers of the row are in the range of their columns. -/
def Fits : (t : Table) → Row t → Prop
  | .product, p => fitsInteger (Product.stockQuantity p) = true ∧ fitsNumeric (Product.unitPrice p) = true
  | .orders, o => fitsNumeric (Order.totalAmount o) = true
  | .orderLine, l => fitsInteger (OrderLine.quantity l) = true ∧ fitsNumeric (OrderLine.unitPriceAtOrder l) = true
  | _, _ => True

/-- A store as PostgreSQL keeps it. -/
structure NumericStore extends Store where
  fits : ∀ t id row, rows t id = some row → Fits t row

/-- The rows that the action writes are in the range of their columns. -/
def WritesFit {S : Type} : Action Row S → Prop
  | .insert t row _ => ∀ id, Fits t (row id)
  | .write cs _ => ∀ c ∈ cs, ∀ row, c.row = some row → Fits c.table row
  | _ => True

/-- The price that `add_line` is about to copy is in the range of its column. -/
def Session.HoldsFit : Session → Prop
  | .other (.addLine _ _ (.priced _ product)) => fitsNumeric product.unitPrice = true
  | _ => True

/-! ### Statements -/

section Statements
variable {v : View Row} {S : Type}

theorem writesFit_map {S' : Type} {f : S → S'} {a : Action Row S} : WritesFit (a.map f) ↔ WritesFit a := by
  cases a <;> rfl

theorem writesFit_delete {t : Table} {id : Nat} {s : S} : WritesFit (.write [⟨t, id, none⟩] s) := by
  intro c hc row hrow
  obtain rfl := List.mem_singleton.mp hc
  cases hrow

theorem update_writesFit {t : Table} {id : Nat} {set : Row t → Row t} {flushed stale : S}
    (h : ∀ row, v.rows t id = some row → Fits t (set row)) : WritesFit (update v t id set flushed stale) := by
  unfold update
  split
  · rename_i row hrow
    intro c hc r hr
    obtain rfl := List.mem_singleton.mp hc
    cases hr
    exact h row hrow
  · trivial

theorem flushCustomer_writesFit {id : Nat} {loaded : Customer} {name email : String} {flushed conflict stale : S} :
    WritesFit (flushCustomer v id loaded name email flushed conflict stale) := by
  unfold flushCustomer
  split
  · trivial
  · split
    · trivial
    · exact update_writesFit fun _ _ => trivial

theorem storeTotal_writesFit {orderId total : Nat} {order : Order} {now : DateTime} {flushed : S} {failed : Reply → S} :
    WritesFit (storeTotal v orderId order total now flushed failed) := by
  unfold storeTotal
  split
  · trivial
  · split
    · rename_i hfits
      exact update_writesFit fun _ _ => hfits
    · trivial

end Statements

section Handlers
variable {v : View Row} {now : DateTime} {clock : Clock}

/-! ### Customers -/

theorem createCustomer_writesFit (body : CustomerCreate) (st : Create) :
    WritesFit (Customers.createCustomer body now st v) := by
  cases st with
  | start =>
    simp only [Customers.createCustomer]
    split
    · trivial
    · exact fun _ => trivial
  | _ => trivial

theorem updateCustomer_writesFit (id : Nat) (body : CustomerCreate) (st : UpdateCustomer) :
    WritesFit (Customers.updateCustomer id body st v) := by
  cases st with
  | start =>
    simp only [Customers.updateCustomer]
    split <;> trivial
  | loaded customer => exact flushCustomer_writesFit
  | _ => trivial

theorem patchCustomer_writesFit (id : Nat) (body : CustomerPatch) (st : UpdateCustomer) :
    WritesFit (Customers.patchCustomer id body st v) := by
  cases st with
  | start =>
    simp only [Customers.patchCustomer]
    split <;> trivial
  | loaded customer => exact flushCustomer_writesFit
  | _ => trivial

theorem deleteCustomer_writesFit (id : Nat) (st : DeleteCustomer) : WritesFit (Customers.deleteCustomer id st v) := by
  cases st with
  | start =>
    simp only [Customers.deleteCustomer]
    split <;> trivial
  | loaded =>
    simp only [Customers.deleteCustomer]
    split
    · trivial
    · split
      · exact writesFit_delete
      · trivial
  | _ => trivial

/-! ### Products -/

theorem createProduct_writesFit (payload : ProductCreate) (st : CreateProduct) :
    WritesFit (Products.createProduct payload clock st v) := by
  cases st with
  | start =>
    simp only [Products.createProduct]
    split <;> trivial
  | checked =>
    simp only [Products.createProduct]
    split
    · trivial
    · rename_i hfits
      split
      · trivial
      · simp only [Bool.or_eq_true, Bool.not_eq_true', not_or, Bool.not_eq_false] at hfits
        exact fun _ => hfits
  | flushed id =>
    simp only [Products.createProduct]
    split <;> trivial
  | _ => trivial

theorem updateProduct_writesFit (hrows : ∀ id row, v.rows .product id = some row → Fits .product row) (productId : Nat)
    (payload : ProductCreate) (st : UpdateProduct) : WritesFit (Products.updateProduct productId payload now st v) := by
  cases st with
  | start =>
    simp only [Products.updateProduct]
    split <;> trivial
  | loaded product =>
    simp only [Products.updateProduct]
    split
    · trivial
    · split
      · trivial
      · rename_i hfits
        split
        · trivial
        · simp only [Bool.or_eq_true, Bool.not_eq_true', not_or, Bool.not_eq_false] at hfits
          refine update_writesFit fun row hrow => ?_
          -- An attribute is the payload's or that of the row.
          obtain ⟨hstock, hprice⟩ := hrows productId row hrow
          constructor
          · show fitsInteger (if _ then _ else _) = true
            split
            · exact hstock
            · exact hfits.1
          · show fitsNumeric (if _ then _ else _) = true
            split
            · exact hprice
            · exact hfits.2
  | flushed =>
    simp only [Products.updateProduct]
    split <;> trivial
  | _ => trivial

theorem deleteProduct_writesFit (productId : Nat) (st : DeleteProduct) :
    WritesFit (Products.deleteProduct productId st v) := by
  cases st with
  | start =>
    simp only [Products.deleteProduct]
    split <;> trivial
  | loaded =>
    simp only [Products.deleteProduct]
    split
    · trivial
    · split
      · exact writesFit_delete
      · trivial
  | _ => trivial

/-! ### Orders -/

theorem fitsNumeric_zero : fitsNumeric 0 = true := by decide

theorem createOrder_writesFit (customerId : Nat) (st : CreateOrder) :
    WritesFit (Orders.createOrder customerId clock st v) := by
  cases st with
  | start =>
    simp only [Orders.createOrder]
    split
    · exact fun _ => fitsNumeric_zero
    · trivial
  | flushed id =>
    simp only [Orders.createOrder]
    split <;> trivial
  | _ => trivial

theorem updateOrderStatus_writesFit (hrows : ∀ id row, v.rows .orders id = some row → Fits .orders row) (orderId : Nat)
    (target : OrderStatus) (st : UpdateOrderStatus) : WritesFit (Orders.updateOrderStatus orderId target now st v) := by
  cases st with
  | start =>
    simp only [Orders.updateOrderStatus]
    split
    · trivial
    · split <;> trivial
  | checked order =>
    simp only [Orders.updateOrderStatus]
    split
    · trivial
    · exact update_writesFit fun row hrow => hrows orderId row hrow
  | flushed order =>
    simp only [Orders.updateOrderStatus]
    split <;> trivial
  | _ => trivial

theorem deleteOrder_writesFit (orderId : Nat) (st : DeleteOrder) : WritesFit (Orders.deleteOrder orderId st v) := by
  cases st with
  | start =>
    simp only [Orders.deleteOrder]
    split <;> trivial
  | loaded =>
    simp only [Orders.deleteOrder]
    split
    · intro c hc row hrow
      rcases List.mem_cons.mp hc with rfl | hline
      · cases hrow
      · obtain ⟨l, -, rfl⟩ := List.mem_map.mp hline
        cases hrow
    · trivial
  | _ => trivial

theorem mcpCreateOrder_writesFit (customerId : Nat) (cached : Option (Nat × Order)) (st : McpCreateOrder) :
    WritesFit (Orders.mcpCreateOrder customerId clock cached st v) := by
  cases st with
  | start =>
    simp only [Orders.mcpCreateOrder]
    split <;> trivial
  | missed =>
    simp only [Orders.mcpCreateOrder]
    split
    · exact fun _ => fitsNumeric_zero
    · trivial
  | flushed id =>
    simp only [Orders.mcpCreateOrder]
    split <;> trivial
  | _ => trivial

theorem cancelOrder_writesFit (hrows : ∀ id row, v.rows .orders id = some row → Fits .orders row) (orderId : Nat)
    (st : CancelOrder) : WritesFit (Orders.cancelOrder orderId now st v) := by
  cases st with
  | start =>
    simp only [Orders.cancelOrder]
    split <;> trivial
  | loaded order =>
    simp only [Orders.cancelOrder]
    split
    · trivial
    · exact update_writesFit fun row hrow => hrows orderId row hrow
  | _ => trivial

/-! ### Order lines -/

theorem addLine_writesFit (orderId : Nat) (payload : OrderLineCreate) (st : AddLine)
    (hholds : (Session.other (.addLine orderId payload st)).HoldsFit) :
    WritesFit (Orders.addLine orderId payload now st v) := by
  cases st with
  | priced order product =>
    simp only [Orders.addLine]
    split
    · trivial
    · rename_i hquantity
      split
      · simp only [Bool.not_eq_true', Bool.not_eq_false] at hquantity
        exact fun _ => ⟨hquantity, hholds⟩
      · trivial
  | summed order id line total => exact storeTotal_writesFit
  | refreshed order id line => trivial
  | stored order id line total => trivial
  | done r => trivial
  | _ =>
    simp only [Orders.addLine]
    split <;> trivial

theorem updateLineStatus_writesFit (hrows : ∀ id row, v.rows .orderLine id = some row → Fits .orderLine row)
    (orderId lineId : Nat) (payload : OrderLineStatusUpdate) (st : UpdateLineStatus) :
    WritesFit (Orders.updateLineStatus orderId lineId payload st v) := by
  cases st with
  | start =>
    simp only [Orders.updateLineStatus]
    split
    · trivial
    · split
      · trivial
      · split <;> trivial
  | checked line =>
    simp only [Orders.updateLineStatus]
    split
    · trivial
    · exact update_writesFit fun row hrow => hrows lineId row hrow
  | flushed line =>
    simp only [Orders.updateLineStatus]
    split <;> trivial
  | _ => trivial

theorem deleteLine_writesFit (orderId lineId : Nat) (st : DeleteLine) :
    WritesFit (Orders.deleteLine orderId lineId now st v) := by
  cases st with
  | start =>
    simp only [Orders.deleteLine]
    split
    · trivial
    · split <;> trivial
  | loaded line =>
    simp only [Orders.deleteLine]
    split
    · exact writesFit_delete
    · trivial
  | flushed =>
    simp only [Orders.deleteLine]
    split <;> trivial
  | summed order total => exact storeTotal_writesFit
  | _ => trivial

/-! ### Requests -/

theorem handle_writesFit (hrows : ∀ t id row, v.rows t id = some row → Fits t row) {s : Session} (hs : s.HoldsFit) :
    WritesFit (handle clock s v) := by
  cases s with
  | createCustomer body st => exact writesFit_map.mpr (createCustomer_writesFit body st)
  | updateCustomer id body st => exact writesFit_map.mpr (updateCustomer_writesFit id body st)
  | patchCustomer id body st => exact writesFit_map.mpr (patchCustomer_writesFit id body st)
  | deleteCustomer id st => exact writesFit_map.mpr (deleteCustomer_writesFit id st)
  | deleteProduct productId st => exact writesFit_map.mpr (deleteProduct_writesFit productId st)
  | other session =>
    refine writesFit_map.mpr ?_
    cases session with
    | createOrder customerId st => exact writesFit_map.mpr (createOrder_writesFit customerId st)
    | updateOrderStatus orderId status st =>
      exact writesFit_map.mpr (updateOrderStatus_writesFit (hrows .orders) orderId status st)
    | deleteOrder orderId st => exact writesFit_map.mpr (deleteOrder_writesFit orderId st)
    | listLines orderId st => cases st <;> trivial
    | addLine orderId payload st => exact writesFit_map.mpr (addLine_writesFit orderId payload st hs)
    | updateLineStatus orderId lineId payload st =>
      exact writesFit_map.mpr (updateLineStatus_writesFit (hrows .orderLine) orderId lineId payload st)
    | deleteLine orderId lineId st => exact writesFit_map.mpr (deleteLine_writesFit orderId lineId st)
    | createProduct payload st => exact writesFit_map.mpr (createProduct_writesFit payload st)
    | updateProduct productId payload st =>
      exact writesFit_map.mpr (updateProduct_writesFit (hrows .product) productId payload st)
    | mcpCreateOrder customerId st => exact writesFit_map.mpr (mcpCreateOrder_writesFit customerId none st)
    | cancelOrder orderId st => exact writesFit_map.mpr (cancelOrder_writesFit (hrows .orders) orderId st)

theorem handle_holdsFit (hrows : ∀ id row, v.rows .product id = some row → Fits .product row) {s : Session} :
    (handle clock s v).All Session.HoldsFit := by
  cases s with
  | other session =>
    refine Action.all_map.mpr ?_
    cases session with
    | addLine orderId payload st =>
      refine Action.all_map.mpr ?_
      cases st with
      | loaded order =>
        simp only [Orders.addLine]
        split
        · trivial
        · rename_i product hrow
          exact (hrows _ product hrow).2
      | priced order product =>
        simp only [Orders.addLine]
        split
        · trivial
        · split
          · exact fun _ => trivial
          · trivial
      | summed order id line total => exact storeTotal_all trivial fun _ => trivial
      | refreshed order id line => trivial
      | stored order id line total => trivial
      | done r => trivial
      | _ =>
        simp only [Orders.addLine]
        split <;> trivial
    | _ => exact Action.all_map.mpr (Action.all_of_forall fun _ => trivial)
  | _ => exact Action.all_map.mpr (Action.all_of_forall fun _ => trivial)

theorem refused_holdsFit {s : Session} : s.refused.HoldsFit := by
  cases s with
  | other session =>
    simp only [Session.refused, Orders.Session.refused]
    split
    · cases session with
      | addLine orderId payload st => cases st <;> trivial
      | _ => trivial
    · cases session <;> trivial
  | _ =>
    simp only [Session.refused]
    split <;> trivial

end Handlers

/-! ### Runs -/

/-- Every version of every row is in the range of its columns, and so is every price that is about to be copied. -/
structure ColumnsInv (d : State) : Prop where
  versions : ∀ t id row, d.Version t id row → Fits t row
  holds : ∀ i, (d.client i).state.HoldsFit

namespace ColumnsInv
variable {d : State} {i : Nat} {a : Action Row Session}

theorem start {rows : Rows Row} {seq : Table → Nat} (hrows : ∀ t id row, rows t id = some row → Fits t row)
    (requests : Nat → Request) : ColumnsInv (Db.start rows seq fun i => (requests i).open) where
  versions t id row := by
    rintro (hrow | ⟨i, hi⟩)
    · exact hrows t id row hrow
    · cases hi
  holds i := by
    show (requests i).open.HoldsFit
    cases requests i <;> trivial

theorem perform (h : ColumnsInv d) (hwrites : WritesFit a) (hholds : a.All Session.HoldsFit) :
    ColumnsInv (d.perform i a) where
  versions t id row hrow := by
    rcases Db.perform_version hrow with hold | ⟨new, s, rfl, -, rfl⟩ | ⟨cs, s, rfl, hmem⟩
    · exact h.versions t id row hold
    · exact hwrites id
    · exact hwrites _ hmem row rfl
  holds j := by
    by_cases hne : j = i
    · subst hne
      exact Db.perform_state (h.holds j) hholds
    · rw [Db.perform_client_of_ne hne]
      exact h.holds j

theorem step (h : ColumnsInv d) (e : Event Clock) : ColumnsInv (Db.step program d e) := by
  cases e with
  | step i clock =>
    have hrows : ∀ t id row, (d.view i).rows t id = some row → Fits t row :=
      fun t id row hrow => h.versions t id row (Db.version_of_view hrow)
    exact h.perform (act_of (handle_writesFit hrows (h.holds i)) fun _ => trivial)
      (act_of (handle_holdsFit (hrows .product)) fun _ => refused_holdsFit)
  | fail i => exact h.perform (a := .rollback _) trivial refused_holdsFit

theorem run (h : ColumnsInv d) (es : List (Event Clock)) : ColumnsInv (run (Db.step program) d es) := by
  induction es generalizing d with
  | nil => exact h
  | cons e es ih => exact ih (h.step e)

end ColumnsInv

/-- In whatever order the steps of the requests come, what is committed fits the columns. -/
theorem committed_fits (store : NumericStore) (requests : Nat → Request) (es : List (Event Clock)) {t : Table}
    {id : Nat} {row : Row t}
    (hrow : (run (Db.step program) (Db.start store.rows store.seq fun i => (requests i).open) es).committed t id =
      some row) :
    Fits t row :=
  ((ColumnsInv.start store.fits requests).run es).versions t id row (Or.inl hrow)

/-- The store after a request that it serves alone. -/
def NumericStore.after (store : NumericStore) (request : Request) (clock : Nat → Clock) : NumericStore where
  toStore := store.toStore.after request clock
  fits _ _ _ hrow := committed_fits store (fun _ => request) _ hrow

end IrisService.Rest
