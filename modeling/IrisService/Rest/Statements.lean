import IrisService.Rest.Constraints

/-! Each statement of a handler keeps the constraints of the migrated schema. -/

namespace IrisService.Rest
open ReadCommitted Orders Products Customers

/-- The rows that the transaction sees after the action keep the constraints. -/
def KeepsConstraints {S : Type} (v : View Row) : Action Row S → Prop
  | .insert t row _ => Migrated (withRow v.rows t (v.seq t) (some (row (v.seq t))))
  | .write cs _ => Migrated ((Writes.empty.setAll cs).onto v.rows)
  | _ => True

section Statements
variable {v : View Row} {S : Type}

theorem keepsConstraints_map {S' : Type} {f : S → S'} {a : Action Row S} :
    KeepsConstraints v (a.map f) ↔ KeepsConstraints v a := by
  cases a <;> rfl

theorem update_keepsConstraints {t : Table} {id : Nat} {set : Row t → Row t} {flushed stale : S}
    (h : ∀ row, v.rows t id = some row → Migrated (withRow v.rows t id (some (set row)))) :
    KeepsConstraints v (update v t id set flushed stale) := by
  unfold update
  split
  · rename_i row hrow
    exact h row hrow
  · trivial

theorem storeTotal_keepsConstraints (hm : Migrated v.rows) {orderId total : Nat} {order : Order} {now : DateTime}
    {flushed : S} {failed : Reply → S} : KeepsConstraints v (storeTotal v orderId order total now flushed failed) := by
  unfold storeTotal
  split
  · trivial
  · split
    · exact update_keepsConstraints fun row hrow => hm.updateOrder hrow rfl
    · trivial

end Statements

section Handlers
variable {v : View Row} {now : DateTime} {clock : Clock}

/-! ### Customers -/

theorem createCustomer_keepsConstraints (hm : Migrated v.rows) (hused : v.Used) (body : CustomerCreate) (st : Create) :
    KeepsConstraints v (Customers.createCustomer body now st v) := by
  cases st with
  | start =>
    simp only [Customers.createCustomer]
    split
    · trivial
    · rename_i hfree
      refine hm.putCustomer fun i c _ hrow he => hfree ?_
      exact (any_select hused).mpr ⟨i, c, hrow, by simpa [newCustomer] using he⟩
  | _ => trivial

theorem flushCustomer_keepsConstraints {S : Type} (hm : Migrated v.rows) (hused : v.Used) {id : Nat} {loaded : Customer}
    {name email : String} {flushed conflict stale : S} :
    KeepsConstraints v (flushCustomer v id loaded name email flushed conflict stale) := by
  unfold flushCustomer
  split
  · trivial
  · split
    · trivial
    · rename_i hfree
      refine update_keepsConstraints fun row hrow => hm.updateCustomer hrow fun hchanged i x hne hx he => hfree ?_
      by_cases hsame : email = loaded.email
      · exact absurd (if_pos hsame) hchanged
      · rw [if_neg hsame] at he
        simp only [Bool.and_eq_true, decide_eq_true_eq]
        exact ⟨hsame, (any_select hused).mpr ⟨i, x, hx, by simp [he, hne]⟩⟩

theorem updateCustomer_keepsConstraints (hm : Migrated v.rows) (hused : v.Used) (id : Nat) (body : CustomerCreate)
    (st : UpdateCustomer) : KeepsConstraints v (Customers.updateCustomer id body st v) := by
  cases st with
  | start =>
    simp only [Customers.updateCustomer]
    split <;> trivial
  | loaded customer => exact flushCustomer_keepsConstraints hm hused
  | _ => trivial

theorem patchCustomer_keepsConstraints (hm : Migrated v.rows) (hused : v.Used) (id : Nat) (body : CustomerPatch)
    (st : UpdateCustomer) : KeepsConstraints v (Customers.patchCustomer id body st v) := by
  cases st with
  | start =>
    simp only [Customers.patchCustomer]
    split <;> trivial
  | loaded customer => exact flushCustomer_keepsConstraints hm hused
  | _ => trivial

theorem deleteCustomer_keepsConstraints (hm : Migrated v.rows) (hused : v.Used) (id : Nat) (st : DeleteCustomer) :
    KeepsConstraints v (Customers.deleteCustomer id st v) := by
  cases st with
  | start =>
    simp only [Customers.deleteCustomer]
    split <;> trivial
  | loaded =>
    simp only [Customers.deleteCustomer]
    split
    · trivial
    · rename_i hfree
      split
      · exact hm.dropCustomer fun i o ho he => hfree ((any_select hused).mpr ⟨i, o, ho, by simpa using he⟩)
      · trivial
  | _ => trivial

/-! ### Products -/

theorem createProduct_keepsConstraints (hm : Migrated v.rows) (hused : v.Used) (payload : ProductCreate)
    (st : CreateProduct) : KeepsConstraints v (Products.createProduct payload clock st v) := by
  cases st with
  | checked =>
    simp only [Products.createProduct]
    split
    · trivial
    · split
      · trivial
      · rename_i hfree
        refine hm.putProduct fun i p hne hrow he => hfree ?_
        exact (any_select hused).mpr ⟨i, p, hrow, by simpa [newProduct] using ⟨he, hne⟩⟩
  | refreshed id product => trivial
  | done r => trivial
  | _ =>
    simp only [Products.createProduct]
    split <;> trivial

theorem updateProduct_keepsConstraints (hm : Migrated v.rows) (hused : v.Used) (productId : Nat) (payload : ProductCreate)
    (st : UpdateProduct) : KeepsConstraints v (Products.updateProduct productId payload now st v) := by
  cases st with
  | loaded product =>
    simp only [Products.updateProduct]
    split
    · trivial
    · split
      · trivial
      · split
        · trivial
        · rename_i hfree
          refine update_keepsConstraints fun row hrow => hm.updateProduct hrow fun hchanged i x hne hx he => hfree ?_
          by_cases hsame : payload.name = product.name
          · exact absurd (if_pos hsame) hchanged
          · simp only [setChanged, if_neg hsame] at he
            simp only [Bool.and_eq_true, decide_eq_true_eq]
            exact ⟨hsame, (any_select hused).mpr ⟨i, x, hx, by simp [he, hne]⟩⟩
  | refreshed product => trivial
  | done r => trivial
  | _ =>
    simp only [Products.updateProduct]
    split <;> trivial

theorem deleteProduct_keepsConstraints (hm : Migrated v.rows) (hused : v.Used) (productId : Nat) (st : DeleteProduct) :
    KeepsConstraints v (Products.deleteProduct productId st v) := by
  cases st with
  | start =>
    simp only [Products.deleteProduct]
    split <;> trivial
  | loaded =>
    simp only [Products.deleteProduct]
    split
    · trivial
    · rename_i hfree
      split
      · exact hm.dropProduct fun i l hl he => hfree ((any_select hused).mpr ⟨i, l, hl, by simpa using he⟩)
      · trivial
  | _ => trivial

/-! ### Orders -/

theorem createOrder_keepsConstraints (hm : Migrated v.rows) (customerId : Nat) (st : CreateOrder) :
    KeepsConstraints v (Orders.createOrder customerId clock st v) := by
  cases st with
  | start =>
    simp only [Orders.createOrder]
    split
    · rename_i hcustomer
      refine hm.putOrder ?_
      rwa [Option.isSome_iff_ne_none] at hcustomer
    · trivial
  | flushed id =>
    simp only [Orders.createOrder]
    split <;> trivial
  | _ => trivial

theorem updateOrderStatus_keepsConstraints (hm : Migrated v.rows) (orderId : Nat) (target : OrderStatus)
    (st : UpdateOrderStatus) : KeepsConstraints v (Orders.updateOrderStatus orderId target now st v) := by
  cases st with
  | start =>
    simp only [Orders.updateOrderStatus]
    split
    · trivial
    · split <;> trivial
  | checked order =>
    simp only [Orders.updateOrderStatus]
    split
    · trivial
    · exact update_keepsConstraints fun row hrow => hm.updateOrder hrow rfl
  | flushed order =>
    simp only [Orders.updateOrderStatus]
    split <;> trivial
  | _ => trivial

theorem deleteOrder_keepsConstraints (hm : Migrated v.rows) (hused : v.Used) (orderId : Nat) (st : DeleteOrder) :
    KeepsConstraints v (Orders.deleteOrder orderId st v) := by
  cases st with
  | start =>
    simp only [Orders.deleteOrder]
    split <;> trivial
  | loaded =>
    simp only [Orders.deleteOrder]
    split
    · exact hm.dropOrder_linesOf hused orderId
    · trivial
  | _ => trivial

/-! ### Order lines -/

theorem addLine_keepsConstraints (hm : Migrated v.rows) (orderId : Nat) (payload : OrderLineCreate) (st : AddLine) :
    KeepsConstraints v (Orders.addLine orderId payload now st v) := by
  cases st with
  | priced order product =>
    simp only [Orders.addLine]
    split
    · trivial
    · split
      · rename_i hrows
        rw [Bool.and_eq_true, Option.isSome_iff_ne_none, Option.isSome_iff_ne_none] at hrows
        exact hm.putLine hrows.1 hrows.2
      · trivial
  | summed order id line total => exact storeTotal_keepsConstraints hm
  | refreshed order id line => trivial
  | stored order id line total => trivial
  | done r => trivial
  | _ =>
    simp only [Orders.addLine]
    split <;> trivial

theorem updateLineStatus_keepsConstraints (hm : Migrated v.rows) (orderId lineId : Nat) (payload : OrderLineStatusUpdate)
    (st : UpdateLineStatus) : KeepsConstraints v (Orders.updateLineStatus orderId lineId payload st v) := by
  cases st with
  | start =>
    simp only [Orders.updateLineStatus]
    split
    · trivial
    · split
      · trivial
      · split <;> trivial
  | checked line =>
    simp only [Orders.updateLineStatus]
    split
    · trivial
    · exact update_keepsConstraints fun row hrow => hm.updateLine hrow rfl rfl
  | flushed line =>
    simp only [Orders.updateLineStatus]
    split <;> trivial
  | _ => trivial

theorem deleteLine_keepsConstraints (hm : Migrated v.rows) (orderId lineId : Nat) (st : DeleteLine) :
    KeepsConstraints v (Orders.deleteLine orderId lineId now st v) := by
  cases st with
  | start =>
    simp only [Orders.deleteLine]
    split
    · trivial
    · split <;> trivial
  | loaded line =>
    simp only [Orders.deleteLine]
    split
    · exact hm.dropLine
    · trivial
  | flushed =>
    simp only [Orders.deleteLine]
    split <;> trivial
  | summed order total => exact storeTotal_keepsConstraints hm
  | _ => trivial

/-! ### Requests -/

theorem handle_keepsConstraints (clock : Clock) (hm : Migrated v.rows) (hused : v.Used) {s : Session}
    (hs : s.request? ≠ none) : KeepsConstraints v (handle clock s v) := by
  cases s with
  | createCustomer body st => exact keepsConstraints_map.mpr (createCustomer_keepsConstraints hm hused body st)
  | updateCustomer id body st => exact keepsConstraints_map.mpr (updateCustomer_keepsConstraints hm hused id body st)
  | patchCustomer id body st => exact keepsConstraints_map.mpr (patchCustomer_keepsConstraints hm hused id body st)
  | deleteCustomer id st => exact keepsConstraints_map.mpr (deleteCustomer_keepsConstraints hm hused id st)
  | deleteProduct productId st => exact keepsConstraints_map.mpr (deleteProduct_keepsConstraints hm hused productId st)
  | other session =>
    refine keepsConstraints_map.mpr ?_
    cases session with
    | createOrder customerId st => exact keepsConstraints_map.mpr (createOrder_keepsConstraints hm customerId st)
    | updateOrderStatus orderId status st =>
      exact keepsConstraints_map.mpr (updateOrderStatus_keepsConstraints hm orderId status st)
    | deleteOrder orderId st => exact keepsConstraints_map.mpr (deleteOrder_keepsConstraints hm hused orderId st)
    | addLine orderId payload st => exact keepsConstraints_map.mpr (addLine_keepsConstraints hm orderId payload st)
    | updateLineStatus orderId lineId payload st =>
      exact keepsConstraints_map.mpr (updateLineStatus_keepsConstraints hm orderId lineId payload st)
    | deleteLine orderId lineId st => exact keepsConstraints_map.mpr (deleteLine_keepsConstraints hm orderId lineId st)
    | createProduct payload st => exact keepsConstraints_map.mpr (createProduct_keepsConstraints hm hused payload st)
    | updateProduct productId payload st =>
      exact keepsConstraints_map.mpr (updateProduct_keepsConstraints hm hused productId payload st)
    | _ => exact absurd rfl hs

theorem act_keepsConstraints (clock : Clock) (hm : Migrated v.rows) (hused : v.Used) {s : Session}
    (hs : s.request? ≠ none) : KeepsConstraints v (act clock s v) :=
  act_of (handle_keepsConstraints clock hm hused hs) fun _ => trivial

end Handlers

end IrisService.Rest
