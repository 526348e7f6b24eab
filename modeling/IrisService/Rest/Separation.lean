import IrisService.Library.Separation
import IrisService.Rest.Footprints

/-! Areas that do not interfere: the customers, the catalogue, and each order with its lines. -/

namespace IrisService.Rest
open ReadCommitted Orders Products Customers Runs

/-- The customers, the catalogue, or an order with its lines and the catalogue that gives their prices. -/
inductive Area where
  | customers
  | catalogue
  | order (orderId : Nat)

/-- The order that the path or the argument of the call names. -/
def Call.order? : Call → Option Nat
  | .request (.updateOrderStatus orderId _) | .request (.deleteOrder orderId) | .request (.addLine orderId _)
  | .request (.updateLineStatus orderId _ _) | .request (.deleteLine orderId _) | .listLines orderId
  | .cancelOrder orderId => some orderId
  | _ => none

/-- The call creates or updates a product. -/
def Call.prices : Call → Bool
  | .request (.createProduct _) | .request (.updateProduct _ _) => true
  | _ => false

namespace Area

/-- The rows of an area. -/
def part : Area → (t : Table) → Nat → Row t → Bool
  | .customers, .customer, _, _ | .catalogue, .product, _, _ | .order _, .product, _, _ => true
  | .order orderId, .orders, id, _ => id = orderId
  | .order orderId, .orderLine, _, l => OrderLine.orderId l = orderId
  | _, _, _, _ => false

/-- The calls of the area. -/
def mine : Area → Call → Bool
  | .customers, .request (.createCustomer _) | .customers, .request (.updateCustomer _ _)
  | .customers, .request (.patchCustomer _ _) => true
  | .catalogue, call => call.prices
  | .order orderId, call => call.prices || call.order? == some orderId
  | _, _ => false

/-- The calls that have to look, for a foreign key, at rows outside of the area. -/
def crossedBy : Area → Call → Bool
  | .customers, .request (.deleteCustomer _) | .catalogue, .request (.deleteProduct _)
  | .order _, .request (.deleteProduct _) => true
  | _, _ => false

end Area

/-- The line that the request has found on its order, or has put there. -/
def Session.line? : Session → Option Nat
  | .other (.addLine _ _ (.flushed _ id)) => some id
  | .other (.updateLineStatus _ lineId _ (.checked _)) | .other (.updateLineStatus _ lineId _ (.flushed _))
  | .other (.deleteLine _ lineId (.loaded _)) => some lineId
  | _ => none

/-- The calls of the area, in a store that has given out the identities below `seq`. -/
def Area.division (area : Area) (seq : Table → Nat) (calls : Nat → Call) : Division Row Session where
  part := area.part
  mine i := area.mine (calls i)
  ok i s := s.call = calls i
  knows s t id := t = .orderLine ∧ s.line? = some id
  floor := seq

/-! ### What a call writes -/

section Writes
variable {v : View Row} {S : Type} {part : (t : Table) → Nat → Row t → Bool} {side : Bool} {now : DateTime} {clock : Clock}

theorem stays_map {S' : Type} {f : S → S'} {a : Action Row S} : (a.map f).StaysOn part side v ↔ a.StaysOn part side v := by
  cases a <;> rfl

theorem delete_stays {t : Table} {id : Nat} {s : S} (h : ∀ row, v.rows t id = some row → part t id row = side) :
    (Action.write [⟨t, id, none⟩] s).StaysOn part side v := by
  intro c hc
  obtain rfl := List.mem_singleton.mp hc
  exact ⟨h, fun r hr => by cases hr⟩

theorem update_stays {t : Table} {id : Nat} {set : Row t → Row t} {flushed stale : S}
    (h : ∀ row, v.rows t id = some row → part t id row = side ∧ part t id (set row) = side) :
    (update v t id set flushed stale).StaysOn part side v := by
  unfold update
  split
  · rename_i row hrow
    intro c hc
    obtain rfl := List.mem_singleton.mp hc
    refine ⟨fun r hr => (h r hr).1, fun r hr => ?_⟩
    cases hr
    exact (h row hrow).2
  · trivial

theorem flushCustomer_stays {id : Nat} {loaded : Customer} {name email : String} {flushed conflict stale : S}
    (h : ∀ id r, part .customer id r = side) :
    (flushCustomer v id loaded name email flushed conflict stale).StaysOn part side v := by
  unfold flushCustomer
  split
  · trivial
  · split
    · trivial
    · exact update_stays fun row _ => ⟨h id row, h id _⟩

theorem storeTotal_stays {orderId total : Nat} {order : Order} {flushed : S} {failed : Reply → S}
    (h : ∀ r, part .orders orderId r = side) :
    (storeTotal v orderId order total now flushed failed).StaysOn part side v := by
  unfold storeTotal
  split
  · trivial
  · split
    · exact update_stays fun row _ => ⟨h row, h _⟩
    · trivial

theorem createCustomer_stays (h : ∀ id r, part .customer id r = side) (body : CustomerCreate) (st : Create) :
    (Customers.createCustomer body now st v).StaysOn part side v := by
  cases st with
  | start =>
    simp only [Customers.createCustomer]
    split
    · trivial
    · exact h _ _
  | _ => trivial

theorem updateCustomer_stays (h : ∀ id r, part .customer id r = side) (id : Nat) (body : CustomerCreate)
    (st : UpdateCustomer) : (Customers.updateCustomer id body st v).StaysOn part side v := by
  cases st with
  | start =>
    simp only [Customers.updateCustomer]
    split <;> trivial
  | loaded customer => exact flushCustomer_stays h
  | _ => trivial

theorem patchCustomer_stays (h : ∀ id r, part .customer id r = side) (id : Nat) (body : CustomerPatch)
    (st : UpdateCustomer) : (Customers.patchCustomer id body st v).StaysOn part side v := by
  cases st with
  | start =>
    simp only [Customers.patchCustomer]
    split <;> trivial
  | loaded customer => exact flushCustomer_stays h
  | _ => trivial

theorem deleteCustomer_stays (h : ∀ id r, part .customer id r = side) (id : Nat) (st : DeleteCustomer) :
    (Customers.deleteCustomer id st v).StaysOn part side v := by
  cases st with
  | start =>
    simp only [Customers.deleteCustomer]
    split <;> trivial
  | loaded =>
    simp only [Customers.deleteCustomer]
    split
    · trivial
    · split
      · exact delete_stays fun row _ => h id row
      · trivial
  | _ => trivial

theorem createProduct_stays (h : ∀ id r, part .product id r = side) (payload : ProductCreate) (st : CreateProduct) :
    (Products.createProduct payload clock st v).StaysOn part side v := by
  cases st with
  | start =>
    simp only [Products.createProduct]
    split <;> trivial
  | checked =>
    simp only [Products.createProduct]
    split
    · trivial
    · split
      · trivial
      · exact h _ _
  | flushed id =>
    simp only [Products.createProduct]
    split <;> trivial
  | _ => trivial

theorem updateProduct_stays (h : ∀ id r, part .product id r = side) (productId : Nat) (payload : ProductCreate)
    (st : UpdateProduct) : (Products.updateProduct productId payload now st v).StaysOn part side v := by
  cases st with
  | start =>
    simp only [Products.updateProduct]
    split <;> trivial
  | loaded product =>
    simp only [Products.updateProduct]
    split
    · trivial
    · split
      · trivial
      · split
        · trivial
        · exact update_stays fun row _ => ⟨h productId row, h productId _⟩
  | flushed =>
    simp only [Products.updateProduct]
    split <;> trivial
  | _ => trivial

theorem deleteProduct_stays (h : ∀ id r, part .product id r = side) (productId : Nat) (st : DeleteProduct) :
    (Products.deleteProduct productId st v).StaysOn part side v := by
  cases st with
  | start =>
    simp only [Products.deleteProduct]
    split <;> trivial
  | loaded =>
    simp only [Products.deleteProduct]
    split
    · trivial
    · split
      · exact delete_stays fun row _ => h productId row
      · trivial
  | _ => trivial

theorem createOrder_stays (h : ∀ r, part .orders (v.seq .orders) r = side) (customerId : Nat) (st : CreateOrder) :
    (Orders.createOrder customerId clock st v).StaysOn part side v := by
  cases st with
  | start =>
    simp only [Orders.createOrder]
    split
    · exact h _
    · trivial
  | flushed id =>
    simp only [Orders.createOrder]
    split <;> trivial
  | _ => trivial

theorem mcpCreateOrder_stays (h : ∀ r, part .orders (v.seq .orders) r = side) (customerId : Nat)
    (cached : Option (Nat × Order)) (st : McpCreateOrder) :
    (Orders.mcpCreateOrder customerId clock cached st v).StaysOn part side v := by
  cases st with
  | start =>
    simp only [Orders.mcpCreateOrder]
    split <;> trivial
  | missed =>
    simp only [Orders.mcpCreateOrder]
    split
    · exact h _
    · trivial
  | flushed id =>
    simp only [Orders.mcpCreateOrder]
    split <;> trivial
  | _ => trivial

variable {orderId : Nat}

theorem updateOrderStatus_stays (h : ∀ r, part .orders orderId r = side) (target : OrderStatus) (st : UpdateOrderStatus) :
    (Orders.updateOrderStatus orderId target now st v).StaysOn part side v := by
  cases st with
  | start =>
    simp only [Orders.updateOrderStatus]
    split
    · trivial
    · split <;> trivial
  | checked order =>
    simp only [Orders.updateOrderStatus]
    split
    · trivial
    · exact update_stays fun row _ => ⟨h row, h _⟩
  | flushed order =>
    simp only [Orders.updateOrderStatus]
    split <;> trivial
  | _ => trivial

theorem cancelOrder_stays (h : ∀ r, part .orders orderId r = side) (st : CancelOrder) :
    (Orders.cancelOrder orderId now st v).StaysOn part side v := by
  cases st with
  | start =>
    simp only [Orders.cancelOrder]
    split <;> trivial
  | loaded order =>
    simp only [Orders.cancelOrder]
    split
    · trivial
    · exact update_stays fun row _ => ⟨h row, h _⟩
  | _ => trivial

theorem deleteOrder_stays (h : ∀ r, part .orders orderId r = side)
    (hlines : ∀ id (l : OrderLine), l.orderId = orderId → part .orderLine id l = side) (st : DeleteOrder) :
    (Orders.deleteOrder orderId st v).StaysOn part side v := by
  cases st with
  | start =>
    simp only [Orders.deleteOrder]
    split <;> trivial
  | loaded =>
    simp only [Orders.deleteOrder]
    split
    · intro c hc
      rcases List.mem_cons.mp hc with rfl | hline
      · exact ⟨fun r _ => h r, fun r hr => by cases hr⟩
      · obtain ⟨l, hl, rfl⟩ := List.mem_map.mp hline
        obtain ⟨hselected, horder⟩ := List.mem_filter.mp hl
        refine ⟨fun r hr => ?_, fun r hr => by cases hr⟩
        rw [mem_select hselected] at hr
        cases hr
        exact hlines l.1 l.2 (of_decide_eq_true horder)
    · trivial
  | _ => trivial

theorem addLine_stays (h : ∀ r, part .orders orderId r = side)
    (hlines : ∀ id (l : OrderLine), l.orderId = orderId → part .orderLine id l = side) (payload : OrderLineCreate)
    (st : AddLine) : (Orders.addLine orderId payload now st v).StaysOn part side v := by
  cases st with
  | priced order product =>
    simp only [Orders.addLine]
    split
    · trivial
    · split
      · exact hlines _ _ rfl
      · trivial
  | summed order id line total => exact storeTotal_stays h
  | refreshed order id line => trivial
  | stored order id line total => trivial
  | done r => trivial
  | _ =>
    simp only [Orders.addLine]
    split <;> trivial

theorem updateLineStatus_stays {lineId : Nat} {payload : OrderLineStatusUpdate} {st : UpdateLineStatus}
    (hstatus : ∀ id (l : OrderLine) status, part .orderLine id { l with status := status } = part .orderLine id l)
    (hknown : ∀ l, (∃ line, st = .checked line) → v.rows .orderLine lineId = some l → part .orderLine lineId l = side) :
    (Orders.updateLineStatus orderId lineId payload st v).StaysOn part side v := by
  cases st with
  | start =>
    simp only [Orders.updateLineStatus]
    split
    · trivial
    · split
      · trivial
      · split <;> trivial
  | checked line =>
    simp only [Orders.updateLineStatus]
    split
    · trivial
    · exact update_stays fun row hrow => ⟨hknown row ⟨line, rfl⟩ hrow, (hstatus _ _ _).trans (hknown row ⟨line, rfl⟩ hrow)⟩
  | flushed line =>
    simp only [Orders.updateLineStatus]
    split <;> trivial
  | _ => trivial

theorem deleteLine_stays {lineId : Nat} {st : DeleteLine} (h : ∀ r, part .orders orderId r = side)
    (hknown : ∀ l, (∃ line, st = .loaded line) → v.rows .orderLine lineId = some l → part .orderLine lineId l = side) :
    (Orders.deleteLine orderId lineId now st v).StaysOn part side v := by
  cases st with
  | start =>
    simp only [Orders.deleteLine]
    split
    · trivial
    · split <;> trivial
  | loaded line =>
    simp only [Orders.deleteLine]
    split
    · exact delete_stays fun row hrow => hknown row ⟨line, rfl⟩ hrow
    · trivial
  | flushed =>
    simp only [Orders.deleteLine]
    split <;> trivial
  | summed order total => exact storeTotal_stays h
  | _ => trivial

end Writes

/-! ### What a call reads -/

section Reads
variable {v : View Row} {part : (t : Table) → Nat → Row t → Bool} {now : DateTime} {clock : Clock} {S : Type}

theorem within_rows {t : Table} (h : ∀ id r, part t id r = true) : (v.within part).rows t = v.rows t :=
  funext fun id => View.within_of_part fun r _ => h id r

theorem select_within {t : Table} (h : ∀ id r, part t id r = true) : select (v.within part) t = select v t := by
  simp only [select, within_rows h, View.within_seq]

theorem emailTaken_within (h : ∀ id r, part .customer id r = true) (email : String) :
    emailTaken (v.within part) email = emailTaken v email := by
  simp only [emailTaken, select_within h]

theorem emailOfOther_within (h : ∀ id r, part .customer id r = true) (email : String) (id : Nat) :
    emailOfOther (v.within part) email id = emailOfOther v email id := by
  simp only [emailOfOther, select_within h]

theorem nameTaken_within (h : ∀ id r, part .product id r = true) (name : String) (id : Nat) :
    nameTaken (v.within part) name id = nameTaken v name id := by
  simp only [nameTaken, select_within h]

theorem flushCustomer_reads (h : ∀ id r, part .customer id r = true) {id : Nat} {loaded : Customer} {name email : String}
    {flushed conflict stale : S} :
    flushCustomer (v.within part) id loaded name email flushed conflict stale =
      flushCustomer v id loaded name email flushed conflict stale := by
  simp only [flushCustomer, update, emailOfOther_within h, within_rows h]

theorem createCustomer_reads (h : ∀ id r, part .customer id r = true) (body : CustomerCreate) (st : Create) :
    Customers.createCustomer body now st (v.within part) = Customers.createCustomer body now st v := by
  cases st with
  | start => simp only [Customers.createCustomer, emailTaken_within h]
  | _ => rfl

theorem updateCustomer_reads (h : ∀ id r, part .customer id r = true) (id : Nat) (body : CustomerCreate)
    (st : UpdateCustomer) :
    Customers.updateCustomer id body st (v.within part) = Customers.updateCustomer id body st v := by
  cases st with
  | start => simp only [Customers.updateCustomer, within_rows h]
  | loaded customer => exact flushCustomer_reads h
  | _ => rfl

theorem patchCustomer_reads (h : ∀ id r, part .customer id r = true) (id : Nat) (body : CustomerPatch)
    (st : UpdateCustomer) : Customers.patchCustomer id body st (v.within part) = Customers.patchCustomer id body st v := by
  cases st with
  | start => simp only [Customers.patchCustomer, within_rows h]
  | loaded customer => exact flushCustomer_reads h
  | _ => rfl

theorem createProduct_reads (h : ∀ id r, part .product id r = true) (payload : ProductCreate) (st : CreateProduct) :
    Products.createProduct payload clock st (v.within part) = Products.createProduct payload clock st v := by
  cases st with
  | start => simp only [Products.createProduct, select_within h]
  | checked => simp only [Products.createProduct, nameTaken_within h, View.within_seq]
  | flushed id => simp only [Products.createProduct, within_rows h]
  | _ => rfl

theorem updateProduct_reads (h : ∀ id r, part .product id r = true) (productId : Nat) (payload : ProductCreate)
    (st : UpdateProduct) :
    Products.updateProduct productId payload now st (v.within part) =
      Products.updateProduct productId payload now st v := by
  cases st with
  | start => simp only [Products.updateProduct, within_rows h]
  | loaded product => simp only [Products.updateProduct, update, nameTaken_within h, within_rows h]
  | flushed => simp only [Products.updateProduct, within_rows h]
  | _ => rfl

variable {orderId : Nat}

theorem order_within (h : ∀ r, part .orders orderId r = true) :
    (v.within part).rows .orders orderId = v.rows .orders orderId :=
  View.within_of_part fun r _ => h r

theorem linesOf_within (h : ∀ id (l : OrderLine), part .orderLine id l = decide (l.orderId = orderId)) :
    linesOf (v.within part) orderId = linesOf v orderId := by
  simp only [linesOf, select, View.within_seq, List.filter_filterMap]
  refine List.filterMap_congr fun id _ => ?_
  simp only [View.within]
  cases v.rows .orderLine id with
  | none => rfl
  | some l =>
    by_cases hl : OrderLine.orderId l = orderId
    · rw [Option.filter_some_pos (by rw [h]; exact decide_eq_true hl)]
    · rw [Option.filter_some_neg (by rw [h]; exact decide_eq_false hl)]
      exact (if_neg (ne_true_of_eq_false (decide_eq_false hl))).symm

theorem storeTotal_reads (h : ∀ r, part .orders orderId r = true) {total : Nat} {order : Order} {flushed : S}
    {failed : Reply → S} :
    storeTotal (v.within part) orderId order total now flushed failed =
      storeTotal v orderId order total now flushed failed := by
  simp only [storeTotal, update, order_within h]

theorem updateOrderStatus_reads (h : ∀ r, part .orders orderId r = true) (target : OrderStatus) (st : UpdateOrderStatus) :
    Orders.updateOrderStatus orderId target now st (v.within part) = Orders.updateOrderStatus orderId target now st v := by
  cases st with
  | start => simp only [Orders.updateOrderStatus, order_within h]
  | checked order => simp only [Orders.updateOrderStatus, update, order_within h]
  | flushed order => simp only [Orders.updateOrderStatus, order_within h]
  | _ => rfl

theorem cancelOrder_reads (h : ∀ r, part .orders orderId r = true) (st : CancelOrder) :
    Orders.cancelOrder orderId now st (v.within part) = Orders.cancelOrder orderId now st v := by
  cases st with
  | start => simp only [Orders.cancelOrder, order_within h]
  | loaded order => simp only [Orders.cancelOrder, update, order_within h]
  | _ => rfl

theorem deleteOrder_reads (h : ∀ r, part .orders orderId r = true)
    (hlines : ∀ id (l : OrderLine), part .orderLine id l = decide (l.orderId = orderId)) (st : DeleteOrder) :
    Orders.deleteOrder orderId st (v.within part) = Orders.deleteOrder orderId st v := by
  cases st with
  | start => simp only [Orders.deleteOrder, order_within h]
  | loaded => simp only [Orders.deleteOrder, order_within h, linesOf_within hlines]
  | _ => rfl

theorem listLines_reads (hlines : ∀ id (l : OrderLine), part .orderLine id l = decide (l.orderId = orderId))
    (st : ListLines) : Orders.listLines orderId st (v.within part) = Orders.listLines orderId st v := by
  cases st with
  | start => simp only [Orders.listLines, linesOf_within hlines]
  | _ => rfl

theorem addLine_reads (hproducts : ∀ id r, part .product id r = true) (h : ∀ r, part .orders orderId r = true)
    (hlines : ∀ id (l : OrderLine), part .orderLine id l = decide (l.orderId = orderId)) {payload : OrderLineCreate}
    {st : AddLine}
    (hknown : ∀ order id l, st = .flushed order id → v.rows .orderLine id = some l → part .orderLine id l = true) :
    Orders.addLine orderId payload now st (v.within part) = Orders.addLine orderId payload now st v := by
  cases st with
  | start => simp only [Orders.addLine, order_within h]
  | loaded order => simp only [Orders.addLine, within_rows hproducts]
  | priced order product => simp only [Orders.addLine, order_within h, within_rows hproducts]
  | flushed order id => simp only [Orders.addLine, View.within_of_part fun l => hknown order id l rfl]
  | refreshed order id line => simp only [Orders.addLine, recomputedTotal, linesOf_within hlines]
  | summed order id line total => exact storeTotal_reads h
  | _ => rfl

/-- A line of another order is as good as none. -/
theorem foundLine_within (hlines : ∀ id (l : OrderLine), part .orderLine id l = decide (l.orderId = orderId)) {lineId : Nat}
    {missing : S} {found : OrderLine → S} :
    (match (v.within part).rows .orderLine lineId with
      | none => missing
      | some line => if OrderLine.orderId line ≠ orderId then missing else found line) =
    match v.rows .orderLine lineId with
      | none => missing
      | some line => if OrderLine.orderId line ≠ orderId then missing else found line := by
  simp only [View.within]
  cases v.rows .orderLine lineId with
  | none => rfl
  | some l =>
    by_cases hl : OrderLine.orderId l = orderId
    · rw [Option.filter_some_pos (by rw [hlines]; exact decide_eq_true hl)]
    · rw [Option.filter_some_neg (by rw [hlines]; exact decide_eq_false hl)]
      exact (if_pos hl).symm

theorem updateLineStatus_reads (hlines : ∀ id (l : OrderLine), part .orderLine id l = decide (l.orderId = orderId))
    {lineId : Nat} {payload : OrderLineStatusUpdate} {st : UpdateLineStatus}
    (hknown : ∀ l, (∃ line, st = .checked line ∨ st = .flushed line) → v.rows .orderLine lineId = some l →
      part .orderLine lineId l = true) :
    Orders.updateLineStatus orderId lineId payload st (v.within part) =
      Orders.updateLineStatus orderId lineId payload st v := by
  cases st with
  | start => exact foundLine_within hlines
  | checked line =>
    simp only [Orders.updateLineStatus, update, View.within_of_part fun l => hknown l ⟨line, Or.inl rfl⟩]
  | flushed line => simp only [Orders.updateLineStatus, View.within_of_part fun l => hknown l ⟨line, Or.inr rfl⟩]
  | _ => rfl

theorem deleteLine_reads (h : ∀ r, part .orders orderId r = true)
    (hlines : ∀ id (l : OrderLine), part .orderLine id l = decide (l.orderId = orderId)) {lineId : Nat} {st : DeleteLine}
    (hknown : ∀ l, (∃ line, st = .loaded line) → v.rows .orderLine lineId = some l → part .orderLine lineId l = true) :
    Orders.deleteLine orderId lineId now st (v.within part) = Orders.deleteLine orderId lineId now st v := by
  cases st with
  | start => exact foundLine_within hlines
  | loaded line => simp only [Orders.deleteLine, View.within_of_part fun l => hknown l ⟨line, rfl⟩]
  | flushed => simp only [Orders.deleteLine, order_within h]
  | ordered order => simp only [Orders.deleteLine, recomputedTotal, linesOf_within hlines]
  | summed order total => exact storeTotal_reads h
  | _ => rfl

end Reads

/-! ### What a call knows -/

section Knows
variable {v : View Row} {clock : Clock} {area : Area} {seq : Table → Nat} {calls : Nat → Call} {i : Nat} {s : Session}

/-- The action leads to no state that knows of a line. -/
theorem learns_of_all {a : Action Row Session} (h : a.All fun s' => s'.line? = none) :
    a.Learns (area.division seq calls) i s v := by
  have hnone : ∀ s' : Session, s'.line? = none → ∀ t id, ¬(area.division seq calls).knows s' t id := by
    rintro s' hs' t id ⟨-, hid⟩
    rw [hs'] at hid
    cases hid
  cases a with
  | insert t row s' => exact fun t' id hk => absurd hk (hnone _ (h _) t' id)
  | _ => exact fun t id hk => absurd hk (hnone _ h t id)

theorem addLine_learns (orderId : Nat) (payload : OrderLineCreate) (st : AddLine) :
    (handle clock (.other (.addLine orderId payload st)) v).Learns (area.division seq calls) i
      (.other (.addLine orderId payload st)) v := by
  cases st with
  | priced order product =>
    simp only [handle, Orders.act, Orders.addLine]
    split
    · exact learns_of_all rfl
    · split
      · rintro t id ⟨rfl, hid⟩
        exact Or.inl ⟨rfl, (Option.some.inj hid).symm⟩
      · exact learns_of_all rfl
  | start | loaded order | flushed order id =>
    simp only [handle, Orders.act, Orders.addLine]
    split <;> exact learns_of_all rfl
  | summed order id line total =>
    simp only [handle, Orders.act, Orders.addLine, storeTotal, update]
    split
    · exact learns_of_all rfl
    · split
      · split <;> exact learns_of_all rfl
      · exact learns_of_all rfl
  | _ => exact learns_of_all rfl

theorem updateLineStatus_learns {orderId lineId : Nat} {payload : OrderLineStatusUpdate} {st : UpdateLineStatus}
    (hlines : ∀ (l : OrderLine), l.orderId = orderId → area.part .orderLine lineId l = area.mine (calls i)) :
    (handle clock (.other (.updateLineStatus orderId lineId payload st)) v).Learns (area.division seq calls) i
      (.other (.updateLineStatus orderId lineId payload st)) v := by
  cases st with
  | start =>
    simp only [handle, Orders.act, Orders.updateLineStatus]
    split
    · exact learns_of_all rfl
    · rename_i line hrow
      split
      · exact learns_of_all rfl
      · rename_i hof
        split
        · rintro t id ⟨rfl, hid⟩
          cases hid
          exact Or.inr ⟨line, hrow, hlines line (not_not.mp hof)⟩
        · exact learns_of_all rfl
  | checked line =>
    simp only [handle, Orders.act, Orders.updateLineStatus, update]
    split
    · exact fun t id hk => Or.inl hk
    · split
      · exact fun t id hk => Or.inl hk
      · exact learns_of_all rfl
  | flushed line =>
    simp only [handle, Orders.act, Orders.updateLineStatus]
    split <;> exact learns_of_all rfl
  | _ => exact learns_of_all rfl

theorem deleteLine_learns {orderId lineId : Nat} {st : DeleteLine}
    (hlines : ∀ (l : OrderLine), l.orderId = orderId → area.part .orderLine lineId l = area.mine (calls i)) :
    (handle clock (.other (.deleteLine orderId lineId st)) v).Learns (area.division seq calls) i
      (.other (.deleteLine orderId lineId st)) v := by
  cases st with
  | start =>
    simp only [handle, Orders.act, Orders.deleteLine]
    split
    · exact learns_of_all rfl
    · rename_i line hrow
      split
      · exact learns_of_all rfl
      · rename_i hof
        rintro t id ⟨rfl, hid⟩
        cases hid
        exact Or.inr ⟨line, hrow, hlines line (not_not.mp hof)⟩
  | loaded line =>
    simp only [handle, Orders.act, Orders.deleteLine]
    split <;> exact learns_of_all rfl
  | flushed =>
    simp only [handle, Orders.act, Orders.deleteLine]
    split <;> exact learns_of_all rfl
  | summed order total =>
    simp only [handle, Orders.act, Orders.deleteLine, storeTotal, update]
    split
    · exact learns_of_all rfl
    · split
      · split <;> exact learns_of_all rfl
      · exact learns_of_all rfl
  | _ => exact learns_of_all rfl

theorem refused_line? {id : Nat} (h : s.refused.line? = some id) : s.line? = some id := by
  cases s with
  | other session =>
    simp only [Session.refused, Orders.Session.refused] at h
    split at h
    · exact h
    · cases session <;> cases h
  | createCustomer body st => cases st <;> cases h
  | updateCustomer id' body st => cases st <;> cases h
  | patchCustomer id' body st => cases st <;> cases h
  | deleteCustomer id' st => cases st <;> cases h
  | deleteProduct productId st => cases st <;> cases h

end Knows

/-! ### The calls of an area -/

section Areas
variable {area : Area} {call : Call} {orderId : Nat}

/-- An order is in the area that the calls on it are of. -/
theorem Area.part_orders (h : call.order? = some orderId) (o : Order) : area.part .orders orderId o = area.mine call := by
  cases call with
  | request r => cases r <;> cases h <;> cases area <;> rfl
  | mcpCreateOrder customerId => cases h
  | _ => cases h; cases area <;> rfl

/-- The calls on an order are of its own area only. -/
theorem Area.eq_of_mine (h : call.order? = some orderId) (hmine : area.mine call = true) : area = .order orderId := by
  have hpart : area.part .orders orderId (⟨0, .pending, 0, ⟨0, none⟩, ⟨0, none⟩⟩ : Order) = area.mine call :=
    part_orders h _
  rw [hmine] at hpart
  cases area with
  | order orderId' => rw [of_decide_eq_true hpart]
  | _ => cases hpart

theorem Area.part_orderLine (h : call.order? = some orderId) (id : Nat) {l : OrderLine} (hl : l.orderId = orderId) :
    area.part .orderLine id l = area.mine call := by
  rw [← part_orders h ⟨0, .pending, 0, ⟨0, none⟩, ⟨0, none⟩⟩]
  subst hl
  cases area <;> rfl

variable {v : View Row} {clock : Clock} {s : Session}

/-- A call keeps to its side of the area. -/
theorem handle_stays (hcrossed : area.crossedBy s.call = false)
    (hused : ∀ orderId, area = .order orderId → orderId < v.seq .orders)
    (haware : ∀ id l, s.line? = some id → v.rows .orderLine id = some l → area.part .orderLine id l = area.mine s.call) :
    (handle clock s v).StaysOn area.part (area.mine s.call) v := by
  have hnew : ∀ r, area.part .orders (v.seq .orders) r = false := by
    intro r
    cases area with
    | order orderId => exact decide_eq_false (Nat.ne_of_gt (hused orderId rfl))
    | _ => rfl
  cases s with
  | createCustomer body st => exact stays_map.mpr (createCustomer_stays (fun id r => by cases area <;> rfl) body st)
  | updateCustomer id body st => exact stays_map.mpr (updateCustomer_stays (fun id r => by cases area <;> rfl) id body st)
  | patchCustomer id body st => exact stays_map.mpr (patchCustomer_stays (fun id r => by cases area <;> rfl) id body st)
  | deleteCustomer id st =>
    refine stays_map.mpr (deleteCustomer_stays (fun id r => ?_) id st)
    cases area with
    | customers => cases hcrossed
    | _ => rfl
  | deleteProduct productId st =>
    refine stays_map.mpr (deleteProduct_stays (fun id r => ?_) productId st)
    cases area with
    | customers => rfl
    | _ => cases hcrossed
  | other session =>
    refine stays_map.mpr ?_
    cases session with
    | createProduct payload st => exact stays_map.mpr (createProduct_stays (fun id r => by cases area <;> rfl) payload st)
    | updateProduct productId payload st =>
      exact stays_map.mpr (updateProduct_stays (fun id r => by cases area <;> rfl) productId payload st)
    | createOrder customerId st =>
      exact stays_map.mpr (createOrder_stays (fun r => (hnew r).trans (by cases area <;> rfl)) customerId st)
    | mcpCreateOrder customerId st =>
      exact stays_map.mpr (mcpCreateOrder_stays (fun r => (hnew r).trans (by cases area <;> rfl)) customerId none st)
    | updateOrderStatus orderId status st =>
      exact stays_map.mpr (updateOrderStatus_stays (Area.part_orders rfl) status st)
    | cancelOrder orderId st => exact stays_map.mpr (cancelOrder_stays (Area.part_orders rfl) st)
    | deleteOrder orderId st =>
      exact stays_map.mpr (deleteOrder_stays (Area.part_orders rfl) (fun id l => Area.part_orderLine rfl id) st)
    | listLines orderId st => cases st <;> trivial
    | addLine orderId payload st =>
      exact stays_map.mpr (addLine_stays (Area.part_orders rfl) (fun id l => Area.part_orderLine rfl id) payload st)
    | updateLineStatus orderId lineId payload st =>
      refine stays_map.mpr (updateLineStatus_stays (fun id l status => by cases area <;> rfl) ?_)
      rintro l ⟨line, rfl⟩ hrow
      exact haware lineId l rfl hrow
    | deleteLine orderId lineId st =>
      refine stays_map.mpr (deleteLine_stays (Area.part_orders rfl) ?_)
      rintro l ⟨line, rfl⟩ hrow
      exact haware lineId l rfl hrow

/-- A call of the area reads nothing else. -/
theorem handle_reads (hmine : area.mine s.call = true)
    (haware : ∀ id l, s.line? = some id → v.rows .orderLine id = some l → area.part .orderLine id l = true) :
    handle clock s (v.within area.part) = handle clock s v := by
  have horder : ∀ orderId, s.call.order? = some orderId → (∀ id r, area.part .product id r = true) ∧
      (∀ r, area.part .orders orderId r = true) ∧
        ∀ id (l : OrderLine), area.part .orderLine id l = decide (l.orderId = orderId) := by
    intro orderId h
    have harea := Area.eq_of_mine h hmine
    subst harea
    exact ⟨fun _ _ => rfl, fun _ => decide_eq_true rfl, fun _ _ => rfl⟩
  cases s with
  | createCustomer body st =>
    have hcustomers : ∀ id r, area.part .customer id r = true := fun id r => by cases area <;> first | rfl | cases hmine
    simp only [handle, createCustomer_reads hcustomers]
  | updateCustomer id body st =>
    have hcustomers : ∀ id r, area.part .customer id r = true := fun id r => by cases area <;> first | rfl | cases hmine
    simp only [handle, updateCustomer_reads hcustomers]
  | patchCustomer id body st =>
    have hcustomers : ∀ id r, area.part .customer id r = true := fun id r => by cases area <;> first | rfl | cases hmine
    simp only [handle, patchCustomer_reads hcustomers]
  | deleteCustomer id st => cases area <;> cases hmine
  | deleteProduct productId st => cases area <;> cases hmine
  | other session =>
    cases session with
    | createProduct payload st =>
      have hproducts : ∀ id r, area.part .product id r = true := fun id r => by cases area <;> first | rfl | cases hmine
      simp only [handle, Orders.act, createProduct_reads hproducts]
    | updateProduct productId payload st =>
      have hproducts : ∀ id r, area.part .product id r = true := fun id r => by cases area <;> first | rfl | cases hmine
      simp only [handle, Orders.act, updateProduct_reads hproducts]
    | createOrder customerId st => cases area <;> cases hmine
    | mcpCreateOrder customerId st => cases area <;> cases hmine
    | updateOrderStatus orderId status st =>
      obtain ⟨-, horders, -⟩ := horder orderId rfl
      simp only [handle, Orders.act, updateOrderStatus_reads horders]
    | cancelOrder orderId st =>
      obtain ⟨-, horders, -⟩ := horder orderId rfl
      simp only [handle, Orders.act, cancelOrder_reads horders]
    | deleteOrder orderId st =>
      obtain ⟨-, horders, hlines⟩ := horder orderId rfl
      simp only [handle, Orders.act, deleteOrder_reads horders hlines]
    | listLines orderId st =>
      obtain ⟨-, -, hlines⟩ := horder orderId rfl
      simp only [handle, Orders.act, listLines_reads hlines]
    | addLine orderId payload st =>
      obtain ⟨hproducts, horders, hlines⟩ := horder orderId rfl
      have hknown : ∀ order id l, st = .flushed order id → v.rows .orderLine id = some l →
        area.part .orderLine id l = true := by
        rintro order id l rfl hrow
        exact haware id l rfl hrow
      simp only [handle, Orders.act, addLine_reads hproducts horders hlines hknown]
    | updateLineStatus orderId lineId payload st =>
      obtain ⟨-, -, hlines⟩ := horder orderId rfl
      have hknown : ∀ l, (∃ line, st = .checked line ∨ st = .flushed line) → v.rows .orderLine lineId = some l →
          area.part .orderLine lineId l = true := by
        rintro l ⟨line, rfl | rfl⟩ hrow
        · exact haware lineId l rfl hrow
        · exact haware lineId l rfl hrow
      simp only [handle, Orders.act, updateLineStatus_reads hlines hknown]
    | deleteLine orderId lineId st =>
      obtain ⟨-, horders, hlines⟩ := horder orderId rfl
      have hknown : ∀ l, (∃ line, st = .loaded line) → v.rows .orderLine lineId = some l →
          area.part .orderLine lineId l = true := by
        rintro l ⟨line, rfl⟩ hrow
        exact haware lineId l rfl hrow
      simp only [handle, Orders.act, deleteLine_reads horders hlines hknown]

theorem handle_learns {seq : Table → Nat} {calls : Nat → Call} {i : Nat} (hcall : s.call = calls i) :
    (handle clock s v).Learns (area.division seq calls) i s v := by
  cases s with
  | other session =>
    cases session with
    | addLine orderId payload st => exact addLine_learns orderId payload st
    | updateLineStatus orderId lineId payload st =>
      refine updateLineStatus_learns fun l hl => ?_
      rw [← hcall]
      exact Area.part_orderLine rfl lineId hl
    | deleteLine orderId lineId st =>
      refine deleteLine_learns fun l hl => ?_
      rw [← hcall]
      exact Area.part_orderLine rfl lineId hl
    | _ => exact learns_of_all (Action.all_map.mpr (Action.all_map.mpr (Action.all_of_forall fun _ => rfl)))
  | _ => exact learns_of_all (Action.all_map.mpr (Action.all_of_forall fun _ => rfl))

end Areas

/-! ### Runs -/

section Runs
variable {store : Store} {calls : Nat → Call} {area : Area}

theorem program_respects (hcrossed : ∀ i, area.crossedBy (calls i) = false)
    (hused : ∀ orderId, area = .order orderId → orderId < store.seq .orders) :
    program.Respects (area.division store.seq calls) where
  act_ok i clock s v hs := (act_call s).imp fun s' hs' => hs'.trans hs
  fail_ok i s hs := (refused_call s).trans hs
  keeps i clock s v hs hfloor haware := by
    have hs : s.call = calls i := hs
    show (act clock s v).StaysOn area.part (area.mine (calls i)) v
    rw [← hs]
    refine act_of (handle_stays ?_ (fun orderId harea => Nat.lt_of_lt_of_le (hused orderId harea) (hfloor .orders)) ?_)
      fun _ => trivial
    · rw [hs]
      exact hcrossed i
    · intro id l hid hrow
      rw [hs]
      exact haware .orderLine id l ⟨rfl, hid⟩ hrow
  learns i clock s v hs := act_of (handle_learns hs) fun _ t id hk => Or.inl ⟨hk.1, refused_line? hk.2⟩
  forgets s t id hk := ⟨hk.1, refused_line? hk.2⟩
  reads i clock s v hmine hs haware := by
    have hs : s.call = calls i := hs
    have hmine : area.mine (calls i) = true := hmine
    have hreads : handle clock s (v.within area.part) = handle clock s v :=
      handle_reads ((congrArg area.mine hs).trans hmine) fun id l hid hrow =>
        (haware .orderLine id l ⟨rfl, hid⟩ hrow).trans hmine
    show act clock s (v.within area.part) = act clock s v
    rw [act, act, hreads]

theorem calls_sided (store : Store) (calls : Nat → Call) (area : Area) :
    (store.calls calls).Sided (area.division store.seq calls) := by
  refine Db.Sided.start store.fresh (fun _ => Nat.le_refl _) (fun i => (calls i).call_open) ?_
  rintro i t id ⟨-, hid⟩
  cases hcall : calls i with
  | request r =>
    rw [hcall] at hid
    cases r <;> cases hid
  | _ =>
    rw [hcall] at hid
    cases hid

/-- The customers, the catalogue and each order are on their own. Whatever calls interleave, the calls of an area come to
    the same states and answers, and leave the same rows of the area, as in the run in which nobody else takes a step and
    only identities are used up. What looks beyond an area is the DELETE of a customer or of a product, for the foreign
    keys. -/
theorem areas_separate (store : Store) (calls : Nat → Call) (area : Area) (hcrossed : ∀ i, area.crossedBy (calls i) = false)
    (hused : ∀ orderId, area = .order orderId → orderId < store.seq .orders) (es : List (Event Clock)) :
    let mine := fun i => area.mine (calls i)
    let seen := (store.calls calls).seenBy program mine es
    let d := run (Db.step program) (store.calls calls) es
    let d' := run (Db.follow program) (store.calls calls) seen
    seen.filterMap Seen.event? = es.filter (fun e => mine e.client) ∧
      (∀ i, mine i = true → (d.client i).state = (d'.client i).state) ∧
        ∀ t id, (d.committed t id).filter (area.part t id) = (d'.committed t id).filter (area.part t id) := by
  have hsided := calls_sided store calls area
  have hstart : (store.calls calls).Alike (area.division store.seq calls) (store.calls calls) :=
    ⟨rfl, fun _ _ => rfl, fun _ _ => rfl, fun _ _ => rfl⟩
  have halike := hstart.afterRun (program_respects hcrossed hused) hsided hsided es
  refine ⟨Db.filterMap_seenBy program _ _ es, fun i hmine => ?_, fun t id => (halike.rows t id).symm⟩
  exact (congrArg Client.state (halike.client i hmine)).symm

/-- A store with two orders, and a line that is added to each of them. -/
def Store.twoOrders : Store :=
  (((Store.empty.after (.createCustomer ⟨"Ada", "ada@example.org"⟩) ticks).after
    (.createProduct ⟨"Widget", none, 999, 10⟩) ticks).after (.createOrder 0) ticks).after (.createOrder 0) ticks

/-- A line on each of two orders. -/
def lineOnEach : Nat → Call
  | 0 => .request (.addLine 0 ⟨0, 2⟩)
  | _ => .request (.addLine 1 ⟨0, 3⟩)

/-- The line of the first order comes second and goes as it would alone. -/
theorem first_order_alone :
    let start := Store.twoOrders.calls lineOnEach
    let es := [.step 1 (ticks 1), .step 0 (ticks 2), .step 1 (ticks 3), .step 1 (ticks 4), .step 0 (ticks 5),
      .step 0 (ticks 6)]
    ((run (Db.step program) start es).client 0).state =
      ((run (Db.follow program) start
        (start.seenBy program (fun i => (Area.order 0).mine (lineOnEach i)) es)).client 0).state :=
  (areas_separate Store.twoOrders lineOnEach (.order 0) (fun i => by cases i <;> rfl)
    (fun orderId h => by cases h; decide +kernel) _).2.1 0 rfl

end Runs

end IrisService.Rest
