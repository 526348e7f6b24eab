import IrisService.Orders.Totals

/-! What one step of a handler does to the totals: an inversion of `act`, once for all handlers. -/

namespace IrisService.Orders
open ReadCommitted Products

/-- A recomputed total that equals the loaded one is not written, so it changes nothing. -/
def summedPhase (o loaded total : Nat) (stored : Bool) : Phase :=
  if total = loaded then .clean else if stored then .stored o total else .summed o total

/-- How far the session has come with a total. -/
def Session.phase : Session → Phase
  | .addLine o _ (.flushed _ _) | .addLine o _ (.refreshed _ _ _) => .changed o false
  | .addLine o _ (.summed order _ _ total) => summedPhase o order.totalAmount total false
  | .addLine o _ (.stored order _ _ total) => summedPhase o order.totalAmount total true
  | .deleteLine o _ .flushed | .deleteLine o _ (.ordered _) => .changed o true
  | .deleteLine o _ (.summed order total) => summedPhase o order.totalAmount total false
  | .deleteLine o _ (.stored order total) => summedPhase o order.totalAmount total true
  | _ => .clean

/-- The order whose lines the next step sums, with the total that its session loaded. -/
def Session.recomputing : Session → Option (Nat × Nat)
  | .addLine o _ (.refreshed order _ _) | .deleteLine o _ (.ordered order) => some (o, order.totalAmount)
  | _ => none

/-- The line that the next step deletes, with its order. -/
def Session.deleting : Session → Option (Nat × Nat)
  | .deleteLine o id (.loaded _) => some (id, o)
  | _ => none

/-- The session deletes an order. -/
def Session.deletesOrder : Session → Bool
  | .deleteOrder _ _ => true
  | _ => false

/-- The steps of the handlers, told apart by what they do to totals and lines. -/
inductive Moves (v : View Row) (s : Session) : Action Row Session → Prop
  | read {s'} (hphase : s'.phase = s.phase) (hdel : ∀ id o, s'.deleting = some (id, o) →
      ∃ l, v.rows .orderLine id = some l ∧ OrderLine.orderId l = o) : Moves v s (.next s')
  | sum {s' o loaded shrinks} (hrec : s.recomputing = some (o, loaded)) (hs : s.phase = .changed o shrinks)
      (hs' : s'.phase = summedPhase o loaded (recomputedTotal v o) false) (hdel : s'.deleting = none) :
      Moves v s (.next s')
  /-- A DELETE that matches no row. -/
  | missed {s' o} (hs : s.phase = .clean) (hs' : s'.phase = .changed o true) (hdel : s'.deleting = none) :
      Moves v s (.next s')
  | gone {s' o} (hs : s.phase = .changed o true) (hrow : v.rows .orders o = none) (hs' : s'.phase = .clean)
      (hdel : s'.deleting = none) : Moves v s (.next s')
  | insertOrder {row : Order} {s'} (hs : s.phase = .clean) (htotal : row.totalAmount = 0)
      (hs' : ∀ id, (s' id).phase = .clean) (hdel : ∀ id, (s' id).deleting = none) :
      Moves v s (.insert .orders (fun _ => row) s')
  | insertLine {row : OrderLine} {s'} (hs : s.phase = .clean) (hs' : ∀ id, (s' id).phase = .changed row.orderId false)
      (hdel : ∀ id, (s' id).deleting = none) : Moves v s (.insert .orderLine (fun _ => row) s')
  | insertProduct {row s'} (hs : s.phase = .clean) (hs' : ∀ id, (s' id).phase = .clean)
      (hdel : ∀ id, (s' id).deleting = none) : Moves v s (.insert .product row s')
  | rewriteOrder {o} {row row' : Order} {s'} (hs : s.phase = .clean) (hrow : v.rows .orders o = some row)
      (htotal : row'.totalAmount = row.totalAmount) (hs' : s'.phase = .clean) (hdel : s'.deleting = none) :
      Moves v s (.write [⟨.orders, o, some row'⟩] s')
  | storeOrder {o total} {row row' : Order} {s'} (hs : s.phase = .summed o total) (hrow : v.rows .orders o = some row)
      (htotal : row'.totalAmount = total) (hs' : s'.phase = .stored o total) (hdel : s'.deleting = none) :
      Moves v s (.write [⟨.orders, o, some row'⟩] s')
  | rewriteLine {id} {row row' : OrderLine} {s'} (hs : s.phase = .clean) (hrow : v.rows .orderLine id = some row)
      (horder : row'.orderId = row.orderId) (hprice : row'.unitPriceAtOrder = row.unitPriceAtOrder)
      (hquantity : row'.quantity = row.quantity) (hs' : s'.phase = .clean) (hdel : s'.deleting = none) :
      Moves v s (.write [⟨.orderLine, id, some row'⟩] s')
  | deleteLine {id o s'} (hs : s.phase = .clean) (hdel' : s.deleting = some (id, o)) (hs' : s'.phase = .changed o true)
      (hdel : s'.deleting = none) : Moves v s (.write [⟨.orderLine, id, none⟩] s')
  | writeProduct {id row s'} (hs : s.phase = .clean) (hs' : s'.phase = .clean) (hdel : s'.deleting = none) :
      Moves v s (.write [⟨.product, id, row⟩] s')
  | commit {s'} (hs : s.phase = .clean ∨ ∃ o total, s.phase = .stored o total) (hs' : s'.phase = .clean)
      (hdel : s'.deleting = none) : Moves v s (.commit s')
  | rollback {s'} (hs' : s'.phase = .clean) (hdel : s'.deleting = none) : Moves v s (.rollback s')

section Handlers
variable {e : Env} {v : View Row}

theorem createOrder_moves (customerId : Nat) (st : CreateOrder) :
    Moves v (.createOrder customerId st) (act e (.createOrder customerId st) v) := by
  cases st with
  | start =>
    simp only [act, createOrder]
    split
    · exact .insertOrder rfl rfl (fun _ => rfl) fun _ => rfl
    · exact .rollback rfl rfl
  | flushed id =>
    simp only [act, createOrder]
    split
    · exact .read rfl (by simp [Session.deleting])
    · exact .rollback rfl rfl
  | refreshed id order => exact .commit (Or.inl rfl) rfl rfl
  | done r => exact .read rfl (by simp [Session.deleting])

theorem updateOrderStatus_moves (o : Nat) (status : OrderStatus) (st : UpdateOrderStatus) :
    Moves v (.updateOrderStatus o status st) (act e (.updateOrderStatus o status st) v) := by
  cases st with
  | start =>
    simp only [act, updateOrderStatus]
    split
    · exact .rollback rfl rfl
    · split
      · exact .read rfl (by simp [Session.deleting])
      · exact .rollback rfl rfl
  | checked order =>
    simp only [act, updateOrderStatus, update]
    split
    · exact .read rfl (by simp [Session.deleting])
    · split
      · rename_i row hrow
        exact .rewriteOrder rfl hrow rfl rfl rfl
      · exact .rollback rfl rfl
  | flushed order =>
    simp only [act, updateOrderStatus]
    split
    · exact .read rfl (by simp [Session.deleting])
    · exact .rollback rfl rfl
  | refreshed order saved => exact .commit (Or.inl rfl) rfl rfl
  | done r => exact .read rfl (by simp [Session.deleting])

theorem listLines_moves (o : Nat) (st : ListLines) : Moves v (.listLines o st) (act e (.listLines o st) v) := by
  cases st with
  | start => exact .read rfl (by simp [Session.deleting])
  | loaded lines => exact .commit (Or.inl rfl) rfl rfl
  | done r => exact .read rfl (by simp [Session.deleting])

/-- Storing the total, from the two handlers that recompute it. -/
theorem storeTotal_moves {s : Session} {o total : Nat} {order : Order} {now : DateTime} {flushed : Session}
    {failed : Reply → Session} (hs : s.phase = summedPhase o order.totalAmount total false)
    (hs' : flushed.phase = summedPhase o order.totalAmount total true) (hdel : flushed.deleting = none)
    (hfailed : ∀ r, (failed r).phase = .clean ∧ (failed r).deleting = none) :
    Moves v s (storeTotal v o order total now flushed failed) := by
  unfold storeTotal update
  by_cases hsame : total = order.totalAmount
  · rw [if_pos hsame]
    exact .read (by rw [hs, hs']; simp [summedPhase, hsame]) (by simp [hdel])
  · rw [if_neg hsame]
    simp only [summedPhase, if_neg hsame, Bool.false_eq_true, if_false, if_true] at hs hs'
    split
    · split
      · rename_i row hrow
        exact .storeOrder hs hrow rfl hs' hdel
      · exact .rollback (hfailed _).1 (hfailed _).2
    · exact .rollback (hfailed _).1 (hfailed _).2

theorem storeTotal_map {S S' : Type} (f : S → S') (o : Nat) (order : Order) (total : Nat) (now : DateTime)
    (flushed : S) (failed : Reply → S) :
    (storeTotal v o order total now flushed failed).map f =
      storeTotal v o order total now (f flushed) fun r => f (failed r) := by
  unfold storeTotal update
  split
  · rfl
  · split
    · split <;> rfl
    · rfl

theorem stored_phase {o loaded total : Nat} : summedPhase o loaded total true = .clean ∨
    ∃ o' total', summedPhase o loaded total true = .stored o' total' := by
  unfold summedPhase
  split
  · exact Or.inl rfl
  · exact Or.inr ⟨o, total, rfl⟩

theorem addLine_moves (o : Nat) (payload : OrderLineCreate) (st : AddLine) :
    Moves v (.addLine o payload st) (act e (.addLine o payload st) v) := by
  cases st with
  | start =>
    simp only [act, addLine]
    split
    · exact .rollback rfl rfl
    · exact .read rfl (by simp [Session.deleting])
  | loaded order =>
    simp only [act, addLine]
    split
    · exact .rollback rfl rfl
    · exact .read rfl (by simp [Session.deleting])
  | priced order product =>
    simp only [act, addLine]
    split
    · exact .rollback rfl rfl
    · split
      · exact .insertLine rfl (fun _ => rfl) fun _ => rfl
      · exact .rollback rfl rfl
  | flushed order id =>
    simp only [act, addLine]
    split
    · exact .read rfl (by simp [Session.deleting])
    · exact .rollback rfl rfl
  | refreshed order id line => exact .sum rfl rfl rfl rfl
  | summed order id line total =>
    simp only [act, addLine, storeTotal_map]
    exact storeTotal_moves rfl rfl rfl fun _ => ⟨rfl, rfl⟩
  | stored order id line total => exact .commit stored_phase rfl rfl
  | done r => exact .read rfl (by simp [Session.deleting])

theorem updateLineStatus_moves (o id : Nat) (payload : OrderLineStatusUpdate) (st : UpdateLineStatus) :
    Moves v (.updateLineStatus o id payload st) (act e (.updateLineStatus o id payload st) v) := by
  cases st with
  | start =>
    simp only [act, updateLineStatus]
    split
    · exact .rollback rfl rfl
    · split
      · exact .rollback rfl rfl
      · split
        · exact .read rfl (by simp [Session.deleting])
        · exact .rollback rfl rfl
  | checked line =>
    simp only [act, updateLineStatus, update]
    split
    · exact .read rfl (by simp [Session.deleting])
    · split
      · rename_i row hrow
        exact .rewriteLine rfl hrow rfl rfl rfl rfl rfl
      · exact .rollback rfl rfl
  | flushed line =>
    simp only [act, updateLineStatus]
    split
    · exact .read rfl (by simp [Session.deleting])
    · exact .rollback rfl rfl
  | refreshed line saved => exact .commit (Or.inl rfl) rfl rfl
  | done r => exact .read rfl (by simp [Session.deleting])

theorem deleteLine_moves (o id : Nat) (st : DeleteLine) :
    Moves v (.deleteLine o id st) (act e (.deleteLine o id st) v) := by
  cases st with
  | start =>
    simp only [act, deleteLine]
    split
    · exact .rollback rfl rfl
    · rename_i line hline
      split
      · exact .rollback rfl rfl
      · rename_i horder
        refine .read rfl fun id' o' hdel => ?_
        cases hdel
        exact ⟨line, hline, not_not.mp horder⟩
  | loaded line =>
    simp only [act, deleteLine]
    split
    · exact .deleteLine rfl rfl rfl rfl
    · exact .missed rfl rfl rfl
  | flushed =>
    simp only [act, deleteLine]
    split
    · exact .read rfl (by simp [Session.deleting])
    · rename_i hrow
      exact .gone rfl hrow rfl rfl
  | ordered order => exact .sum rfl rfl rfl rfl
  | summed order total =>
    simp only [act, deleteLine, storeTotal_map]
    exact storeTotal_moves rfl rfl rfl fun _ => ⟨rfl, rfl⟩
  | stored order total => exact .commit stored_phase rfl rfl
  | gone => exact .commit (Or.inl rfl) rfl rfl
  | done r => exact .read rfl (by simp [Session.deleting])

theorem createProduct_moves (payload : ProductCreate) (st : CreateProduct) :
    Moves v (.createProduct payload st) (act e (.createProduct payload st) v) := by
  cases st with
  | start =>
    simp only [act, createProduct]
    split
    · exact .rollback rfl rfl
    · exact .read rfl (by simp [Session.deleting])
  | checked =>
    simp only [act, createProduct]
    split
    · exact .rollback rfl rfl
    · split
      · exact .rollback rfl rfl
      · exact .insertProduct rfl (fun _ => rfl) fun _ => rfl
  | flushed id =>
    simp only [act, createProduct]
    split
    · exact .read rfl (by simp [Session.deleting])
    · exact .rollback rfl rfl
  | refreshed id product => exact .commit (Or.inl rfl) rfl rfl
  | done r => exact .read rfl (by simp [Session.deleting])

theorem updateProduct_moves (id : Nat) (payload : ProductCreate) (st : UpdateProduct) :
    Moves v (.updateProduct id payload st) (act e (.updateProduct id payload st) v) := by
  cases st with
  | start =>
    simp only [act, updateProduct]
    split
    · exact .rollback rfl rfl
    · exact .read rfl (by simp [Session.deleting])
  | loaded product =>
    simp only [act, updateProduct, update]
    split
    · exact .read rfl (by simp [Session.deleting])
    · split
      · exact .rollback rfl rfl
      · split
        · exact .rollback rfl rfl
        · split
          · exact .writeProduct rfl rfl rfl
          · exact .rollback rfl rfl
  | flushed =>
    simp only [act, updateProduct]
    split
    · exact .read rfl (by simp [Session.deleting])
    · exact .rollback rfl rfl
  | refreshed product => exact .commit (Or.inl rfl) rfl rfl
  | done r => exact .read rfl (by simp [Session.deleting])

theorem mcpCreateOrder_moves (customerId : Nat) (st : McpCreateOrder) :
    Moves v (.mcpCreateOrder customerId st) (act e (.mcpCreateOrder customerId st) v) := by
  cases st with
  | start =>
    simp only [act, mcpCreateOrder]
    split
    · exact .read rfl (by simp [Session.deleting])
    · exact .read rfl (by simp [Session.deleting])
  | missed =>
    simp only [act, mcpCreateOrder]
    split
    · exact .insertOrder rfl rfl (fun _ => rfl) fun _ => rfl
    · exact .rollback rfl rfl
  | flushed id =>
    simp only [act, mcpCreateOrder]
    split
    · exact .read rfl (by simp [Session.deleting])
    · exact .rollback rfl rfl
  | refreshed id order => exact .commit (Or.inl rfl) rfl rfl
  | committed id order => exact .read rfl (by simp [Session.deleting])
  | done r => exact .read rfl (by simp [Session.deleting])

theorem cancelOrder_moves (o : Nat) (st : CancelOrder) :
    Moves v (.cancelOrder o st) (act e (.cancelOrder o st) v) := by
  cases st with
  | start =>
    simp only [act, cancelOrder]
    split
    · exact .rollback rfl rfl
    · exact .read rfl (by simp [Session.deleting])
  | loaded order =>
    simp only [act, cancelOrder, update]
    split
    · exact .read rfl (by simp [Session.deleting])
    · split
      · rename_i row hrow
        exact .rewriteOrder rfl hrow rfl rfl rfl
      · exact .rollback rfl rfl
  | flushed order => exact .commit (Or.inl rfl) rfl rfl
  | done r => exact .read rfl (by simp [Session.deleting])

theorem act_moves {s : Session} (h : s.deletesOrder = false) : Moves v s (act e s v) := by
  cases s with
  | createOrder customerId st => exact createOrder_moves customerId st
  | updateOrderStatus o status st => exact updateOrderStatus_moves o status st
  | deleteOrder o st => cases h
  | listLines o st => exact listLines_moves o st
  | addLine o payload st => exact addLine_moves o payload st
  | updateLineStatus o id payload st => exact updateLineStatus_moves o id payload st
  | deleteLine o id st => exact deleteLine_moves o id st
  | createProduct payload st => exact createProduct_moves payload st
  | updateProduct id payload st => exact updateProduct_moves id payload st
  | mcpCreateOrder customerId st => exact mcpCreateOrder_moves customerId st
  | cancelOrder o st => exact cancelOrder_moves o st

end Handlers

end IrisService.Orders
