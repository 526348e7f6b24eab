import IrisService.Library.CommitHistory
import IrisService.Orders.System

/-! Which handlers write a status: `updateOrderStatus` and `cancelOrder` that of an order,
    `updateLineStatus` that of a line, each at most once. -/

namespace IrisService.Orders
open ReadCommitted Db Products

/-- The order whose status the transaction has updated, with the new status. -/
def Session.statusUpdate : Session → Option (Nat × OrderStatus)
  | .updateOrderStatus o target (.flushed order) | .updateOrderStatus o target (.refreshed order _) =>
    if target = order.status then none else some (o, target)
  | .cancelOrder o (.flushed order) => if order.status = .cancelled then none else some (o, .cancelled)
  | _ => none

/-- The line whose status the transaction has updated, with the new status. -/
def Session.lineUpdate : Session → Option (Nat × OrderLineStatus)
  | .updateLineStatus _ id payload (.flushed line) | .updateLineStatus _ id payload (.refreshed line _) =>
    if payload.status = line.status then none else some (id, payload.status)
  | _ => none

section Keeps
variable {S α : Type} {v : View Row} {t t' : Table} {f : Row t → α} {id : Nat}

theorem keeps_update_of_ne {set : Row t' → Row t'} {flushed stale : S} (h : t ≠ t') :
    (update v t' id set flushed stale).Keeps t f v := by
  unfold update
  split
  · intro id' r hmem
    exact absurd (congrArg Change.table (List.mem_singleton.mp hmem)) h
  · trivial

theorem keeps_update {set : Row t → Row t} {flushed stale : S} (h : ∀ row, f (set row) = f row) :
    (update v t id set flushed stale).Keeps t f v := by
  unfold update
  split
  · rename_i row hrow
    intro id' r hmem
    simp only [List.mem_singleton, Change.mk.injEq, true_and, heq_eq_eq, Option.some.injEq] at hmem
    obtain ⟨rfl, rfl⟩ := hmem
    exact ⟨row, hrow, (h row).symm⟩
  · trivial

theorem keeps_storeTotal {o total : Nat} {order : Order} {now : DateTime} {flushed : S} {failed : Reply → S} :
    (storeTotal v o order total now flushed failed).Keeps .orders Order.status v ∧
      (storeTotal v o order total now flushed failed).Keeps .orderLine OrderLine.status v := by
  unfold storeTotal
  split
  · exact ⟨trivial, trivial⟩
  · split
    · exact ⟨keeps_update fun _ => rfl, keeps_update_of_ne (by decide)⟩
    · exact ⟨trivial, trivial⟩

end Keeps

/-- The action writes no status of an order and none of a line. -/
def KeepsStatuses {S : Type} (v : View Row) (a : Action Row S) : Prop :=
  a.Keeps .orders Order.status v ∧ a.Keeps .orderLine OrderLine.status v

section Handlers
variable {v : View Row} {e : Env}

theorem createOrder_keeps {customerId : Nat} (st : CreateOrder) :
    KeepsStatuses v (createOrder customerId e.toClock st v) := by
  cases st <;> simp only [createOrder] <;> (try split) <;> exact ⟨trivial, trivial⟩

theorem deleteOrder_keeps {o : Nat} (st : DeleteOrder) : KeepsStatuses v (deleteOrder o st v) := by
  cases st with
  | loaded =>
    simp only [deleteOrder]
    split
    · refine ⟨fun id r hmem => ?_, fun id r hmem => ?_⟩
      · simp at hmem
      · simp at hmem
    · exact ⟨trivial, trivial⟩
  | _ =>
    simp only [deleteOrder]
    try split
    all_goals exact ⟨trivial, trivial⟩

theorem listLines_keeps {o : Nat} (st : ListLines) : KeepsStatuses v (listLines o st v) := by
  cases st <;> exact ⟨trivial, trivial⟩

theorem addLine_keeps {o : Nat} {payload : OrderLineCreate} (st : AddLine) :
    KeepsStatuses v (addLine o payload e.now st v) := by
  cases st with
  | summed order id line total => exact keeps_storeTotal
  | priced order product =>
    simp only [addLine]
    split
    · exact ⟨trivial, trivial⟩
    · split <;> exact ⟨trivial, trivial⟩
  | _ =>
    simp only [addLine]
    try split
    all_goals exact ⟨trivial, trivial⟩

theorem deleteLine_keeps {o id : Nat} (st : DeleteLine) : KeepsStatuses v (deleteLine o id e.now st v) := by
  cases st with
  | start =>
    simp only [deleteLine]
    split
    · exact ⟨trivial, trivial⟩
    · split <;> exact ⟨trivial, trivial⟩
  | loaded line =>
    simp only [deleteLine]
    split
    · refine ⟨fun id r hmem => ?_, fun id r hmem => ?_⟩
      · simp at hmem
      · simp at hmem
    · exact ⟨trivial, trivial⟩
  | summed order total => exact keeps_storeTotal
  | _ =>
    simp only [deleteLine]
    try split
    all_goals exact ⟨trivial, trivial⟩

theorem createProduct_keeps {payload : ProductCreate} (st : CreateProduct) :
    KeepsStatuses v (createProduct payload e.toClock st v) := by
  cases st with
  | checked =>
    simp only [createProduct]
    split
    · exact ⟨trivial, trivial⟩
    · split <;> exact ⟨trivial, trivial⟩
  | _ =>
    simp only [createProduct]
    try split
    all_goals exact ⟨trivial, trivial⟩

theorem updateProduct_keeps {id : Nat} {payload : ProductCreate} (st : UpdateProduct) :
    KeepsStatuses v (updateProduct id payload e.now st v) := by
  cases st with
  | loaded product =>
    simp only [updateProduct]
    split
    · exact ⟨trivial, trivial⟩
    · split
      · exact ⟨trivial, trivial⟩
      · split
        · exact ⟨trivial, trivial⟩
        · exact ⟨keeps_update_of_ne (by decide), keeps_update_of_ne (by decide)⟩
  | _ =>
    simp only [updateProduct]
    try split
    all_goals exact ⟨trivial, trivial⟩

theorem mcpCreateOrder_keeps {customerId : Nat} (st : McpCreateOrder) :
    KeepsStatuses v (mcpCreateOrder customerId e.toClock e.cached st v) := by
  cases st with
  | _ =>
    simp only [mcpCreateOrder]
    try split
    all_goals exact ⟨trivial, trivial⟩

theorem updateOrderStatus_updates {o : Nat} {target : OrderStatus} (st : UpdateOrderStatus) :
    Updates .orders Order.status Session.statusUpdate v (.updateOrderStatus o target st)
      (act e (.updateOrderStatus o target st) v) := by
  cases st with
  | start =>
    simp only [act, updateOrderStatus]
    split
    · exact .rollback rfl
    · split
      · exact .next rfl
      · exact .rollback rfl
  | checked order =>
    simp only [act, updateOrderStatus, update]
    by_cases hsame : target = order.status
    · rw [if_pos hsame]
      exact .next (if_pos hsame)
    · rw [if_neg hsame]
      split
      · exact .set rfl (if_neg hsame)
      · exact .rollback rfl
  | flushed order =>
    simp only [act, updateOrderStatus]
    split
    · exact .next rfl
    · exact .rollback rfl
  | refreshed order saved => exact .commit rfl
  | done r => exact .next rfl

theorem cancelOrder_updates {o : Nat} (st : CancelOrder) :
    Updates .orders Order.status Session.statusUpdate v (.cancelOrder o st) (act e (.cancelOrder o st) v) := by
  cases st with
  | start =>
    simp only [act, cancelOrder]
    split
    · exact .rollback rfl
    · exact .next rfl
  | loaded order =>
    simp only [act, cancelOrder, update]
    by_cases hsame : order.status = .cancelled
    · rw [if_pos hsame]
      exact .next (if_pos hsame)
    · rw [if_neg hsame]
      split
      · exact .set rfl (if_neg hsame)
      · exact .rollback rfl
  | flushed order => exact .commit rfl
  | done r => exact .next rfl

theorem updateLineStatus_updates {o id : Nat} {payload : OrderLineStatusUpdate} (st : UpdateLineStatus) :
    Updates .orderLine OrderLine.status Session.lineUpdate v (.updateLineStatus o id payload st)
      (act e (.updateLineStatus o id payload st) v) := by
  cases st with
  | start =>
    simp only [act, updateLineStatus]
    split
    · exact .rollback rfl
    · split
      · exact .rollback rfl
      · split
        · exact .next rfl
        · exact .rollback rfl
  | checked line =>
    simp only [act, updateLineStatus, update]
    by_cases hsame : payload.status = line.status
    · rw [if_pos hsame]
      exact .next (if_pos hsame)
    · rw [if_neg hsame]
      split
      · exact .set rfl (if_neg hsame)
      · exact .rollback rfl
  | flushed line =>
    simp only [act, updateLineStatus]
    split
    · exact .next rfl
    · exact .rollback rfl
  | refreshed line saved => exact .commit rfl
  | done r => exact .next rfl

theorem updateOrderStatus_keeps_line {o : Nat} {target : OrderStatus} (st : UpdateOrderStatus) :
    (updateOrderStatus o target e.now st v).Keeps .orderLine OrderLine.status v := by
  cases st with
  | start =>
    simp only [updateOrderStatus]
    split
    · trivial
    · split <;> trivial
  | checked order =>
    simp only [updateOrderStatus]
    split
    · trivial
    · exact keeps_update_of_ne (by decide)
  | _ =>
    simp only [updateOrderStatus]
    try split
    all_goals trivial

theorem cancelOrder_keeps_line {o : Nat} (st : CancelOrder) :
    (cancelOrder o e.now st v).Keeps .orderLine OrderLine.status v := by
  cases st with
  | loaded order =>
    simp only [cancelOrder]
    split
    · trivial
    · exact keeps_update_of_ne (by decide)
  | _ =>
    simp only [cancelOrder]
    try split
    all_goals trivial

theorem updateLineStatus_keeps_order {o id : Nat} {payload : OrderLineStatusUpdate} (st : UpdateLineStatus) :
    (updateLineStatus o id payload st v).Keeps .orders Order.status v := by
  cases st with
  | start =>
    simp only [updateLineStatus]
    split
    · trivial
    · split
      · trivial
      · split <;> trivial
  | checked line =>
    simp only [updateLineStatus]
    split
    · trivial
    · exact keeps_update_of_ne (by decide)
  | _ =>
    simp only [updateLineStatus]
    try split
    all_goals trivial

end Handlers

theorem act_statusUpdate (e : Env) (s : Session) (v : View Row) :
    Updates .orders Order.status Session.statusUpdate v s (act e s v) := by
  cases s with
  | createOrder customerId st => exact .of_keeps (fun _ => rfl) (createOrder_keeps st).1
  | updateOrderStatus o status st => exact updateOrderStatus_updates st
  | deleteOrder o st => exact .of_keeps (fun _ => rfl) (deleteOrder_keeps st).1
  | listLines o st => exact .of_keeps (fun _ => rfl) (listLines_keeps st).1
  | addLine o payload st => exact .of_keeps (fun _ => rfl) (addLine_keeps st).1
  | updateLineStatus o id payload st => exact .of_keeps (fun _ => rfl) (updateLineStatus_keeps_order st)
  | deleteLine o id st => exact .of_keeps (fun _ => rfl) (deleteLine_keeps st).1
  | createProduct payload st => exact .of_keeps (fun _ => rfl) (createProduct_keeps st).1
  | updateProduct id payload st => exact .of_keeps (fun _ => rfl) (updateProduct_keeps st).1
  | mcpCreateOrder customerId st => exact .of_keeps (fun _ => rfl) (mcpCreateOrder_keeps st).1
  | cancelOrder o st => exact cancelOrder_updates st

theorem act_lineUpdate (e : Env) (s : Session) (v : View Row) :
    Updates .orderLine OrderLine.status Session.lineUpdate v s (act e s v) := by
  cases s with
  | createOrder customerId st => exact .of_keeps (fun _ => rfl) (createOrder_keeps st).2
  | updateOrderStatus o status st => exact .of_keeps (fun _ => rfl) (updateOrderStatus_keeps_line st)
  | deleteOrder o st => exact .of_keeps (fun _ => rfl) (deleteOrder_keeps st).2
  | listLines o st => exact .of_keeps (fun _ => rfl) (listLines_keeps st).2
  | addLine o payload st => exact .of_keeps (fun _ => rfl) (addLine_keeps st).2
  | updateLineStatus o id payload st => exact updateLineStatus_updates st
  | deleteLine o id st => exact .of_keeps (fun _ => rfl) (deleteLine_keeps st).2
  | createProduct payload st => exact .of_keeps (fun _ => rfl) (createProduct_keeps st).2
  | updateProduct id payload st => exact .of_keeps (fun _ => rfl) (updateProduct_keeps st).2
  | mcpCreateOrder customerId st => exact .of_keeps (fun _ => rfl) (mcpCreateOrder_keeps st).2
  | cancelOrder o st => exact .of_keeps (fun _ => rfl) (cancelOrder_keeps_line st)

/-- A request that is over, or given up, has no update open. -/
theorem refused_update (s : Session) : s.refused.statusUpdate = none ∧ s.refused.lineUpdate = none := by
  unfold Session.refused
  split
  · rename_i hdone
    unfold Session.reply? at hdone
    split at hdone
    all_goals first | exact ⟨rfl, rfl⟩ | cases hdone
  · cases s <;> exact ⟨rfl, rfl⟩

theorem open_update (r : Request) : r.open.statusUpdate = none ∧ r.open.lineUpdate = none := by
  cases r <;> exact ⟨rfl, rfl⟩

end IrisService.Orders
