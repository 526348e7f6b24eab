import IrisService.Listings.Repositories
import IrisService.Mcp.Tools
import IrisService.Ml.ChurnContract
import IrisService.Rest.Acknowledged
import Mathlib.Data.Set.Card

/-! The tools that read orders, products and customers, on a store at rest: what they answer from its rows, whatever
order a scan finds these in. -/

namespace IrisService.Mcp.Tools
open ReadCommitted Effects Program

/-! ### Sorted lists cut short -/

section Sorted
variable {α : Type} {r : α → α → Prop} {rows : List α}

/-- What a limit cuts off comes after all that it leaves. -/
theorem after_of_not_mem_take (h : rows.Pairwise r) {n : Nat} {x y : α} (hx : x ∈ rows) (hcut : x ∉ rows.take n)
    (hy : y ∈ rows.take n) : r y x := by
  rw [← List.take_append_drop n rows] at h hx
  rcases List.mem_append.mp hx with htake | hdrop
  · exact absurd htake hcut
  · exact (List.pairwise_append.mp h).2.2 y hy x hdrop

theorem length_eq_ncard (h : rows.Nodup) {s : Set α} (hmem : ∀ x, x ∈ rows ↔ x ∈ s) : rows.length = s.ncard := by
  classical
  have hs : s = ↑rows.toFinset := by
    ext x
    rw [List.coe_toFinset]
    exact (hmem x).symm
  rw [hs, Set.ncard_coe_finset, List.toFinset_card_of_nodup h]

end Sorted

/-! ### Statements -/

/-- A store at rest, and what its driver binds. -/
structure Reads where
  view : View Row
  used : view.Used
  driver : Ml.ChurnContract.Driver

/-- `ORDER BY stock_quantity`; products of the same stock come as they are found. -/
def orderByStock (rows : List (Nat × Product)) : List (Nat × Product) :=
  rows.mergeSort fun a b => a.2.stockQuantity ≤ b.2.stockQuantity

namespace Reads
variable (s : Reads)

/-- `session.get(…, id)` -/
def get (t : Table) (id : Int) : Except Exc (Option (Nat × Row t)) :=
  if s.driver.binds id then .ok (if id < 0 then none else (s.view.rows t id.toNat).map fun row => (id.toNat, row))
  else .error s.driver.refusal

/-- What the effects of the tools that read are answered with. The others do not occur in them. -/
def answer (scan : Scan s.view) {σ : Type} : (β : Type) → Effect σ β → Except Exc β
  | _, .audit _ => .ok ()
  | _, .openSession => .ok ()
  | _, .closeSession => .ok ()
  | _, .selectRecentOrders limit status =>
    .ok (offsetLimit
      (orderByIdDesc ((scan.rows .orders).filter fun o => status.all fun st => o.2.status = st)) 0 limit.toNat)
  | _, .getOrder id => s.get .orders id
  | _, .selectProductsBelow threshold =>
    if s.driver.binds threshold then
      .ok (orderByStock ((scan.rows .product).filter fun p => (p.2.stockQuantity : Int) < threshold))
    else .error s.driver.refusal
  | _, .getCustomer id => s.get .customer id
  | _, .selectOrderRollUp customerId =>
    if s.driver.binds customerId then
      let orders := (scan.rows .orders).filter fun o => (o.2.customerId : Int) = customerId
      .ok (some orders.length, some (orders.map fun o => o.2.totalAmount).sum,
        DateTime.latest (orders.map fun o => o.2.createdAt))
    else .error s.driver.refusal
  | _, _ => .error ⟨.exception, "NotImplementedError", ""⟩

/-! ### What the rows say -/

/-- The orders, of one status if it is given. -/
def ordersOf (status : Option OrderStatus) : Set (Nat × Order) :=
  {o | s.view.rows .orders o.1 = some o.2 ∧ ∀ st ∈ status, o.2.status = st}

/-- The products whose stock is below the threshold. -/
def productsBelow (threshold : Int) : Set (Nat × Product) :=
  {p | s.view.rows .product p.1 = some p.2 ∧ (p.2.stockQuantity : Int) < threshold}

/-- The orders of a customer. -/
def ordersBy (customerId : Nat) : Set (Nat × Order) :=
  {o | s.view.rows .orders o.1 = some o.2 ∧ o.2.customerId = customerId}

end Reads

section Eval
variable {s : Reads} {scan : Scan s.view} {digest : Digest} {deps : Deps} {currentUser : Option McpUser}

/-- A session opens and closes without an exception. -/
theorem eval_withSession {α : Type} (body : Tool deps α) :
    (withSession deps body).eval (s.answer scan) = body.eval (s.answer scan) := by
  unfold withSession
  rw [eval_bind]
  exact eval_tryFinally body rfl

theorem eval_audit (toolName : String) (args : List (String × Arg)) :
    (audit digest deps currentUser toolName args).eval (s.answer scan) = .ok () := rfl

/-! ### Orders -/

/-- The limit that `list_recent_orders` puts into its statement. -/
def cappedLimit (limit : Int) : Nat := (max 1 (min limit maxRecentOrders)).toNat

/-- The newest orders, no more than the limit of them. -/
structure NewestOrders (s : Reads) (status : Option OrderStatus) (limit : Nat) (rows : List (Nat × Order)) : Prop where
  sorted : rows.Pairwise fun a b => b.1 < a.1
  found : ∀ o ∈ rows, o ∈ s.ordersOf status
  length : rows.length = min limit (s.ordersOf status).ncard
  newest : ∀ o ∈ s.ordersOf status, o ∉ rows → ∀ o' ∈ rows, o.1 < o'.1

theorem newestOrders_select (scan : Scan s.view) (status : Option OrderStatus) (limit : Nat) :
    NewestOrders s status limit (offsetLimit
      (orderByIdDesc ((scan.rows .orders).filter fun o => status.all fun st => o.2.status = st)) 0 limit) := by
  set found := (scan.rows .orders).filter fun o => status.all fun st => o.2.status = st with hfound
  have hkeys : (found.map Prod.fst).Nodup := keys_filter (scan.keys .orders) _
  have hmem : ∀ o, o ∈ orderByIdDesc found ↔ o ∈ s.ordersOf status := fun o => by
    rw [orderByIdDesc, orderBy, (List.mergeSort_perm _ _).mem_iff, hfound, List.mem_filter, scan.mem_rows s.used]
    refine and_congr_right fun _ => ?_
    cases status <;> simp
  have hsorted : (orderByIdDesc found).Pairwise fun a b => b.1 < a.1 := pairwise_orderBy OrderDual.toDual.injective hkeys
  have hnodup : (orderByIdDesc found).Nodup := (List.mergeSort_perm _ _).nodup_iff.mpr hkeys.of_map
  exact
    { sorted := hsorted.sublist (List.take_sublist _ _)
      found := fun o ho => (hmem o).mp (List.mem_of_mem_take ho)
      length := by rw [offsetLimit, List.drop_zero, List.length_take, length_eq_ncard hnodup hmem]
      newest := fun o ho hcut o' ho' => after_of_not_mem_take hsorted ((hmem o).mpr ho) hcut ho' }

theorem eval_listRecentOrders (limit : Int) (status : Option OrderStatus) :
    (listRecentOrders digest deps currentUser limit status).eval (s.answer scan) =
      .ok (.orderListItems ((offsetLimit (orderByIdDesc ((scan.rows .orders).filter fun o =>
        status.all fun st => o.2.status = st)) 0 (cappedLimit limit)).map .ofRow)) := by
  rw [listRecentOrders, eval_bind, eval_audit, ok_bind, eval_bind, eval_withSession, eval_effect]
  rfl

/-! ### Products -/

theorem pairwise_orderByStock (rows : List (Nat × Product)) :
    (orderByStock rows).Pairwise fun a b => a.2.stockQuantity ≤ b.2.stockQuantity := by
  have hsorted : (orderByStock rows).Pairwise fun a b => decide (a.2.stockQuantity ≤ b.2.stockQuantity) = true :=
    List.pairwise_mergeSort (fun a b c => by simpa using Nat.le_trans) (fun a b => by simpa using Nat.le_total _ _) rows
  exact hsorted.imp fun h => by simpa using h

theorem eval_findLowStockProducts (threshold : Int) :
    (findLowStockProducts digest deps currentUser threshold).eval (s.answer scan) =
      if s.driver.binds (max 0 threshold) then
        .ok (.productsLowStock ((orderByStock ((scan.rows .product).filter fun p =>
          (p.2.stockQuantity : Int) < max 0 threshold)).map .ofRow))
      else .error s.driver.refusal := by
  rw [findLowStockProducts, eval_bind, eval_audit, ok_bind, eval_bind, eval_withSession, eval_effect]
  show (ite _ _ _ : Except Exc (List (Nat × Product))).bind _ = _
  split <;> rfl

/-! ### Customers -/

/-- The orders that the roll-up finds. -/
def ordersFound (scan : Scan s.view) (customerId : Int) : List (Nat × Order) :=
  (scan.rows .orders).filter fun o => (o.2.customerId : Int) = customerId

theorem eval_getCustomer360 {id : Nat} {customer : Customer} (hbinds : s.driver.binds id = true)
    (hrow : s.view.rows .customer id = some customer) :
    (getCustomer360 digest deps currentUser id).eval (s.answer scan) =
      .ok (.customer360 ⟨id, customer.name, customer.email, (ordersFound scan id).length,
        ((ordersFound scan id).map fun o => o.2.totalAmount).sum,
        DateTime.latest ((ordersFound scan id).map fun o => o.2.createdAt)⟩) := by
  have hget : s.answer scan (σ := deps.scalars.Scalar) _ (.getCustomer id) = .ok (some (id, customer)) := by
    show s.get .customer id = _
    rw [Reads.get, if_pos hbinds, if_neg (by omega)]
    simp [hrow]
  have hrollUp : s.answer scan (σ := deps.scalars.Scalar) _ (.selectOrderRollUp id) =
      .ok (some ((ordersFound scan id).length : Int), some ((ordersFound scan id).map fun o => o.2.totalAmount).sum,
        DateTime.latest ((ordersFound scan id).map fun o => o.2.createdAt)) := by
    show ite _ _ _ = _
    rw [if_pos hbinds]
    rfl
  rw [getCustomer360, eval_bind, eval_audit, ok_bind, eval_bind, eval_withSession, eval_bind, eval_effect, hget, ok_bind]
  simp only [eval_bind, eval_effect, hrollUp, ok_bind, eval_pure]
  rfl

theorem eval_getCustomer360_none {id : Int} (hbinds : s.driver.binds id = true)
    (hrow : id < 0 ∨ s.view.rows .customer id.toNat = none) :
    (getCustomer360 digest deps currentUser id).eval (s.answer scan) = .ok (.notFound "Customer" id) := by
  have hget : s.answer scan (σ := deps.scalars.Scalar) _ (.getCustomer id) = .ok none := by
    show s.get .customer id = _
    rw [Reads.get, if_pos hbinds]
    split
    · rfl
    · rename_i hneg
      rw [hrow.resolve_left hneg]
      rfl
  rw [getCustomer360, eval_bind, eval_audit, ok_bind, eval_bind, eval_withSession, eval_bind, eval_effect, hget, ok_bind]
  rfl

end Eval

/-! ### What the tools answer -/

section Answers
variable (s : Reads) (scan : Scan s.view) (digest : Digest) (deps : Deps) (currentUser : Option McpUser)

/-- `list_recent_orders` lists the newest orders of the status, and without a status what the first page of
    `GET /orders` lists. -/
theorem recent_orders_newest (scan' : Scan s.view) (limit : Int) (status : Option OrderStatus) :
    ∃ rows, (listRecentOrders digest deps currentUser limit status).eval (s.answer scan) =
        .ok (.orderListItems (rows.map .ofRow)) ∧
      NewestOrders s status (cappedLimit limit) rows ∧
      (status = none → (Listings.listOrders scan' 0 (cappedLimit limit)).items = rows) := by
  refine ⟨_, eval_listRecentOrders limit status, newestOrders_select scan status (cappedLimit limit), ?_⟩
  rintro rfl
  have hsame : orderByIdDesc (scan'.rows .orders) = orderByIdDesc (scan.rows .orders) :=
    orderBy_perm OrderDual.toDual.injective ((scan'.perm .orders).trans (scan.perm .orders).symm) (scan'.keys .orders)
  have hall : ((scan.rows .orders).filter fun o => (none : Option OrderStatus).all fun st => o.2.status = st) =
      scan.rows .orders := List.filter_eq_self.mpr fun _ _ => rfl
  rw [hall, ← hsame]
  simp only [Listings.listOrders, Listings.OrderRepository.listPaginated, Nat.zero_mul]

/-- `find_low_stock_products` lists each product below the threshold once, by its stock; after REST requests alone these are
    the products that the answers to them have told below it. It ends in an exception only for a threshold that the driver
    does not bind. -/
theorem low_stock_products (threshold : Int) :
    (s.driver.binds (max 0 threshold) = false ∧
      (findLowStockProducts digest deps currentUser threshold).eval (s.answer scan) = .error s.driver.refusal) ∨
    ∃ rows : List (Nat × Product), (findLowStockProducts digest deps currentUser threshold).eval (s.answer scan) =
        .ok (.productsLowStock (rows.map .ofRow)) ∧
      (rows.Pairwise fun a b => a.2.stockQuantity ≤ b.2.stockQuantity) ∧ (rows.map Prod.fst).Nodup ∧
      (∀ p, p ∈ rows ↔ p ∈ s.productsBelow threshold) ∧
      ∀ history, s.view.rows = (Rest.Store.empty.afterAll history).rows →
        ∀ p, p ∈ rows ↔ Rest.toldBy history .product p.1 = some p.2 ∧ (p.2.stockQuantity : Int) < threshold := by
  cases hbinds : s.driver.binds (max 0 threshold) with
  | false => exact .inl ⟨rfl, (eval_findLowStockProducts threshold).trans (if_neg (by simp [hbinds]))⟩
  | true =>
    have hmem : ∀ p, p ∈ orderByStock ((scan.rows .product).filter fun p => (p.2.stockQuantity : Int) < max 0 threshold) ↔
        p ∈ s.productsBelow threshold := by
      intro p
      rw [orderByStock, (List.mergeSort_perm _ _).mem_iff, List.mem_filter, scan.mem_rows s.used]
      refine and_congr_right fun _ => ?_
      rw [decide_eq_true_eq]
      omega
    refine .inr ⟨_, (eval_findLowStockProducts threshold).trans (if_pos hbinds), pairwise_orderByStock _, ?_, hmem,
      fun history hrows p => ?_⟩
    · exact ((List.mergeSort_perm _ _).map Prod.fst).nodup_iff.mpr (keys_filter (scan.keys .product) _)
    · have htold : s.view.rows .product p.1 = Rest.toldBy history .product p.1 := by
        rw [hrows]
        exact (Rest.tells_toldBy history).product p.1
      rw [hmem, ← htold]
      rfl

end Answers

/-! ### Revenue -/

section Revenue
open Rest Orders

/-- What a line of the left join adds to the revenue. -/
def lineValue : Option OrderLine → Nat
  | none => 0
  | some l => l.unitPriceAtOrder * l.quantity

/-- What the line has brought in from the customer. -/
def valueTo (rows : Rows Row) (customerId : Nat) (line : Option OrderLine) : Nat :=
  match line.bind fun l => rows .orders l.orderId with
  | none => 0
  | some o => if Order.customerId o = customerId then lineValue line else 0

/-- What all lines have brought in from the customer. -/
noncomputable def soldTo (rows : Rows Row) (customerId : Nat) : Nat := ∑ᶠ id, valueTo rows customerId (rows .orderLine id)

variable {store : Rest.Store} {scan : Scan store.view}

theorem lineAmount_of_ne {line : Option OrderLine} {orderId : Nat} (h : ∀ l, line = some l → l.orderId ≠ orderId) :
    lineAmount line orderId = 0 := by
  cases line with
  | none => rfl
  | some l => exact if_neg (h l rfl)

theorem mem_ordersFound {o : Nat × Order} {customerId : Nat} :
    o ∈ (scan.rows .orders).filter (fun o => (o.2.customerId : Int) = customerId) ↔
      store.rows .orders o.1 = some o.2 ∧ o.2.customerId = customerId := by
  rw [List.mem_filter, scan.mem_rows store.used]
  simp [Rest.Store.view]

/-- A line counts for the one order that it is on. -/
theorem sum_lineAmount (customerId id : Nat) :
    (((scan.rows .orders).filter fun o => (o.2.customerId : Int) = customerId).map fun o =>
      lineAmount (store.rows .orderLine id) o.1).sum = valueTo store.rows customerId (store.rows .orderLine id) := by
  set found := (scan.rows .orders).filter fun o => (o.2.customerId : Int) = customerId with hfound
  have hnodup : found.Nodup := (keys_filter (scan.keys .orders) _).of_map
  rw [← List.sum_toFinset _ hnodup]
  cases hline : store.rows .orderLine id with
  | none => exact Finset.sum_eq_zero fun _ _ => rfl
  | some l =>
    obtain ⟨o, ho⟩ := Option.ne_none_iff_exists'.mp (store.migrated.lineOrder id l hline)
    have hvalue : valueTo store.rows customerId (some l) =
        if Order.customerId o = customerId then l.unitPriceAtOrder * l.quantity else 0 := by
      simp [valueTo, ho, lineValue]
    rw [hvalue]
    split
    · rename_i hcustomer
      have hmem : (l.orderId, o) ∈ found := mem_ordersFound.mpr ⟨ho, hcustomer⟩
      rw [Finset.sum_eq_single (l.orderId, o) (fun o' ho' hne => ?_) fun h => absurd (List.mem_toFinset.mpr hmem) h]
      · exact if_pos rfl
      · refine lineAmount_of_ne fun l' hl' heq => hne ?_
        cases hl'
        have hrow := (mem_ordersFound.mp (List.mem_toFinset.mp ho')).1
        rw [← heq, ho] at hrow
        exact Prod.ext heq.symm (Option.some.inj hrow).symm
    · rename_i hcustomer
      refine Finset.sum_eq_zero fun o' ho' => lineAmount_of_ne fun l' hl' heq => hcustomer ?_
      cases hl'
      obtain ⟨hrow, hcustomer'⟩ := mem_ordersFound.mp (List.mem_toFinset.mp ho')
      rw [← heq, ho] at hrow
      cases hrow
      exact hcustomer'

theorem soldTo_eq_sum (store : Rest.Store) (customerId : Nat) :
    soldTo store.rows customerId =
      ∑ id ∈ Finset.range (store.seq .orderLine), valueTo store.rows customerId (store.rows .orderLine id) := by
  refine finsum_eq_sum_of_support_subset _ fun id hid => ?_
  rw [Finset.coe_range, Set.mem_Iio]
  by_contra hle
  rw [Function.mem_support, store.fresh .orderLine id (Nat.not_lt.mp hle)] at hid
  exact hid rfl

/-- The stored totals of a customer's orders come to what their lines have brought in. -/
theorem sum_totals (h : TotalsAddUp store.rows) (customerId : Nat) :
    (((scan.rows .orders).filter fun o => (o.2.customerId : Int) = customerId).map fun o => o.2.totalAmount).sum =
      soldTo store.rows customerId := by
  set found := (scan.rows .orders).filter fun o => (o.2.customerId : Int) = customerId with hfound
  have htotals : found.map (fun o => o.2.totalAmount) = found.map fun o =>
      ∑ id ∈ Finset.range (store.seq .orderLine), lineAmount (store.rows .orderLine id) o.1 := by
    refine List.map_congr_left fun o ho => ?_
    have hfresh : ∀ id, store.seq .orderLine ≤ id → store.rows .orderLine id = none := store.fresh .orderLine
    rw [h o.1 o.2 (mem_ordersFound.mp ho).1, linesTotal_eq_sumOf hfresh]
    rfl
  have hnodup : found.Nodup := (keys_filter (scan.keys .orders) _).of_map
  rw [htotals, soldTo_eq_sum, ← List.sum_toFinset _ hnodup, Finset.sum_comm]
  exact Finset.sum_congr rfl fun id _ => (List.sum_toFinset _ hnodup).trans (sum_lineAmount customerId id)

/-- Each line has brought in its value, from one customer. -/
theorem sum_valueTo (store : Rest.Store) (id : Nat) :
    ∑ customerId ∈ Finset.range (store.seq .customer), valueTo store.rows customerId (store.rows .orderLine id) =
      lineValue (store.rows .orderLine id) := by
  cases hline : store.rows .orderLine id with
  | none => exact Finset.sum_eq_zero fun _ _ => rfl
  | some l =>
    obtain ⟨o, ho⟩ := Option.ne_none_iff_exists'.mp (store.migrated.lineOrder id l hline)
    obtain ⟨c, hc⟩ := Option.ne_none_iff_exists'.mp (store.migrated.orderCustomer _ o ho)
    have hmem : Order.customerId o ∈ Finset.range (store.seq .customer) :=
      Finset.mem_range.mpr (store.used .customer _ c hc)
    have hvalue : ∀ customerId, valueTo store.rows customerId (some l) =
        if Order.customerId o = customerId then lineValue (some l) else 0 := fun customerId => by
      simp [valueTo, ho]
    simp only [hvalue, Finset.sum_ite_eq, if_pos hmem]

/-- What has been sold to all customers is what all lines have brought in. -/
theorem sum_soldTo (store : Rest.Store) :
    ∑ customerId ∈ Finset.range (store.seq .customer), soldTo store.rows customerId =
      ∑ᶠ id, lineValue (store.rows .orderLine id) := by
  have hlines : ∑ᶠ id, lineValue (store.rows .orderLine id) =
      ∑ id ∈ Finset.range (store.seq .orderLine), lineValue (store.rows .orderLine id) := by
    refine finsum_eq_sum_of_support_subset _ fun id hid => ?_
    rw [Finset.coe_range, Set.mem_Iio]
    by_contra hle
    rw [Function.mem_support, store.fresh .orderLine id (Nat.not_lt.mp hle)] at hid
    exact hid rfl
  simp only [soldTo_eq_sum]
  rw [Finset.sum_comm, hlines]
  exact Finset.sum_congr rfl fun id _ => sum_valueTo store id

/-! ### Customers after a history -/

/-- The store as the tools read it. -/
def Reads.ofStore (store : Rest.Store) (driver : Ml.ChurnContract.Driver) : Reads := ⟨store.view, store.used, driver⟩

/-- The revenue that an answer of `get_customer_360` reports. -/
def reportedRevenue : Except Exc ToolResult → Nat
  | .ok (.customer360 customer) => customer.totalRevenue
  | _ => 0

/-- The time of a customer's last order. -/
def LastOrder (orders : Set (Nat × Order)) : Option DateTime → Prop
  | none => orders = ∅
  | some last => (∃ o ∈ orders, o.2.createdAt = last) ∧ ∀ o ∈ orders, o.2.createdAt.utc ≤ last.utc

theorem lastOrder_latest {rows : List (Nat × Order)} {orders : Set (Nat × Order)} (hmem : ∀ o, o ∈ rows ↔ o ∈ orders) :
    LastOrder orders (DateTime.latest (rows.map fun o => o.2.createdAt)) := by
  cases hlatest : DateTime.latest (rows.map fun o => o.2.createdAt) with
  | none =>
    rw [DateTime.latest_eq_none_iff, List.map_eq_nil_iff] at hlatest
    refine Set.eq_empty_of_forall_notMem fun o ho => ?_
    rw [← hmem o, hlatest] at ho
    cases ho
  | some last =>
    obtain ⟨hfound, hle⟩ := DateTime.latest_spec hlatest
    obtain ⟨o, ho, heq⟩ := List.mem_map.mp hfound
    exact ⟨⟨o, (hmem o).mp ho, heq⟩, fun o' ho' => hle _ (List.mem_map.mpr ⟨o', (hmem o').mpr ho', rfl⟩)⟩

theorem soldTo_of_absent {id : Nat} (hrow : store.rows .customer id = none) : soldTo store.rows id = 0 := by
  refine finsum_eq_zero_of_forall_eq_zero fun lineId => ?_
  unfold valueTo
  split
  · rfl
  · rename_i o ho
    obtain ⟨l, -, ho⟩ := Option.bind_eq_some_iff.mp ho
    refine if_neg ?_
    rintro rfl
    exact store.migrated.orderCustomer l.orderId o ho hrow

section Tool
variable (store : Rest.Store) (driver : Ml.ChurnContract.Driver) (scan : Scan (Reads.ofStore store driver).view)
  (digest : Digest) (deps : Deps) (currentUser : Option McpUser)

/-- What `get_customer_360` ends with on the store. -/
def customer360On (id : Int) : Except Exc ToolResult :=
  (getCustomer360 digest deps currentUser id).eval ((Reads.ofStore store driver).answer scan)

/-- The answer is the customer with the number of the orders, the value of the lines on them and the time of the last. -/
def RollsUp (id : Nat) (customer : Customer) (answer : Except Exc ToolResult) : Prop :=
  ∃ last, answer = .ok (.customer360 ⟨id, customer.name, customer.email, ((Reads.ofStore store driver).ordersBy id).ncard,
      soldTo store.rows id, last⟩) ∧
    LastOrder ((Reads.ofStore store driver).ordersBy id) last

variable {store driver} in
theorem rollsUp_of_totals (h : TotalsAddUp store.rows) {id : Nat} {customer : Customer} (hbinds : driver.binds id = true)
    (hrow : store.rows .customer id = some customer) :
    RollsUp store driver id customer (customer360On store driver scan digest deps currentUser id) := by
  have hmem : ∀ o, o ∈ ordersFound scan id ↔ o ∈ (Reads.ofStore store driver).ordersBy id := fun o => mem_ordersFound
  have hnodup : (ordersFound scan (id : Int)).Nodup := (keys_filter (scan.keys .orders) _).of_map
  refine ⟨_, ?_, lastOrder_latest hmem⟩
  rw [customer360On, eval_getCustomer360 hbinds hrow, length_eq_ncard hnodup hmem]
  exact congrArg (fun total => Except.ok (ToolResult.customer360 ⟨_, _, _, _, total, _⟩)) (sum_totals h id)

theorem reportedRevenue_of_totals (h : TotalsAddUp store.rows)
    (hbinds : ∀ id c, store.rows .customer id = some c → driver.binds id = true) (id : Nat) :
    reportedRevenue (customer360On store driver scan digest deps currentUser id) = soldTo store.rows id := by
  cases hrow : store.rows .customer id with
  | some customer =>
    obtain ⟨last, heval, -⟩ := rollsUp_of_totals scan digest deps currentUser h (hbinds id customer hrow) hrow
    rw [heval]
    rfl
  | none =>
    rw [soldTo_of_absent hrow, customer360On]
    cases hid : driver.binds id with
    | true =>
      rw [eval_getCustomer360_none hid (.inr hrow)]
      rfl
    | false =>
      have hget : (Reads.ofStore store driver).answer scan (σ := deps.scalars.Scalar) _ (.getCustomer id) =
          .error driver.refusal := if_neg (by simp [Reads.ofStore, hid])
      rw [getCustomer360, eval_bind, eval_audit, ok_bind, eval_bind, eval_withSession, eval_bind, eval_effect, hget]
      rfl

end Tool

/-- After any history of requests, `get_customer_360` reports of each customer the number of the orders and the value of
    the lines on them, and the revenues that it reports of all customers add up to the value of all lines. -/
theorem customer_360_revenue (history : List Rest.Served) (driver : Ml.ChurnContract.Driver)
    (scan : Scan (Reads.ofStore (Rest.Store.empty.afterAll history) driver).view) (digest : Digest) (deps : Deps)
    (currentUser : Option McpUser)
    (hbinds : ∀ id c, (Rest.Store.empty.afterAll history).rows .customer id = some c → driver.binds id = true) :
    (∀ id customer, (Rest.Store.empty.afterAll history).rows .customer id = some customer →
      RollsUp (Rest.Store.empty.afterAll history) driver id customer
        (customer360On (Rest.Store.empty.afterAll history) driver scan digest deps currentUser id)) ∧
      ∑ᶠ id : Nat, reportedRevenue
          (customer360On (Rest.Store.empty.afterAll history) driver scan digest deps currentUser id) =
        ∑ᶠ id, lineValue ((Rest.Store.empty.afterAll history).rows .orderLine id) := by
  have htotals : TotalsAddUp (Rest.Store.empty.afterAll history).rows := TotalsAddUp.empty.afterAll history
  refine ⟨fun id customer hrow => ?_, ?_⟩
  · exact rollsUp_of_totals scan digest deps currentUser htotals (hbinds id customer hrow) hrow
  · simp only [reportedRevenue_of_totals _ _ scan digest deps currentUser htotals hbinds]
    rw [← sum_soldTo]
    refine finsum_eq_sum_of_support_subset _ fun id hid => ?_
    rw [Finset.coe_range, Set.mem_Iio]
    by_contra hle
    exact hid (soldTo_of_absent ((Rest.Store.empty.afterAll history).fresh .customer id (Nat.not_lt.mp hle)))

/-- Ada buys two widgets. -/
def adaBuys : List Rest.Served :=
  [(.createCustomer ⟨"Ada", "ada@example.org"⟩, ticks), (.createProduct ⟨"Widget", none, 999, 10⟩, ticks),
    (.createOrder 0, ticks), (.addLine 0 ⟨0, 2⟩, ticks)]

/-- What the driver binds to an `INTEGER` parameter. -/
def integerDriver : Ml.ChurnContract.Driver :=
  ⟨fun id => -2147483648 ≤ id ∧ id ≤ 2147483647, 32767, ⟨.dbapiError, "DBAPIError", ""⟩⟩

theorem ada_revenue :
    ∑ᶠ id : Nat, reportedRevenue (customer360On (Rest.Store.empty.afterAll adaBuys) integerDriver
        ⟨select _, fun _ => .refl _⟩ ⟨fun _ => "", fun text => text⟩
          (Ml.ChurnContract.adaSituation fun _ => .ok (.finite 0)).deps none id) =
      ∑ᶠ id, lineValue ((Rest.Store.empty.afterAll adaBuys).rows .orderLine id) := by
  refine (customer_360_revenue adaBuys integerDriver _ _ _ _ fun id c hrow => ?_).2
  have hid := (Rest.Store.empty.afterAll adaBuys).lt_seq hrow
  have hseq : (Rest.Store.empty.afterAll adaBuys).seq .customer = 1 := by decide +kernel
  have hzero : id = 0 := by omega
  subst hzero
  decide

end Revenue

end IrisService.Mcp.Tools
