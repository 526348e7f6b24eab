import IrisService.Rest.Numbers
import IrisService.Rest.Spec

/-! A store that serves a request alone comes to what the specification says. -/

namespace IrisService.Rest
open ReadCommitted Orders Products Customers Runs

/-! ### What the statements find -/

section Finds
variable {v : View Row} (hused : v.Used)
include hused

theorem emailTaken_iff (email : String) : emailTaken v email = true ↔ EmailTaken v.rows email := by
  rw [emailTaken, any_select hused]
  simp [EmailTaken]

theorem emailOfOther_iff (email : String) (id : Nat) : emailOfOther v email id = true ↔ EmailOfOther v.rows email id := by
  rw [emailOfOther, any_select hused]
  simp only [EmailOfOther, Bool.and_eq_true, decide_eq_true_eq]
  exact exists_congr fun _ => exists_congr fun _ => by tauto

theorem nameOfOther_iff (name : String) (id : Nat) : nameTaken v name id = true ↔ NameOfOther v.rows name id := by
  rw [nameTaken, any_select hused]
  simp only [NameOfOther, Bool.and_eq_true, decide_eq_true_eq]
  exact exists_congr fun _ => exists_congr fun _ => by tauto

theorem nameTaken_iff (name : String) :
    ((select v .product).any fun p => p.2.name = name) = true ↔ NameTaken v.rows name := by
  rw [any_select hused]
  simp [NameTaken]

theorem hasOrders_iff (id : Nat) : ((select v .orders).any fun o => o.2.customerId = id) = true ↔ HasOrders v.rows id := by
  rw [any_select hused]
  simp [HasOrders]

theorem isOrdered_iff (id : Nat) :
    ((select v .orderLine).any fun l => l.2.productId = id) = true ↔ IsOrdered v.rows id := by
  rw [any_select hused]
  simp [IsOrdered]

theorem recomputedTotal_eq_linesTotal (orderId : Nat) : recomputedTotal v orderId = linesTotal v.rows orderId := by
  rw [recomputedTotal_eq, sumOf, linesTotal]
  refine (finsum_eq_sum_of_support_subset _ fun id hid => ?_).symm
  rw [Finset.coe_range, Set.mem_Iio]
  cases hrow : v.rows .orderLine id with
  | none =>
    rw [Function.mem_support, hrow] at hid
    exact absurd rfl hid
  | some l => exact hused .orderLine id l hrow

end Finds

/-- The handler is over, with the answer and the rows of the outcome. -/
def Ends {S R : Type} (done : R → S) (answer : R → Response) (outcome : Response × Rows Row) (x : Solo Row S) : Prop :=
  ∃ r, x.state = done r ∧ (answer r, x.committed) = outcome

theorem Ends.of_done {S R : Type} {handle : Nat → S → View Row → Action Row S} {done : R → S} {answer : R → Response}
    {outcome : Response × Rows Row} {k n : Nat} {r : R} {v : View Row} {rows : Rows Row}
    (hdone : ∀ k v, handle k (done r) v = .next (done r)) (h : (answer r, rows) = outcome) :
    Ends done answer outcome (Solo.exec handle k n ⟨done r, v, rows⟩) := by
  rw [Solo.exec_of_done hdone]
  exact ⟨r, rfl, h⟩

theorem update_of_row {S : Type} {v : View Row} {t : Table} {id : Nat} {row : Row t} {set : Row t → Row t}
    {flushed stale : S} (h : v.rows t id = some row) :
    update v t id set flushed stale = .write [⟨t, id, some (set row)⟩] flushed := by
  rw [update, h]

/-- The row that is there already. -/
theorem withRow_same {rows : Rows Row} {t : Table} {id : Nat} {row : Option (Row t)} (h : rows t id = row) :
    withRow rows t id row = rows := by
  funext t' id'
  by_cases ht : t' = t
  · subst ht
    by_cases hid : id' = id
    · subst hid
      rw [withRow_self, h]
    · exact withRow_of_id_ne hid
  · exact withRow_of_table_ne ht

section Handlers
variable (store : Store) (clock : Nat → Clock)

/-- A flush of a loaded customer leaves the row with the name and the email, unless the email is another one's. -/
theorem flushCustomer_perform {S : Type} {id : Nat} {c : Customer} {name email : String} {loaded flushed conflict stale : S}
    (hrow : store.rows .customer id = some c) (hfree : ¬(email ≠ c.email ∧ EmailOfOther store.rows email id)) :
    (⟨loaded, store.view, store.rows⟩ : Solo Row S).perform
        (flushCustomer store.view id c name email flushed conflict stale) =
      ⟨flushed, ⟨withRow store.rows .customer id (some ⟨name, email, c.createdAt⟩), store.seq⟩, store.rows⟩ := by
  unfold flushCustomer
  by_cases hsame : (name = c.name && email = c.email) = true
  · rw [if_pos hsame]
    simp only [Bool.and_eq_true, decide_eq_true_eq] at hsame
    obtain ⟨rfl, rfl⟩ := hsame
    rw [withRow_same hrow]
    rfl
  · have hmine : ¬(decide (email ≠ c.email) && emailOfOther store.view email id) = true := by
      rw [Bool.and_eq_true, decide_eq_true_eq, emailOfOther_iff store.used]
      exact hfree
    rw [if_neg hsame, if_neg hmine, update_of_row hrow]
    simp only [Solo.perform, withRow, Writes.setAll_cons, Writes.setAll_nil]
    congr
    · split <;> simp_all
    · split <;> simp_all

theorem flushCustomer_conflict {S : Type} {id : Nat} {c : Customer} {name email : String} {flushed conflict stale : S}
    (htaken : email ≠ c.email ∧ EmailOfOther store.rows email id) :
    flushCustomer store.view id c name email flushed conflict stale = .rollback conflict := by
  have hother := (emailOfOther_iff store.used email id).mpr htaken.2
  simp [flushCustomer, htaken.1, hother]

theorem updateCustomer_comes (id : Nat) (body : CustomerCreate) :
    Ends .done .customer (store.outcome clock (.updateCustomer id body))
      (Solo.exec (fun _ => Customers.updateCustomer id body) 0 7 ⟨.start, store.view, store.rows⟩) := by
  rw [Solo.exec_succ]
  cases hrow : store.rows .customer id with
  | none =>
    simp only [Store.outcome, Customers.updateCustomer, Store.view, hrow, Solo.perform]
    exact Ends.of_done (fun _ _ => rfl) rfl
  | some c =>
    have hload : Customers.updateCustomer id body .start store.view = .next (.loaded c) := by
      simp only [Customers.updateCustomer, Store.view, hrow]
    rw [hload, Solo.perform, Solo.exec_succ, Customers.updateCustomer]
    by_cases htaken : body.email ≠ c.email ∧ EmailOfOther store.rows body.email id
    · rw [flushCustomer_conflict store htaken]
      simp only [Store.outcome, hrow, if_pos htaken, Solo.perform]
      exact Ends.of_done (fun _ _ => rfl) rfl
    · rw [flushCustomer_perform store hrow htaken]
      simp only [Store.outcome, hrow, if_neg htaken]
      exact Ends.of_done (fun _ _ => rfl) rfl

theorem patchCustomer_comes (id : Nat) (body : CustomerPatch) :
    Ends .done .customer (store.outcome clock (.patchCustomer id body))
      (Solo.exec (fun _ => Customers.patchCustomer id body) 0 7 ⟨.start, store.view, store.rows⟩) := by
  rw [Solo.exec_succ]
  cases hrow : store.rows .customer id with
  | none =>
    simp only [Store.outcome, Customers.patchCustomer, Store.view, hrow, Solo.perform]
    exact Ends.of_done (fun _ _ => rfl) rfl
  | some c =>
    have hload : Customers.patchCustomer id body .start store.view = .next (.loaded c) := by
      simp only [Customers.patchCustomer, Store.view, hrow]
    rw [hload, Solo.perform, Solo.exec_succ, Customers.patchCustomer]
    by_cases htaken : body.email.getD c.email ≠ c.email ∧ EmailOfOther store.rows (body.email.getD c.email) id
    · -- The email is the body's: the row's own is nobody else's conflict.
      have hbody : body.email.getD "None" = body.email.getD c.email := by
        cases hemail : body.email with
        | none => exact absurd (by rw [hemail]; rfl) htaken.1
        | some email => rfl
      rw [flushCustomer_conflict store htaken, hbody]
      simp only [Store.outcome, hrow, if_pos htaken, Solo.perform]
      exact Ends.of_done (fun _ _ => rfl) rfl
    · rw [flushCustomer_perform store hrow htaken]
      simp only [Store.outcome, hrow, if_neg htaken]
      exact Ends.of_done (fun _ _ => rfl) rfl

theorem createCustomer_comes (body : CustomerCreate) :
    Ends .done .created (store.outcome clock (.createCustomer body))
      (Solo.exec (fun k => Customers.createCustomer body (clock k).now) 0 7 ⟨.start, store.view, store.rows⟩) := by
  have hfind := emailTaken_iff store.used body.email
  rw [Solo.exec_succ, Customers.createCustomer]
  by_cases htaken : EmailTaken store.rows body.email
  · rw [if_pos (hfind.mpr htaken)]
    simp only [Store.outcome, if_pos htaken, Solo.perform]
    exact Ends.of_done (fun _ _ => rfl) rfl
  · rw [if_neg fun h => htaken (hfind.mp h)]
    simp only [Store.outcome, if_neg htaken, Solo.perform]
    exact Ends.of_done (fun _ _ => rfl) rfl

theorem deleteCustomer_comes (id : Nat) :
    Ends .done .customer (store.outcome clock (.deleteCustomer id))
      (Solo.exec (fun _ => Customers.deleteCustomer id) 0 7 ⟨.start, store.view, store.rows⟩) := by
  have hfind := hasOrders_iff store.used id
  rw [Solo.exec_succ]
  cases hrow : store.rows .customer id with
  | none =>
    simp only [Store.outcome, Customers.deleteCustomer, Store.view, hrow, Solo.perform]
    exact Ends.of_done (fun _ _ => rfl) rfl
  | some c =>
    have hload : Customers.deleteCustomer id .start store.view = .next .loaded := by
      simp only [Customers.deleteCustomer, Store.view, hrow]
    rw [hload, Solo.perform, Solo.exec_succ, Customers.deleteCustomer]
    by_cases horders : HasOrders store.rows id
    · rw [if_pos (hfind.mpr horders)]
      simp only [Store.outcome, hrow, if_pos horders, Solo.perform]
      exact Ends.of_done (fun _ _ => rfl) rfl
    · rw [if_neg fun h => horders (hfind.mp h)]
      simp only [Store.outcome, Store.view, hrow, if_neg horders, Solo.perform]
      exact Ends.of_done (fun _ _ => rfl) rfl

/-! ### Products -/

theorem outOfRange_iff (payload : ProductCreate) :
    (!fitsInteger payload.stockQuantity || !fitsNumeric payload.unitPrice) = true ↔
      ¬(fitsInteger payload.stockQuantity && fitsNumeric payload.unitPrice) = true := by
  rw [← Bool.not_and, Bool.not_eq_true', Bool.not_eq_true]

theorem createProduct_comes (payload : ProductCreate) :
    Ends .done .other (store.outcome clock (.createProduct payload))
      (Solo.exec (fun k => Products.createProduct payload (clock k)) 0 7 ⟨.start, store.view, store.rows⟩) := by
  have hfind := nameTaken_iff store.used payload.name
  rw [Solo.exec_succ, Products.createProduct]
  by_cases htaken : NameTaken store.rows payload.name
  · rw [if_pos (hfind.mpr htaken)]
    simp only [Store.outcome, if_pos htaken, Solo.perform]
    exact Ends.of_done (fun _ _ => rfl) rfl
  · rw [if_neg fun h => htaken (hfind.mp h), Solo.perform, Solo.exec_succ, Products.createProduct]
    have hfree : nameTaken store.view payload.name (store.view.seq .product) = false := by
      rw [← Bool.not_eq_true, nameOfOther_iff store.used]
      rintro ⟨id, p, -, hp, hname⟩
      exact htaken ⟨id, p, hp, hname⟩
    by_cases hfits : (fitsInteger payload.stockQuantity && fitsNumeric payload.unitPrice) = true
    · rw [if_neg (by rw [outOfRange_iff]; exact not_not_intro hfits), hfree, if_neg (by simp)]
      simp only [Store.outcome, if_neg htaken, if_pos hfits, Solo.perform]
      rw [Solo.exec_succ, Products.createProduct]
      have hrow : (withRow store.rows .product (store.seq .product) (some (newProduct payload (clock 1)))) .product
          (store.seq .product) = some (newProduct payload (clock 1)) := withRow_self
      simp only [Store.view, withRow] at hrow ⊢
      simp only [hrow, Solo.perform]
      exact Ends.of_done (fun _ _ => rfl) rfl
    · rw [if_pos ((outOfRange_iff payload).mpr hfits)]
      simp only [Store.outcome, if_neg htaken, if_neg hfits, Solo.perform]
      exact Ends.of_done (fun _ _ => rfl) rfl

/-- The UPDATE of a product that is as it was loaded leaves the payload's attributes. -/
theorem setChanged_loaded (payload : ProductCreate) (p : Product) (now : DateTime) :
    setChanged payload p now p =
      ⟨payload.name, payload.description, payload.unitPrice, payload.stockQuantity, p.createdAt, now⟩ := by
  simp only [setChanged, Product.mk.injEq, and_true]
  refine ⟨?_, ?_, ?_, ?_⟩ <;> split <;> simp_all

theorem updateProduct_comes (productId : Nat) (payload : ProductCreate) :
    Ends .done .other (store.outcome clock (.updateProduct productId payload))
      (Solo.exec (fun k => Products.updateProduct productId payload (clock k).now) 0 7
        ⟨.start, store.view, store.rows⟩) := by
  have hfind := nameOfOther_iff store.used payload.name productId
  rw [Solo.exec_succ]
  cases hrow : store.rows .product productId with
  | none =>
    simp only [Store.outcome, Products.updateProduct, Store.view, hrow, Solo.perform]
    exact Ends.of_done (fun _ _ => rfl) rfl
  | some p =>
    have hload : Products.updateProduct productId payload (clock 0).now .start store.view = .next (.loaded p) := by
      simp only [Products.updateProduct, Store.view, hrow]
    rw [hload, Solo.perform, Solo.exec_succ, Products.updateProduct]
    by_cases hsame : unchanged payload p = true
    · rw [if_pos hsame, Solo.perform, Solo.exec_succ]
      simp only [Store.outcome, Products.updateProduct, Store.view, hrow, if_pos hsame, Solo.perform]
      exact Ends.of_done (fun _ _ => rfl) rfl
    · rw [if_neg hsame]
      by_cases hfits : (fitsInteger payload.stockQuantity && fitsNumeric payload.unitPrice) = true
      · rw [if_neg (by rw [outOfRange_iff]; exact not_not_intro hfits)]
        by_cases htaken : payload.name ≠ p.name ∧ NameOfOther store.rows payload.name productId
        · have hconflict : (decide (payload.name ≠ p.name) && nameTaken store.view payload.name productId) = true := by
            rw [Bool.and_eq_true, decide_eq_true_eq, hfind]
            exact htaken
          rw [if_pos hconflict]
          simp only [Store.outcome, hrow, if_neg hsame, hfits, Bool.not_true, Bool.false_eq_true, if_false, if_pos htaken,
            Solo.perform]
          exact Ends.of_done (fun _ _ => rfl) rfl
        · have hfree : ¬(decide (payload.name ≠ p.name) && nameTaken store.view payload.name productId) = true := by
            rw [Bool.and_eq_true, decide_eq_true_eq, hfind]
            exact htaken
          have hflushed : withRow store.rows .product productId (some (setChanged payload p (clock 1).now p)) .product
              productId = some (setChanged payload p (clock 1).now p) := withRow_self
          rw [if_neg hfree, update_of_row hrow, Solo.perform, Solo.exec_succ]
          simp only [Products.updateProduct, Store.view, withRow, Writes.setAll_cons, Writes.setAll_nil] at hflushed ⊢
          simp only [hflushed, Solo.perform, Store.outcome, hrow, if_neg hsame, hfits, Bool.not_true, Bool.false_eq_true,
            if_false, if_neg htaken]
          rw [setChanged_loaded]
          exact Ends.of_done (fun _ _ => rfl) rfl
      · rw [if_pos ((outOfRange_iff payload).mpr hfits)]
        rw [Bool.not_eq_true] at hfits
        simp only [Store.outcome, hrow, if_neg hsame, hfits, Bool.not_false, if_true, Solo.perform]
        exact Ends.of_done (fun _ _ => rfl) rfl

theorem deleteProduct_comes (productId : Nat) :
    Ends .done .other (store.outcome clock (.deleteProduct productId))
      (Solo.exec (fun _ => Products.deleteProduct productId) 0 7 ⟨.start, store.view, store.rows⟩) := by
  have hfind := isOrdered_iff store.used productId
  rw [Solo.exec_succ]
  cases hrow : store.rows .product productId with
  | none =>
    simp only [Store.outcome, Products.deleteProduct, Store.view, hrow, Solo.perform]
    exact Ends.of_done (fun _ _ => rfl) rfl
  | some p =>
    have hload : Products.deleteProduct productId .start store.view = .next .loaded := by
      simp only [Products.deleteProduct, Store.view, hrow]
    rw [hload, Solo.perform, Solo.exec_succ, Products.deleteProduct]
    by_cases hordered : IsOrdered store.rows productId
    · rw [if_pos (hfind.mpr hordered)]
      simp only [Store.outcome, hrow, if_pos hordered, Solo.perform]
      exact Ends.of_done (fun _ _ => rfl) rfl
    · rw [if_neg fun h => hordered (hfind.mp h)]
      simp only [Store.outcome, Store.view, hrow, if_neg hordered, Solo.perform]
      exact Ends.of_done (fun _ _ => rfl) rfl

/-! ### Orders -/

theorem createOrder_comes (customerId : Nat) :
    Ends .done .other (store.outcome clock (.createOrder customerId))
      (Solo.exec (fun k => Orders.createOrder customerId (clock k)) 0 7 ⟨.start, store.view, store.rows⟩) := by
  rw [Solo.exec_succ, Orders.createOrder]
  cases hcustomer : store.rows .customer customerId with
  | none =>
    simp only [Store.outcome, Store.view, hcustomer, Option.isSome_none, Bool.false_eq_true, if_false, Solo.perform]
    exact Ends.of_done (fun _ _ => rfl) rfl
  | some c =>
    have hrow : withRow store.rows .orders (store.seq .orders) (some (newOrder customerId (clock 0))) .orders
        (store.seq .orders) = some (newOrder customerId (clock 0)) := withRow_self
    simp only [Store.outcome, Store.view, hcustomer, Option.isSome_some, if_true, Solo.perform]
    rw [Solo.exec_succ]
    simp only [Orders.createOrder, withRow] at hrow ⊢
    simp only [hrow, Solo.perform]
    exact Ends.of_done (fun _ _ => rfl) rfl

theorem updateOrderStatus_comes (orderId : Nat) (status : OrderStatus) :
    Ends .done .other (store.outcome clock (.updateOrderStatus orderId status))
      (Solo.exec (fun k => Orders.updateOrderStatus orderId status (clock k).now) 0 7
        ⟨.start, store.view, store.rows⟩) := by
  rw [Solo.exec_succ]
  cases hrow : store.rows .orders orderId with
  | none =>
    simp only [Store.outcome, Orders.updateOrderStatus, Store.view, hrow, Solo.perform]
    exact Ends.of_done (fun _ _ => rfl) rfl
  | some o =>
    cases hallowed : o.status.canTransitionTo (some status) with
    | false =>
      simp only [Store.outcome, Orders.updateOrderStatus, Store.view, hrow, hallowed, Bool.not_false, if_true,
        Bool.false_eq_true, if_false, Solo.perform]
      exact Ends.of_done (fun _ _ => rfl) rfl
    | true =>
      have hload : Orders.updateOrderStatus orderId status (clock 0).now .start store.view = .next (.checked o) := by
        simp only [Orders.updateOrderStatus, Store.view, hrow, hallowed, if_true]
      rw [hload, Solo.perform, Solo.exec_succ, Orders.updateOrderStatus]
      by_cases hsame : status = o.status
      · rw [if_pos hsame, Solo.perform, Solo.exec_succ]
        simp only [Store.outcome, Orders.updateOrderStatus, Store.view, hrow, hallowed, Bool.not_true, Bool.false_eq_true,
          if_false, if_pos hsame, Solo.perform]
        exact Ends.of_done (fun _ _ => rfl) rfl
      · have hflushed : withRow store.rows .orders orderId
          (some { o with status := status, updatedAt := (clock 1).now }) .orders
            orderId = some { o with status := status, updatedAt := (clock 1).now } := withRow_self
        rw [if_neg hsame, update_of_row hrow, Solo.perform, Solo.exec_succ]
        simp only [Orders.updateOrderStatus, Store.view, withRow, Writes.setAll_cons, Writes.setAll_nil] at hflushed ⊢
        simp only [hflushed, Solo.perform, Store.outcome, hrow, hallowed, Bool.not_true, Bool.false_eq_true, if_false,
          if_neg hsame]
        exact Ends.of_done (fun _ _ => rfl) rfl

/-- The cascade takes the lines that the DELETE sees, and these are all the lines of the order. -/
theorem onto_cascade (hused : store.view.Used) (orderId : Nat) :
    ((Writes.empty : Writes Row).setAll (⟨.orders, orderId, none⟩ :: (linesOf store.view orderId).map fun l =>
      ⟨.orderLine, l.1, none⟩)).onto store.rows = withoutOrder store.rows orderId := by
  have hdeletes : ∀ c ∈ (⟨.orders, orderId, none⟩ :: (linesOf store.view orderId).map fun l =>
      (⟨.orderLine, l.1, none⟩ : Change Row)), c.row = none := by
    intro c hc
    rcases List.mem_cons.mp hc with rfl | hline
    · rfl
    · obtain ⟨l, -, rfl⟩ := List.mem_map.mp hline
      rfl
  funext t id
  refine Option.ext fun r => ?_
  rw [Writes.onto_deletes hdeletes]
  simp only [List.mem_cons, List.mem_map, forall_eq_or_imp, forall_exists_index, and_imp, forall_apply_eq_imp_iff₂,
    Change.At]
  cases t with
  | orders =>
    simp only [true_and, reduceCtorEq, false_and, not_false_eq_true, implies_true, and_true, withoutOrder]
    by_cases hid : id = orderId
    · simp [hid]
    · simp [hid, Ne.symm hid]
  | orderLine =>
    simp only [reduceCtorEq, false_and, not_false_eq_true, true_and, withoutOrder, Option.filter_eq_some_iff,
      decide_eq_true_eq]
    refine and_congr_right fun hrow => ⟨fun h hof => ?_, fun h l hl hid => ?_⟩
    · refine h (id, r) (List.mem_filter.mpr ⟨?_, by simpa using hof⟩) rfl
      exact mem_select_of_row (hused .orderLine id r hrow) hrow
    · obtain ⟨hselected, hof⟩ := List.mem_filter.mp hl
      have hrow' := mem_select hselected
      rw [hid] at hrow'
      rw [show store.view.rows .orderLine id = some r from hrow] at hrow'
      obtain rfl := Option.some.inj hrow'
      exact h (of_decide_eq_true hof)
  | _ => simp [withoutOrder]

theorem deleteOrder_comes (orderId : Nat) :
    Ends .done .other (store.outcome clock (.deleteOrder orderId))
      (Solo.exec (fun _ => Orders.deleteOrder orderId) 0 7 ⟨.start, store.view, store.rows⟩) := by
  rw [Solo.exec_succ]
  cases hrow : store.rows .orders orderId with
  | none =>
    simp only [Store.outcome, Orders.deleteOrder, Store.view, hrow, Solo.perform]
    exact Ends.of_done (fun _ _ => rfl) rfl
  | some o =>
    have hload : Orders.deleteOrder orderId .start store.view = .next .loaded := by
      simp only [Orders.deleteOrder, Store.view, hrow]
    have hcascade := onto_cascade store store.used orderId
    rw [hload, Solo.perform, Solo.exec_succ, Orders.deleteOrder]
    simp only [Store.view, hrow, Solo.perform] at hcascade ⊢
    rw [hcascade]
    simp only [Store.outcome, hrow]
    exact Ends.of_done (fun _ _ => rfl) rfl

/-! ### Order lines -/

theorem orders_withLine (rows : Rows Row) (id : Nat) (line : Option OrderLine) (orderId : Nat) :
    withRow rows .orderLine id line .orders orderId = rows .orders orderId :=
  withRow_of_table_ne (by decide)

theorem storeTotal_perform {S : Type} {v : View Row} {rows : Rows Row} {orderId total : Nat} {o : Order} {now : DateTime}
    {s flushed : S} {failed : Reply → S} (hrow : v.rows .orders orderId = some o) :
    (⟨s, v, rows⟩ : Solo Row S).perform (storeTotal v orderId o total now flushed failed) =
      if (total = o.totalAmount || fitsNumeric total) = true then
        ⟨flushed, ⟨withTotal v.rows orderId o total now, v.seq⟩, rows⟩
      else ⟨failed (.raised "DBAPIError"), ⟨rows, v.seq⟩, rows⟩ := by
  unfold storeTotal withTotal
  by_cases hsame : total = o.totalAmount
  · simp [hsame, Solo.perform]
  · cases hfits : fitsNumeric total with
    | false => simp [hsame, Solo.perform]
    | true =>
      simp only [hsame, decide_false, Bool.false_or, if_true, if_false, update_of_row hrow, Solo.perform]
      rfl

theorem addLine_comes (orderId : Nat) (payload : OrderLineCreate) :
    Ends .done .other (store.outcome clock (.addLine orderId payload))
      (Solo.exec (fun k => Orders.addLine orderId payload (clock k).now) 0 7 ⟨.start, store.view, store.rows⟩) := by
  rw [Solo.exec_succ]
  cases horder : store.rows .orders orderId with
  | none =>
    simp only [Store.outcome, Orders.addLine, Store.view, horder, Solo.perform]
    exact Ends.of_done (fun _ _ => rfl) rfl
  | some o =>
    have hload : Orders.addLine orderId payload (clock 0).now .start store.view = .next (.loaded o) := by
      simp only [Orders.addLine, Store.view, horder]
    rw [hload, Solo.perform, Solo.exec_succ]
    cases hproduct : store.rows .product payload.productId with
    | none =>
      simp only [Store.outcome, Orders.addLine, Store.view, horder, hproduct, Solo.perform]
      exact Ends.of_done (fun _ _ => rfl) rfl
    | some p =>
      have hprice : Orders.addLine orderId payload (clock 1).now (.loaded o) store.view = .next (.priced o p) := by
        simp only [Orders.addLine, Store.view, hproduct]
      rw [hprice, Solo.perform, Solo.exec_succ, Orders.addLine]
      cases hquantity : fitsInteger payload.quantity with
      | false =>
        simp only [Bool.not_false, if_true, Solo.perform, Store.outcome, horder, hproduct, hquantity, Bool.false_and,
          Bool.false_eq_true, if_false]
        exact Ends.of_done (fun _ _ => rfl) rfl
      | true =>
        have hrows : ((store.view.rows .orders orderId).isSome && (store.view.rows .product payload.productId).isSome) =
            true := by
          simp only [Store.view, horder, hproduct, Option.isSome_some, Bool.and_self]
        rw [Bool.not_true, if_neg Bool.false_ne_true, if_pos hrows, Solo.perform, Solo.exec_succ]
        -- The transaction sees the new line, next to the order as it was.
        set l := newLine orderId payload p (clock 2).now
        set v : View Row := ⟨withRow store.rows .orderLine (store.seq .orderLine) (some l),
          Function.update store.seq .orderLine (store.seq .orderLine + 1)⟩ with hv
        have hline : v.rows .orderLine (store.seq .orderLine) = some l := withRow_self
        have horder' : v.rows .orders orderId = some o := by
          rw [← horder]
          exact orders_withLine store.rows (store.seq .orderLine) (some l) orderId
        have hsum : recomputedTotal v orderId = linesTotal store.rows orderId + p.unitPrice * payload.quantity := by
          rw [hv]
          exact (recomputedTotal_insert store.used l rfl).trans
            (congrArg (· + _) (recomputedTotal_eq_linesTotal store.used orderId))
        have hrefresh : Orders.addLine orderId payload (clock 3).now (.flushed o (store.seq .orderLine)) v =
            .next (.refreshed o (store.seq .orderLine) l) := by
          simp only [Orders.addLine, hline]
        show Ends _ _ _ (Solo.exec _ _ 3 (Solo.perform ⟨.flushed o (store.seq .orderLine), v, store.rows⟩
          (Orders.addLine orderId payload (clock 3).now (.flushed o (store.seq .orderLine)) v)))
        rw [hrefresh, Solo.perform, Solo.exec_succ, Orders.addLine, Solo.perform, Solo.exec_succ, Orders.addLine, hsum,
          storeTotal_perform horder']
        by_cases hfits : (decide (linesTotal store.rows orderId + p.unitPrice * payload.quantity = o.totalAmount) ||
            fitsNumeric (linesTotal store.rows orderId + p.unitPrice * payload.quantity)) = true
        · rw [if_pos hfits]
          simp only [Store.outcome, horder, hproduct, hquantity, hfits, Bool.and_self, if_true]
          exact Ends.of_done (fun _ _ => rfl) rfl
        · rw [if_neg hfits]
          rw [Bool.not_eq_true] at hfits
          simp only [Store.outcome, horder, hproduct, hquantity, hfits, Bool.and_false, Bool.false_eq_true, if_false]
          exact Ends.of_done (fun _ _ => rfl) rfl

theorem updateLineStatus_comes (orderId lineId : Nat) (payload : OrderLineStatusUpdate) :
    Ends .done .other (store.outcome clock (.updateLineStatus orderId lineId payload))
      (Solo.exec (fun _ => Orders.updateLineStatus orderId lineId payload) 0 7 ⟨.start, store.view, store.rows⟩) := by
  rw [Solo.exec_succ]
  cases hrow : store.rows .orderLine lineId with
  | none =>
    simp only [Store.outcome, Orders.updateLineStatus, Store.view, hrow, Solo.perform]
    exact Ends.of_done (fun _ _ => rfl) rfl
  | some l =>
    by_cases hof : l.orderId ≠ orderId
    · simp only [Store.outcome, Orders.updateLineStatus, Store.view, hrow, if_pos hof, Solo.perform]
      exact Ends.of_done (fun _ _ => rfl) rfl
    · cases hallowed : l.status.canTransitionTo (some payload.status) with
      | false =>
        simp only [Store.outcome, Orders.updateLineStatus, Store.view, hrow, if_neg hof, hallowed, Bool.not_false, if_true,
          Bool.false_eq_true, if_false, Solo.perform]
        exact Ends.of_done (fun _ _ => rfl) rfl
      | true =>
        have hload : Orders.updateLineStatus orderId lineId payload .start store.view = .next (.checked l) := by
          simp only [Orders.updateLineStatus, Store.view, hrow, if_neg hof, hallowed, if_true]
        rw [hload, Solo.perform, Solo.exec_succ, Orders.updateLineStatus]
        by_cases hsame : payload.status = l.status
        · -- Nothing is flushed: the row has the status already.
          have hkept : ({ l with status := payload.status } : OrderLine) = l := by rw [hsame]
          rw [if_pos hsame, Solo.perform, Solo.exec_succ]
          simp only [Store.outcome, Orders.updateLineStatus, Store.view, hrow, hallowed, Bool.not_true, Bool.false_eq_true,
            if_false, if_neg hof, hkept, withRow_same hrow, Solo.perform]
          exact Ends.of_done (fun _ _ => rfl) rfl
        · have hflushed : withRow store.rows .orderLine lineId (some { l with status := payload.status }) .orderLine
              lineId = some { l with status := payload.status } := withRow_self
          rw [if_neg hsame, update_of_row hrow, Solo.perform, Solo.exec_succ]
          simp only [Orders.updateLineStatus, Store.view, withRow, Writes.setAll_cons, Writes.setAll_nil] at hflushed ⊢
          simp only [hflushed, Solo.perform, Store.outcome, hrow, hallowed, Bool.not_true, Bool.false_eq_true, if_false,
            if_neg hof]
          exact Ends.of_done (fun _ _ => rfl) rfl

theorem deleteLine_comes (orderId lineId : Nat) :
    Ends .done .other (store.outcome clock (.deleteLine orderId lineId))
      (Solo.exec (fun k => Orders.deleteLine orderId lineId (clock k).now) 0 7 ⟨.start, store.view, store.rows⟩) := by
  rw [Solo.exec_succ]
  cases hrow : store.rows .orderLine lineId with
  | none =>
    simp only [Store.outcome, Orders.deleteLine, Store.view, hrow, Solo.perform]
    exact Ends.of_done (fun _ _ => rfl) rfl
  | some l =>
    by_cases hof : l.orderId ≠ orderId
    · simp only [Store.outcome, Orders.deleteLine, Store.view, hrow, if_pos hof, Solo.perform]
      exact Ends.of_done (fun _ _ => rfl) rfl
    · have hload : Orders.deleteLine orderId lineId (clock 0).now .start store.view = .next (.loaded l) := by
        simp only [Orders.deleteLine, Store.view, hrow, if_neg hof]
      have hdelete : Orders.deleteLine orderId lineId (clock 1).now (.loaded l) store.view =
          .write [⟨.orderLine, lineId, none⟩] .flushed := by
        simp only [Orders.deleteLine, Store.view, hrow]
      rw [hload, Solo.perform, Solo.exec_succ, hdelete, Solo.perform, Solo.exec_succ]
      -- The transaction sees the order without the line.
      set v : View Row := ⟨withRow store.rows .orderLine lineId none, store.seq⟩ with hv
      have horders : v.rows .orders orderId = store.rows .orders orderId :=
        orders_withLine store.rows lineId none orderId
      have hsum : recomputedTotal v orderId = linesTotal store.rows orderId - l.unitPriceAtOrder * l.quantity := by
        have hbefore : recomputedTotal store.view orderId = linesTotal store.rows orderId :=
          recomputedTotal_eq_linesTotal store.used orderId
        rw [← hbefore]
        exact Nat.eq_sub_of_add_eq (recomputedTotal_delete store.used hrow (not_not.mp hof))
      show Ends _ _ _ (Solo.exec _ _ 4 (Solo.perform ⟨.flushed, v, store.rows⟩
        (Orders.deleteLine orderId lineId (clock 2).now .flushed v)))
      cases horder : store.rows .orders orderId with
      | none =>
        rw [horder] at horders
        simp only [Store.outcome, Orders.deleteLine, hrow, horder, horders, if_neg hof, Solo.perform]
        exact Ends.of_done (fun _ _ => rfl) rfl
      | some o =>
        rw [horder] at horders
        have hfound : Orders.deleteLine orderId lineId (clock 2).now .flushed v = .next (.ordered o) := by
          simp only [Orders.deleteLine, horders]
        rw [hfound, Solo.perform, Solo.exec_succ, Orders.deleteLine, Solo.perform, Solo.exec_succ, Orders.deleteLine, hsum,
          storeTotal_perform horders]
        by_cases hfits : (decide (linesTotal store.rows orderId - l.unitPriceAtOrder * l.quantity = o.totalAmount) ||
            fitsNumeric (linesTotal store.rows orderId - l.unitPriceAtOrder * l.quantity)) = true
        · rw [if_pos hfits]
          simp only [Store.outcome, hrow, horder, hfits, if_neg hof, if_true]
          exact Ends.of_done (fun _ _ => rfl) rfl
        · rw [if_neg hfits]
          rw [Bool.not_eq_true] at hfits
          simp only [Store.outcome, hrow, horder, hfits, if_neg hof, Bool.false_eq_true, if_false]
          exact Ends.of_done (fun _ _ => rfl) rfl

end Handlers

/-! ### Requests -/

/-- A request that runs alone, as a part of a session. -/
theorem Ends.session {S R : Type} {store : Store} {clock : Nat → Clock} {f : S → Session} {start : S} {done : R → S}
    {answer : R → Response} {outcome : Response × Rows Row} {handler : Nat → S → View Row → Action Row S}
    (h : Ends done answer outcome (Solo.exec handler 0 7 ⟨start, store.view, store.rows⟩))
    (hact : ∀ k s v, handle (clock k) (f s) v = (handler k s v).map f)
    (hanswer : ∀ r, (f (done r)).response? = some (answer r)) :
    (Solo.exec (fun k => handle (clock k)) 0 7 ⟨f start, store.view, store.rows⟩).state.response? = some outcome.1 ∧
      (Solo.exec (fun k => handle (clock k)) 0 7 ⟨f start, store.view, store.rows⟩).committed = outcome.2 := by
  obtain ⟨r, hstate, rfl⟩ := h
  have hmap := Solo.exec_map (k := 0) (n := 7) (x := ⟨start, store.view, store.rows⟩) hact
  rw [show (⟨f start, store.view, store.rows⟩ : Solo Row Session) = Solo.map f ⟨start, store.view, store.rows⟩ from rfl,
    hmap]
  refine ⟨?_, rfl⟩
  simp only [Solo.map, hstate]
  exact hanswer r

theorem exec_meets_outcome (store : Store) (clock : Nat → Clock) (request : Request) :
    (Solo.exec (fun k => handle (clock k)) 0 7 ⟨request.open, store.view, store.rows⟩).state.response? =
        some (store.outcome clock request).1 ∧
      (Solo.exec (fun k => handle (clock k)) 0 7 ⟨request.open, store.view, store.rows⟩).committed =
        (store.outcome clock request).2 := by
  cases request with
  | createCustomer body =>
    exact Ends.session (f := .createCustomer body) (createCustomer_comes store clock body) (fun _ _ _ => rfl) fun _ => rfl
  | updateCustomer id body =>
    exact Ends.session (f := .updateCustomer id body) (updateCustomer_comes store clock id body)
      (fun _ _ _ => rfl) fun _ => rfl
  | patchCustomer id body =>
    exact Ends.session (f := .patchCustomer id body) (patchCustomer_comes store clock id body)
      (fun _ _ _ => rfl) fun _ => rfl
  | deleteCustomer id =>
    exact Ends.session (f := .deleteCustomer id) (deleteCustomer_comes store clock id) (fun _ _ _ => rfl) fun _ => rfl
  | createProduct payload =>
    exact Ends.session (f := fun st => .other (.createProduct payload st)) (createProduct_comes store clock payload)
      (fun _ _ _ => Action.map_map) fun _ => rfl
  | updateProduct productId payload =>
    exact Ends.session (f := fun st => .other (.updateProduct productId payload st))
      (updateProduct_comes store clock productId payload) (fun _ _ _ => Action.map_map) fun _ => rfl
  | deleteProduct productId =>
    exact Ends.session (f := .deleteProduct productId) (deleteProduct_comes store clock productId)
      (fun _ _ _ => rfl) fun _ => rfl
  | createOrder customerId =>
    exact Ends.session (f := fun st => .other (.createOrder customerId st)) (createOrder_comes store clock customerId)
      (fun _ _ _ => Action.map_map) fun _ => rfl
  | updateOrderStatus orderId status =>
    exact Ends.session (f := fun st => .other (.updateOrderStatus orderId status st))
      (updateOrderStatus_comes store clock orderId status) (fun _ _ _ => Action.map_map) fun _ => rfl
  | deleteOrder orderId =>
    exact Ends.session (f := fun st => .other (.deleteOrder orderId st)) (deleteOrder_comes store clock orderId)
      (fun _ _ _ => Action.map_map) fun _ => rfl
  | addLine orderId payload =>
    exact Ends.session (f := fun st => .other (.addLine orderId payload st)) (addLine_comes store clock orderId payload)
      (fun _ _ _ => Action.map_map) fun _ => rfl
  | updateLineStatus orderId lineId payload =>
    exact Ends.session (f := fun st => .other (.updateLineStatus orderId lineId payload st))
      (updateLineStatus_comes store clock orderId lineId payload) (fun _ _ _ => Action.map_map) fun _ => rfl
  | deleteLine orderId lineId =>
    exact Ends.session (f := fun st => .other (.deleteLine orderId lineId st)) (deleteLine_comes store clock orderId lineId)
      (fun _ _ _ => Action.map_map) fun _ => rfl

/-- The request on the store is the handler alone. -/
theorem serve_solo (store : Store) (request : Request) (hbinds : store.Binds request) (clock : Nat → Clock) (n : Nat) :
    (store.serve request clock n).solo 0 =
      Solo.exec (fun k => handle (clock k)) 0 n ⟨request.open, store.view, store.rows⟩ := by
  induction n with
  | zero => rfl
  | succ n ih =>
    have h := serving store request clock n
    have hact : act (clock n) (store.session request clock n) ((store.serve request clock n).view 0) =
        handle (clock n) (store.session request clock n) ((store.serve request clock n).view 0) :=
      act_of_fits hbinds h.request (session_found clock n) _ _
    have hsolo := h.alone.solo_perform
      (a := handle (clock n) (store.session request clock n) ((store.serve request clock n).view 0))
      (handle_proceeds h.request_ne_none).visible
    rw [serve_succ, hact, hsolo, Solo.exec_concat, ← ih, Nat.zero_add]
    rfl

theorem answer_spec (store : Store) (request : Request) (clock : Nat → Clock) :
    (store.session request clock 7).response? = some (store.spec clock request).1 := by
  rw [Store.spec]
  split
  · rename_i hbinds
    have hspec := exec_meets_outcome store clock request
    rw [← serve_solo store request hbinds clock 7] at hspec
    exact hspec.1
  · rename_i hnot
    exact session_failure hnot (by omega)

theorem rows_spec (store : Store) (request : Request) (clock : Nat → Clock) :
    (store.after request clock).rows = (store.spec clock request).2 := by
  rw [Store.spec]
  split
  · rename_i hbinds
    have hspec := exec_meets_outcome store clock request
    rw [← serve_solo store request hbinds clock 7] at hspec
    exact hspec.2
  · rename_i hnot
    exact serve_failure hnot (by omega)

end IrisService.Rest
