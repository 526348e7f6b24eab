import IrisService.Orders.TotalsInv
import IrisService.Rest.Columns
import IrisService.Rest.ConstraintLaw

/-! The numbers that a request has the store write, and the columns they go to. -/

namespace IrisService.Rest
open ReadCommitted Orders Products Customers

/-! ### Payloads and columns -/

/-- The checks of the `ProductCreate` model. A price of at most 12 digits, two of them decimals, has ten before the
    point. -/
def AcceptedProduct (payload : ProductCreate) : Prop :=
  1 ≤ payload.name.length ∧ payload.name.length ≤ 255 ∧
    (∀ description, payload.description = some description → description.length ≤ 10000) ∧ payload.unitPrice < 10 ^ 12

/-- The checks of the `OrderLineCreate` model. -/
def AcceptedLine (payload : OrderLineCreate) : Prop := 0 < payload.productId ∧ 0 < payload.quantity

/-- The body passes its checks. -/
def Request.Accepted : Request → Prop
  | .createProduct payload | .updateProduct _ payload => AcceptedProduct payload
  | .addLine _ payload => AcceptedLine payload
  | _ => True

/-- No statement of the request is refused because of a number. -/
def NumbersFit (store : Store) (request : Request) : Prop :=
  ∀ clock n r, (store.session request clock n).response? = some r → r.escaped ≠ some "DBAPIError"

/-- The total that the order has with the payload's line. -/
def totalWith (store : Store) (orderId : Nat) (payload : OrderLineCreate) (product : Product) : Nat :=
  recomputedTotal store.view orderId + product.unitPrice * payload.quantity

/-- The total that the order has without the line. -/
def totalWithout (store : Store) (orderId : Nat) (line : OrderLine) : Nat :=
  recomputedTotal store.view orderId - line.unitPriceAtOrder * line.quantity

/-- The numbers that the request has to write are in range. -/
def WithinColumns (store : Store) : Request → Prop
  | .createProduct payload =>
    (∃ id p, store.rows .product id = some p ∧ Product.name p = payload.name) ∨ fitsInteger payload.stockQuantity = true
  | .updateProduct productId payload =>
    store.rows .product productId = none ∨ fitsInteger payload.stockQuantity = true
  | .addLine orderId payload => ∀ order product, store.rows .orders orderId = some order →
      store.rows .product payload.productId = some product → fitsInteger payload.quantity = true ∧
        fitsNumeric (totalWith store orderId payload product) = true
  | .deleteLine orderId lineId => ∀ line, store.rows .orderLine lineId = some line → OrderLine.orderId line = orderId →
      fitsNumeric (totalWithout store orderId line) = true
  | _ => True

/-! ### Sums after a statement -/

section Sums
variable {v : View Row} {orderId id : Nat} {line : OrderLine}

/-- A new line adds its amount. -/
theorem recomputedTotal_insert (hused : v.Used) (line : OrderLine) (hline : line.orderId = orderId) :
    recomputedTotal ⟨withRow v.rows .orderLine (v.seq .orderLine) (some line),
        Function.update v.seq .orderLine (v.seq .orderLine + 1)⟩ orderId =
      recomputedTotal v orderId + line.unitPriceAtOrder * line.quantity := by
  have hfresh : v.rows .orderLine (v.seq .orderLine) = none := by
    cases hrow : v.rows .orderLine (v.seq .orderLine) with
    | none => rfl
    | some l => exact absurd (hused _ _ l hrow) (Nat.lt_irrefl _)
  have hset := sumOf_set (c := v.rows) (w := .empty) (o := orderId) (r := some line) (Nat.lt_add_one (v.seq .orderLine))
  simp only [Writes.onto_empty, hfresh, lineAmount, hline, if_true, Nat.add_zero, sumOf_succ hfresh] at hset
  rw [recomputedTotal_eq, recomputedTotal_eq]
  simp only [Function.update_self]
  exact hset

/-- A deleted line takes its amount away. -/
theorem recomputedTotal_delete (hused : v.Used) (hrow : v.rows .orderLine id = some line) (hline : line.orderId = orderId) :
    recomputedTotal ⟨withRow v.rows .orderLine id none, v.seq⟩ orderId + line.unitPriceAtOrder * line.quantity =
      recomputedTotal v orderId := by
  have hset := sumOf_set (c := v.rows) (w := .empty) (o := orderId) (r := none) (hused .orderLine id line hrow)
  simp only [Writes.onto_empty, hrow, lineAmount, hline, if_true, Nat.add_zero] at hset
  rw [recomputedTotal_eq, recomputedTotal_eq]
  exact hset

end Sums

/-! ### What each step keeps -/

/-- An answer is an overflow exactly when a number of the request is out of range. -/
def Judges (store : Store) (request : Request) (r : Response) : Prop :=
  r.escaped = some "DBAPIError" ↔ ¬ WithinColumns store request

/-- No number has been refused. -/
def Session.Unharmed (s : Session) : Prop := ∀ r, s.response? = some r → r.escaped ≠ some "DBAPIError"

/-- What a handler that writes numbers knows where it stands. -/
def Session.Knows (store : Store) (v : View Row) : Session → Prop
  | .other (.createProduct payload st) => match st with
    | .start => True
    | .checked => ¬ ∃ id p, store.rows .product id = some p ∧ Product.name p = payload.name
    | .flushed _ | .refreshed _ _ => WithinColumns store (.createProduct payload)
    | .done r => Judges store (.createProduct payload) (.other r)
  | .other (.updateProduct productId payload st) => match st with
    | .start => True
    | .loaded product => store.rows .product productId = some product
    | .flushed | .refreshed _ => WithinColumns store (.updateProduct productId payload)
    | .done r => Judges store (.updateProduct productId payload) (.other r)
  | .other (.addLine orderId payload st) => match st with
    | .start => True
    | .loaded order => store.rows .orders orderId = some order
    | .priced order product =>
      store.rows .orders orderId = some order ∧ store.rows .product payload.productId = some product
    | .flushed order id => v.rows .orderLine id ≠ none ∧ ∃ product, store.rows .orders orderId = some order ∧
        store.rows .product payload.productId = some product ∧ fitsInteger payload.quantity = true ∧
        recomputedTotal v orderId = totalWith store orderId payload product
    | .refreshed order _ _ => ∃ product, store.rows .orders orderId = some order ∧
        store.rows .product payload.productId = some product ∧ fitsInteger payload.quantity = true ∧
        recomputedTotal v orderId = totalWith store orderId payload product
    | .summed order _ _ total => ∃ product, store.rows .orders orderId = some order ∧
        store.rows .product payload.productId = some product ∧ fitsInteger payload.quantity = true ∧
        total = totalWith store orderId payload product
    | .stored _ _ _ _ => WithinColumns store (.addLine orderId payload)
    | .done r => Judges store (.addLine orderId payload) (.other r)
  | .other (.deleteLine orderId lineId st) => match st with
    | .start => True
    | .loaded line => store.rows .orderLine lineId = some line ∧ line.orderId = orderId
    | .flushed => ∃ line, store.rows .orderLine lineId = some line ∧ line.orderId = orderId ∧
        v.rows .orders orderId = store.rows .orders orderId ∧ recomputedTotal v orderId = totalWithout store orderId line
    | .ordered order => ∃ line, store.rows .orderLine lineId = some line ∧ line.orderId = orderId ∧
        store.rows .orders orderId = some order ∧ recomputedTotal v orderId = totalWithout store orderId line
    | .summed order total => ∃ line, store.rows .orderLine lineId = some line ∧ line.orderId = orderId ∧
        store.rows .orders orderId = some order ∧ total = totalWithout store orderId line
    | .stored _ _ | .gone => WithinColumns store (.deleteLine orderId lineId)
    | .done r => Judges store (.deleteLine orderId lineId) (.other r)
  | s => s.Unharmed

section Steps
variable {store : NumericStore} {v : View Row} {now : DateTime} {clock : Clock}

theorem judges_within {request : Request} {r : Response} (hr : r.escaped ≠ some "DBAPIError")
    (h : WithinColumns store.toStore request) : Judges store.toStore request r :=
  iff_of_false hr (not_not.mpr h)

/-- The number that is refused is one of those that had to be in range. -/
theorem judges_beyond {request : Request} {r : Response} {fits : Bool} (hr : r.escaped = some "DBAPIError")
    (hover : fits = false) (h : WithinColumns store.toStore request → fits = true) : Judges store.toStore request r := by
  refine iff_of_true hr fun hwithin => ?_
  rw [h hwithin] at hover
  cases hover

theorem createProduct_knows (payload : ProductCreate) (haccepted : AcceptedProduct payload) (st : CreateProduct)
    (hreads : (Session.other (.createProduct payload st)).Reads store.toStore v)
    (h : (Session.other (.createProduct payload st)).Knows store.toStore v) :
    (handle clock (.other (.createProduct payload st)) v).Leads (fun s v => s.Knows store.toStore v) v := by
  have hprice : fitsNumeric payload.unitPrice = true := decide_eq_true haccepted.2.2.2
  cases st with
  | start =>
    simp only [handle, Orders.act, Products.createProduct, hreads rfl rfl]
    split
    · rename_i htaken
      obtain ⟨id, p, hrow, hname⟩ := (any_select store.used).mp htaken
      exact fun _ => judges_within (by simp [Response.escaped]) (Or.inl ⟨id, p, hrow, by simpa using hname⟩)
    · rename_i hfree
      rintro ⟨id, p, hrow, hname⟩
      exact hfree ((any_select store.used).mpr ⟨id, p, hrow, by simpa using hname⟩)
  | checked =>
    simp only [handle, Orders.act, Products.createProduct, hprice]
    cases hstock : fitsInteger payload.stockQuantity with
    | false => exact fun _ => judges_beyond rfl hstock fun hwithin => hwithin.resolve_left h
    | true =>
      simp only [Bool.not_true, Bool.or_self, Bool.false_eq_true, if_false]
      split
      · exact fun _ => judges_within (by simp [Response.escaped]) (Or.inr hstock)
      · exact Or.inr hstock
  | flushed id =>
    simp only [handle, Orders.act, Products.createProduct]
    split
    · exact h
    · exact fun _ => judges_within (by simp [Response.escaped, notRefreshed]) h
  | refreshed id product => exact judges_within (by simp [Response.escaped]) h
  | done r => exact h

theorem updateProduct_knows (productId : Nat) (payload : ProductCreate) (haccepted : AcceptedProduct payload)
    (st : UpdateProduct) (hreads : (Session.other (.updateProduct productId payload st)).Reads store.toStore v)
    (h : (Session.other (.updateProduct productId payload st)).Knows store.toStore v) :
    (handle clock (.other (.updateProduct productId payload st)) v).Leads (fun s v => s.Knows store.toStore v) v := by
  have hprice : fitsNumeric payload.unitPrice = true := decide_eq_true haccepted.2.2.2
  cases st with
  | start =>
    simp only [handle, Orders.act, Products.updateProduct, hreads rfl rfl]
    split
    · rename_i hnone
      exact fun _ => judges_within (by simp [Response.escaped, notFound]) (Or.inl hnone)
    · rename_i product hrow
      exact hrow
  | loaded product =>
    simp only [handle, Orders.act, Products.updateProduct, hprice]
    split
    · -- Nothing is written, and the stock of a stored product is in range.
      rename_i hsame
      simp only [unchanged, Bool.and_eq_true, decide_eq_true_eq] at hsame
      refine Or.inr ?_
      rw [hsame.2]
      exact (store.fits _ _ _ h).1
    · cases hstock : fitsInteger payload.stockQuantity with
      | false =>
        have hfound : store.rows .product productId ≠ none := by
          rw [show store.rows .product productId = some product from h]
          simp
        exact fun _ => judges_beyond rfl hstock fun hwithin => hwithin.resolve_left hfound
      | true =>
        simp only [Bool.not_true, Bool.or_self, Bool.false_eq_true, if_false]
        split
        · exact fun _ => judges_within (by simp [Response.escaped]) (Or.inr hstock)
        · unfold update
          split
          · exact Or.inr hstock
          · exact fun _ => judges_within (by simp [Response.escaped, staleData]) (Or.inr hstock)
  | flushed =>
    simp only [handle, Orders.act, Products.updateProduct]
    split
    · exact h
    · exact fun _ => judges_within (by simp [Response.escaped, notRefreshed]) h
  | refreshed product => exact judges_within (by simp [Response.escaped]) h
  | done r => exact h

/-- The new total is stored, or it is refused because it is out of range. -/
theorem storeTotal_leads {S : Type} {P : S → View Row → Prop} {orderId total : Nat} {order : Order} {flushed : S}
    {failed : Reply → S} (hsame : fitsNumeric order.totalAmount = true)
    (hstored : fitsNumeric total = true → ∀ v', P flushed v')
    (hstale : fitsNumeric total = true → ∀ v', P (failed staleData) v')
    (hrefused : fitsNumeric total = false → ∀ v', P (failed (.raised "DBAPIError")) v') :
    (storeTotal v orderId order total now flushed failed).Leads P v := by
  unfold storeTotal
  split
  · rename_i heq
    exact hstored (heq ▸ hsame) v
  · split
    · rename_i hfits
      unfold update
      split
      · exact hstored hfits _
      · exact hstale hfits
    · rename_i hover
      exact hrefused (Bool.eq_false_iff.mpr hover)

theorem addLine_knows (orderId : Nat) (payload : OrderLineCreate) (st : AddLine) (hused : v.Used)
    (hreads : (Session.other (.addLine orderId payload st)).Reads store.toStore v)
    (h : (Session.other (.addLine orderId payload st)).Knows store.toStore v) :
    (handle clock (.other (.addLine orderId payload st)) v).Leads (fun s v => s.Knows store.toStore v) v := by
  cases st with
  | start =>
    simp only [handle, Orders.act, Orders.addLine, hreads rfl rfl]
    split
    · rename_i hnone
      refine fun _ => judges_within (by simp [Response.escaped, notFound]) fun order product horder => ?_
      rw [show store.rows .orders orderId = none from hnone] at horder
      cases horder
    · rename_i order hrow
      exact hrow
  | loaded order =>
    simp only [handle, Orders.act, Orders.addLine, hreads rfl rfl]
    split
    · rename_i hnone
      refine fun _ => judges_within (by simp [Response.escaped]) fun order product _ hproduct => ?_
      rw [show store.rows .product payload.productId = none from hnone] at hproduct
      cases hproduct
    · rename_i product hrow
      exact ⟨h, hrow⟩
  | priced order product =>
    obtain ⟨horder, hproduct⟩ := h
    have hview : v = store.view := hreads rfl rfl
    simp only [handle, Orders.act, Orders.addLine]
    cases hquantity : fitsInteger payload.quantity with
    | false => exact fun _ => judges_beyond rfl hquantity fun hwithin => (hwithin order product horder hproduct).1
    | true =>
      have horder' : v.rows .orders orderId = some order := by rw [hview]; exact horder
      have hproduct' : v.rows .product payload.productId = some product := by rw [hview]; exact hproduct
      rw [if_neg (by simp), if_pos (by rw [horder', hproduct']; rfl)]
      refine ⟨?_, product, horder, hproduct, hquantity, ?_⟩
      · show withRow v.rows .orderLine _ _ .orderLine _ ≠ none
        simp
      · have hinsert := recomputedTotal_insert hused (newLine orderId payload product clock.now) rfl
        rw [hview] at hinsert ⊢
        exact hinsert
  | flushed order id =>
    obtain ⟨hrow, hknown⟩ := h
    simp only [handle, Orders.act, Orders.addLine]
    split
    · exact hknown
    · rename_i hnone
      exact absurd hnone hrow
  | refreshed order id line =>
    obtain ⟨product, horder, hproduct, hquantity, htotal⟩ := h
    exact ⟨product, horder, hproduct, hquantity, htotal⟩
  | summed order id line total =>
    obtain ⟨product, horder, hproduct, hquantity, rfl⟩ := h
    have hwithin : fitsNumeric (totalWith store.toStore orderId payload product) = true →
        WithinColumns store.toStore (.addLine orderId payload) := by
      intro hfits order' product' horder' hproduct'
      rw [hproduct] at hproduct'
      cases hproduct'
      exact ⟨hquantity, hfits⟩
    refine Action.leads_map.mpr (Action.leads_map.mpr (storeTotal_leads (store.fits _ _ _ horder) ?_ ?_ ?_))
    · exact fun hfits _ => hwithin hfits
    · exact fun hfits _ => judges_within (by simp [Response.escaped, staleData]) (hwithin hfits)
    · exact fun hover _ => judges_beyond rfl hover fun hwithin => (hwithin order product horder hproduct).2
  | stored order id line total => exact judges_within (by simp [Response.escaped]) h
  | done r => exact h

theorem deleteLine_knows (orderId lineId : Nat) (st : DeleteLine) (hused : v.Used)
    (hreads : (Session.other (.deleteLine orderId lineId st)).Reads store.toStore v)
    (h : (Session.other (.deleteLine orderId lineId st)).Knows store.toStore v) :
    (handle clock (.other (.deleteLine orderId lineId st)) v).Leads (fun s v => s.Knows store.toStore v) v := by
  cases st with
  | start =>
    simp only [handle, Orders.act, Orders.deleteLine, hreads rfl rfl]
    split
    · rename_i hnone
      refine fun _ => judges_within (by simp [Response.escaped, notFound]) fun line hline => ?_
      rw [show store.rows .orderLine lineId = none from hnone] at hline
      cases hline
    · rename_i line hrow
      split
      · rename_i hother
        refine fun _ => judges_within (by simp [Response.escaped, notFound]) fun line' hline' horder => ?_
        rw [show store.rows .orderLine lineId = some line from hrow] at hline'
        cases hline'
        exact absurd horder hother
      · rename_i hsame
        exact ⟨hrow, not_not.mp hsame⟩
  | loaded line =>
    obtain ⟨hrow, horder⟩ := h
    have hview : v = store.view := hreads rfl rfl
    have hrow' : v.rows .orderLine lineId = some line := by rw [hview]; exact hrow
    simp only [handle, Orders.act, Orders.deleteLine, hrow']
    refine ⟨line, hrow, horder, ?_, ?_⟩
    · show withRow v.rows .orderLine lineId none .orders orderId = _
      rw [withRow_of_table_ne (by decide), hview]
      rfl
    · have hdelete := recomputedTotal_delete hused hrow' horder
      rw [hview] at hdelete ⊢
      exact (Nat.sub_eq_of_eq_add hdelete.symm).symm
  | flushed =>
    obtain ⟨line, hrow, horder, horders, htotal⟩ := h
    simp only [handle, Orders.act, Orders.deleteLine]
    split
    · rename_i order hfound
      exact ⟨line, hrow, horder, horders.symm.trans hfound, htotal⟩
    · -- `fk_order_line_order` keeps the order of a line.
      rename_i hnone
      refine absurd (horders.symm.trans hnone) ?_
      rw [← horder]
      exact store.migrated.lineOrder lineId line hrow
  | ordered order =>
    obtain ⟨line, hrow, horder, hfound, htotal⟩ := h
    exact ⟨line, hrow, horder, hfound, htotal⟩
  | summed order total =>
    obtain ⟨line, hrow, horder, hfound, rfl⟩ := h
    have hwithin : fitsNumeric (totalWithout store.toStore orderId line) = true →
        WithinColumns store.toStore (.deleteLine orderId lineId) := by
      intro hfits line' hrow' _
      rw [hrow] at hrow'
      cases hrow'
      exact hfits
    refine Action.leads_map.mpr (Action.leads_map.mpr (storeTotal_leads (store.fits _ _ _ hfound) ?_ ?_ ?_))
    · exact fun hfits _ => hwithin hfits
    · exact fun hfits _ => judges_within (by simp [Response.escaped, staleData]) (hwithin hfits)
    · exact fun hover _ => judges_beyond rfl hover fun hwithin => hwithin line hrow horder
  | stored order total => exact judges_within (by simp [Response.escaped]) h
  | gone => exact judges_within (by simp [Response.escaped]) h
  | done r => exact h

theorem unharmed_of_unanswered {s : Session} (h : s.response? = none) : s.Unharmed := by
  intro r hr
  rw [h] at hr
  cases hr

theorem unharmed_of_answer {s : Session} {r : Response} (h : s.response? = some r) (hr : r.escaped ≠ some "DBAPIError") :
    s.Unharmed := by
  intro r' hr'
  rw [h] at hr'
  cases hr'
  exact hr

theorem createCustomer_knows (body : CustomerCreate) (st : Create)
    (h : (Session.createCustomer body st).Knows store.toStore v) :
    (handle clock (.createCustomer body st) v).Leads (fun s v => s.Knows store.toStore v) v := by
  refine Action.leads_map.mpr (Action.All.leads (P := fun st => (Session.createCustomer body st).Unharmed) ?_)
  cases st with
  | start =>
    simp only [Customers.createCustomer]
    split
    · exact unharmed_of_answer rfl (by simp [Response.escaped])
    · exact fun _ => unharmed_of_unanswered rfl
  | published dto => exact unharmed_of_answer rfl (by simp [Response.escaped])
  | done a => exact h
  | _ => exact unharmed_of_unanswered rfl

/-- A flushed customer is answered by a conflict or by an exception of the ORM, if at all. -/
theorem flushCustomer_unharmed {S : Type} {f : S → Session} {id : Nat} {loaded : Customer} {name email : String}
    {flushed conflict stale : S} {exc : HTTPException} (hopen : (f flushed).response? = none)
    (hconflict : (f conflict).response? = some (.customer (.http exc)))
    (hstale : (f stale).response? = some (.customer (.raised "StaleDataError"))) :
    (flushCustomer v id loaded name email flushed conflict stale).All fun s => (f s).Unharmed := by
  refine flushCustomer_all (unharmed_of_unanswered hopen) (unharmed_of_answer hconflict ?_) (unharmed_of_answer hstale ?_)
  · simp [Response.escaped]
  · simp [Response.escaped]

theorem updateCustomer_knows (id : Nat) (body : CustomerCreate) (st : UpdateCustomer)
    (h : (Session.updateCustomer id body st).Knows store.toStore v) :
    (handle clock (.updateCustomer id body st) v).Leads (fun s v => s.Knows store.toStore v) v := by
  refine Action.leads_map.mpr (Action.All.leads (P := fun st => (Session.updateCustomer id body st).Unharmed) ?_)
  cases st with
  | start =>
    simp only [Customers.updateCustomer]
    split
    · exact unharmed_of_answer rfl (by simp [Response.escaped, customerNotFound])
    · exact unharmed_of_unanswered rfl
  | loaded customer => exact flushCustomer_unharmed rfl rfl rfl
  | flushed dto => exact unharmed_of_answer rfl (by simp [Response.escaped])
  | done r => exact h

theorem patchCustomer_knows (id : Nat) (body : CustomerPatch) (st : UpdateCustomer)
    (h : (Session.patchCustomer id body st).Knows store.toStore v) :
    (handle clock (.patchCustomer id body st) v).Leads (fun s v => s.Knows store.toStore v) v := by
  refine Action.leads_map.mpr (Action.All.leads (P := fun st => (Session.patchCustomer id body st).Unharmed) ?_)
  cases st with
  | start =>
    simp only [Customers.patchCustomer]
    split
    · exact unharmed_of_answer rfl (by simp [Response.escaped, customerNotFound])
    · exact unharmed_of_unanswered rfl
  | loaded customer => exact flushCustomer_unharmed rfl rfl rfl
  | flushed dto => exact unharmed_of_answer rfl (by simp [Response.escaped])
  | done r => exact h

theorem deleteCustomer_knows (id : Nat) (st : DeleteCustomer)
    (h : (Session.deleteCustomer id st).Knows store.toStore v) :
    (handle clock (.deleteCustomer id st) v).Leads (fun s v => s.Knows store.toStore v) v := by
  refine Action.leads_map.mpr (Action.All.leads (P := fun st => (Session.deleteCustomer id st).Unharmed) ?_)
  cases st with
  | start =>
    simp only [Customers.deleteCustomer]
    split
    · exact unharmed_of_answer rfl (by simp [Response.escaped, customerNotFound])
    · exact unharmed_of_unanswered rfl
  | loaded =>
    simp only [Customers.deleteCustomer]
    split
    · exact unharmed_of_answer rfl (by simp [Response.escaped])
    · split <;> exact unharmed_of_unanswered rfl
  | flushed => exact unharmed_of_answer rfl (by simp [Response.escaped])
  | done r => exact h

theorem deleteProduct_knows (productId : Nat) (st : DeleteProduct)
    (h : (Session.deleteProduct productId st).Knows store.toStore v) :
    (handle clock (.deleteProduct productId st) v).Leads (fun s v => s.Knows store.toStore v) v := by
  refine Action.leads_map.mpr (Action.All.leads (P := fun st => (Session.deleteProduct productId st).Unharmed) ?_)
  cases st with
  | start =>
    simp only [Products.deleteProduct]
    split
    · exact unharmed_of_answer rfl (by simp [Response.escaped, notFound])
    · exact unharmed_of_unanswered rfl
  | loaded =>
    simp only [Products.deleteProduct]
    split
    · exact unharmed_of_answer rfl (by simp [Response.escaped])
    · split <;> exact unharmed_of_unanswered rfl
  | flushed => exact unharmed_of_answer rfl (by simp [Response.escaped])
  | done r => exact h

theorem createOrder_knows (customerId : Nat) (st : CreateOrder)
    (h : (Session.other (.createOrder customerId st)).Knows store.toStore v) :
    (handle clock (.other (.createOrder customerId st)) v).Leads (fun s v => s.Knows store.toStore v) v := by
  refine Action.leads_map.mpr (Action.leads_map.mpr (Action.All.leads
    (P := fun st => (Session.other (.createOrder customerId st)).Unharmed) ?_))
  cases st with
  | start =>
    simp only [Orders.createOrder]
    split
    · exact fun _ => unharmed_of_unanswered rfl
    · exact unharmed_of_answer rfl (by simp [Response.escaped])
  | flushed id =>
    simp only [Orders.createOrder]
    split
    · exact unharmed_of_unanswered rfl
    · exact unharmed_of_answer rfl (by simp [Response.escaped, notRefreshed])
  | refreshed id order => exact unharmed_of_answer rfl (by simp [Response.escaped])
  | done r => exact h

theorem updateOrderStatus_knows (orderId : Nat) (status : OrderStatus) (st : UpdateOrderStatus)
    (h : (Session.other (.updateOrderStatus orderId status st)).Knows store.toStore v) :
    (handle clock (.other (.updateOrderStatus orderId status st)) v).Leads (fun s v => s.Knows store.toStore v) v := by
  refine Action.leads_map.mpr (Action.leads_map.mpr (Action.All.leads
    (P := fun st => (Session.other (.updateOrderStatus orderId status st)).Unharmed) ?_))
  cases st with
  | start =>
    simp only [Orders.updateOrderStatus]
    split
    · exact unharmed_of_answer rfl (by simp [Response.escaped, notFound])
    · split
      · exact unharmed_of_unanswered rfl
      · exact unharmed_of_answer rfl (by simp [Response.escaped])
  | checked order =>
    simp only [Orders.updateOrderStatus]
    split
    · exact unharmed_of_unanswered rfl
    · exact update_all (unharmed_of_unanswered rfl) (unharmed_of_answer rfl (by simp [Response.escaped, staleData]))
  | flushed order =>
    simp only [Orders.updateOrderStatus]
    split
    · exact unharmed_of_unanswered rfl
    · exact unharmed_of_answer rfl (by simp [Response.escaped, notRefreshed])
  | refreshed order saved => exact unharmed_of_answer rfl (by simp [Response.escaped])
  | done r => exact h

theorem deleteOrder_knows (orderId : Nat) (st : DeleteOrder)
    (h : (Session.other (.deleteOrder orderId st)).Knows store.toStore v) :
    (handle clock (.other (.deleteOrder orderId st)) v).Leads (fun s v => s.Knows store.toStore v) v := by
  refine Action.leads_map.mpr (Action.leads_map.mpr (Action.All.leads
    (P := fun st => (Session.other (.deleteOrder orderId st)).Unharmed) ?_))
  cases st with
  | start =>
    simp only [Orders.deleteOrder]
    split
    · exact unharmed_of_answer rfl (by simp [Response.escaped, notFound])
    · exact unharmed_of_unanswered rfl
  | loaded =>
    simp only [Orders.deleteOrder]
    split <;> exact unharmed_of_unanswered rfl
  | flushed => exact unharmed_of_answer rfl (by simp [Response.escaped])
  | done r => exact h

theorem updateLineStatus_knows (orderId lineId : Nat) (payload : OrderLineStatusUpdate) (st : UpdateLineStatus)
    (h : (Session.other (.updateLineStatus orderId lineId payload st)).Knows store.toStore v) :
    (handle clock (.other (.updateLineStatus orderId lineId payload st)) v).Leads
      (fun s v => s.Knows store.toStore v) v := by
  refine Action.leads_map.mpr (Action.leads_map.mpr (Action.All.leads
    (P := fun st => (Session.other (.updateLineStatus orderId lineId payload st)).Unharmed) ?_))
  cases st with
  | start =>
    simp only [Orders.updateLineStatus]
    split
    · exact unharmed_of_answer rfl (by simp [Response.escaped, notFound])
    · split
      · exact unharmed_of_answer rfl (by simp [Response.escaped, notFound])
      · split
        · exact unharmed_of_unanswered rfl
        · exact unharmed_of_answer rfl (by simp [Response.escaped])
  | checked line =>
    simp only [Orders.updateLineStatus]
    split
    · exact unharmed_of_unanswered rfl
    · exact update_all (unharmed_of_unanswered rfl) (unharmed_of_answer rfl (by simp [Response.escaped, staleData]))
  | flushed line =>
    simp only [Orders.updateLineStatus]
    split
    · exact unharmed_of_unanswered rfl
    · exact unharmed_of_answer rfl (by simp [Response.escaped, notRefreshed])
  | refreshed line saved => exact unharmed_of_answer rfl (by simp [Response.escaped])
  | done r => exact h

theorem handle_knows {s : Session} {request : Request} (hs : s.request? = some request) (haccepted : request.Accepted)
    (hused : v.Used) (hreads : s.Reads store.toStore v) (h : s.Knows store.toStore v) :
    (handle clock s v).Leads (fun s v => s.Knows store.toStore v) v := by
  cases s with
  | createCustomer body st => exact createCustomer_knows body st h
  | updateCustomer id body st => exact updateCustomer_knows id body st h
  | patchCustomer id body st => exact patchCustomer_knows id body st h
  | deleteCustomer id st => exact deleteCustomer_knows id st h
  | deleteProduct productId st => exact deleteProduct_knows productId st h
  | other session =>
    cases session with
    | createOrder customerId st => exact createOrder_knows customerId st h
    | updateOrderStatus orderId status st => exact updateOrderStatus_knows orderId status st h
    | deleteOrder orderId st => exact deleteOrder_knows orderId st h
    | addLine orderId payload st => exact addLine_knows orderId payload st hused hreads h
    | updateLineStatus orderId lineId payload st => exact updateLineStatus_knows orderId lineId payload st h
    | deleteLine orderId lineId st => exact deleteLine_knows orderId lineId st hused hreads h
    | createProduct payload st =>
      cases hs
      exact createProduct_knows payload haccepted st hreads h
    | updateProduct productId payload st =>
      cases hs
      exact updateProduct_knows productId payload haccepted st hreads h
    | _ => cases hs

end Steps

/-! ### Whole requests -/

section Served
variable {store : NumericStore} {request : Request}

theorem session_knows (haccepted : request.Accepted) (hbinds : store.Binds request) (clock : Nat → Clock) (n : Nat) :
    (store.session request clock n).Knows store.toStore ((store.serve request clock n).view 0) := by
  induction n with
  | zero =>
    cases request with
    | createProduct payload => trivial
    | updateProduct productId payload => trivial
    | addLine orderId payload => trivial
    | deleteLine orderId lineId => trivial
    | _ => exact unharmed_of_unanswered rfl
  | succ n ih =>
    have h := serving store.toStore request clock n
    have hact : act (clock n) (store.session request clock n) ((store.serve request clock n).view 0) =
        handle (clock n) (store.session request clock n) ((store.serve request clock n).view 0) :=
      act_of_fits hbinds h.request (session_found clock n) _ _
    rw [Store.session, serve_succ, hact]
    exact h.alone.perform_leads (handle_proceeds h.request_ne_none).visible
      (handle_knows h.request haccepted (h.alone.wf.used 0) h.reads ih)

theorem judges_of_knows {s : Session} {v : View Row} {r : Response} (hs : s.request? = some request)
    (h : s.Knows store.toStore v) (hr : s.response? = some r) : Judges store.toStore request r := by
  cases s with
  | other session =>
    cases session with
    | createProduct payload st =>
      cases st <;> cases hr
      cases hs
      exact h
    | updateProduct productId payload st =>
      cases st <;> cases hr
      cases hs
      exact h
    | addLine orderId payload st =>
      cases st <;> cases hr
      cases hs
      exact h
    | deleteLine orderId lineId st =>
      cases st <;> cases hr
      cases hs
      exact h
    | _ =>
      cases hs <;> exact judges_within (h r hr) trivial
  | _ =>
    cases hs
    exact judges_within (h r hr) trivial

end Served

/-- An accepted request ends in a numeric overflow exactly when an id of it, a quantity, a stock or the total of its
    order leaves the range of its column. -/
theorem numbers_fit_iff (store : NumericStore) (request : Request) (haccepted : request.Accepted) :
    NumbersFit store.toStore request ↔ store.Binds request ∧ WithinColumns store.toStore request := by
  have hjudges : store.Binds request → ∀ clock n r, (store.session request clock n).response? = some r →
      Judges store.toStore request r := fun hbinds clock n r hr =>
    judges_of_knows (serving store.toStore request clock n).request (session_knows haccepted hbinds clock n) hr
  constructor
  · intro hfit
    have hbinds : store.Binds request := by
      by_contra hnot
      exact hfit ticks 2 _ (session_failure hnot (Nat.le_refl 2)) request.failure_escaped
    refine ⟨hbinds, ?_⟩
    by_contra hout
    obtain ⟨r, hr⟩ := answered store.toStore request ticks (Nat.le_refl 7)
    exact hfit ticks 7 r hr ((hjudges hbinds ticks 7 r hr).mpr hout)
  · rintro ⟨hbinds, hwithin⟩ clock n r hr hescaped
    exact (hjudges hbinds clock n r hr).mp hescaped hwithin

/-! ### An order of one product -/

theorem blank_fresh (t : Table) (id : Nat) (_ : 1 ≤ id) : (none : Option (Row t)) = none := rfl

theorem blank_fits (t : Table) (_ : Nat) (row : Row t) (h : none = some row) : Fits t row :=
  absurd h.symm (Option.some_ne_none row)

/-- The migrated schema without rows; the sequences start at 1. -/
def NumericStore.blank : NumericStore where
  rows := fun _ _ => none
  seq := fun _ => 1
  fresh := blank_fresh
  migrated := Store.empty.migrated
  fits := blank_fits

/-- A customer with an empty order, and a product at 9.99. -/
def NumericStore.stocked : NumericStore :=
  ((blank.after (.createCustomer ⟨"Ada", "ada@example.org"⟩) ticks).after
    (.createProduct ⟨"Widget", none, 999, 10⟩) ticks).after (.createOrder 1) ticks

theorem within_addLine {store : Store} {orderId : Nat} {payload : OrderLineCreate} (product : Product)
    (hproduct : store.rows .product payload.productId = some product) (hquantity : fitsInteger payload.quantity = true)
    (htotal : fitsNumeric (totalWith store orderId payload product) = true) :
    WithinColumns store (.addLine orderId payload) := by
  intro order product' _ hproduct'
  rw [hproduct] at hproduct'
  cases hproduct'
  exact ⟨hquantity, htotal⟩

/-- Two widgets on the order. -/
theorem stocked_numbers_fit : NumbersFit NumericStore.stocked.toStore (.addLine 1 ⟨1, 2⟩) :=
  (numbers_fit_iff .stocked (.addLine 1 ⟨1, 2⟩) ⟨by decide, by decide⟩).mpr ⟨⟨rfl, fun _ => rfl⟩,
    within_addLine ⟨"Widget", none, 999, 10, (ticks 1).now, (ticks 1).next⟩ (by decide +kernel) rfl (by decide +kernel)⟩

/-- `POST /orders/1/lines` with a quantity of 2³¹ is accepted, and lets the driver's exception through. -/
theorem quantity_overflows : (Request.addLine 1 ⟨1, 2147483648⟩).Accepted ∧
    ¬NumbersFit NumericStore.stocked.toStore (.addLine 1 ⟨1, 2147483648⟩) := by
  refine ⟨⟨by decide, by decide⟩, fun hfit => ?_⟩
  have hraised : ((NumericStore.stocked.session (.addLine 1 ⟨1, 2147483648⟩) ticks 3).response?.map
      Response.escaped) = some (some "DBAPIError") := by decide +kernel
  obtain ⟨r, hr, hescaped⟩ := Option.map_eq_some_iff.mp hraised
  exact hfit ticks 3 r hr hescaped

end IrisService.Rest
