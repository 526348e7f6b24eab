import IrisService.Rest.RequestRuns

/-! How each handler meets the constraints: what it has found in the store, and what it answers where the request
    breaks one. -/

namespace IrisService.Rest
open ReadCommitted Orders Products Customers

/-- What the handler has found is in the store. -/
def Session.Found (store : Store) : Session → Prop
  | .updateCustomer id _ (.loaded customer) | .patchCustomer id _ (.loaded customer) =>
    store.rows .customer id = some customer
  | .other (.createProduct payload .checked) => ∀ i p, store.rows .product i = some p → Product.name p ≠ payload.name
  | .other (.updateProduct productId _ (.loaded product)) => store.rows .product productId = some product
  | .other (.addLine orderId _ (.loaded _)) => store.rows .orders orderId ≠ none
  | .other (.addLine orderId payload (.priced _ _)) =>
    store.rows .orders orderId ≠ none ∧ store.rows .product payload.productId ≠ none
  | _ => True

section Found
variable {store : Store} {v : View Row} {s : Session} {clock : Clock} {now : DateTime} {S : Type} {P : S → Prop}

theorem update_all {t : Table} {id : Nat} {set : Row t → Row t} {flushed stale : S} (hflushed : P flushed)
    (hstale : P stale) : (update v t id set flushed stale).All P := by
  unfold update
  split
  · exact hflushed
  · exact hstale

theorem flushCustomer_all {id : Nat} {loaded : Customer} {name email : String} {flushed conflict stale : S}
    (hflushed : P flushed) (hconflict : P conflict) (hstale : P stale) :
    (flushCustomer v id loaded name email flushed conflict stale).All P := by
  unfold flushCustomer
  split
  · exact hflushed
  · split
    · exact hconflict
    · exact update_all hflushed hstale

theorem storeTotal_all {orderId total : Nat} {order : Order} {flushed : S} {failed : Reply → S} (hflushed : P flushed)
    (hfailed : ∀ r, P (failed r)) : (storeTotal v orderId order total now flushed failed).All P := by
  unfold storeTotal
  split
  · exact hflushed
  · split
    · exact update_all hflushed (hfailed _)
    · exact hfailed _

theorem updateCustomer_found (id : Nat) (body : CustomerCreate) (st : UpdateCustomer)
    (hreads : (Session.updateCustomer id body st).Reads store v) :
    (handle clock (.updateCustomer id body st) v).All fun s' => s'.Found store := by
  refine Action.all_map.mpr ?_
  cases st with
  | start =>
    simp only [Customers.updateCustomer]
    split
    · trivial
    · rename_i customer hrow
      rw [hreads rfl rfl] at hrow
      exact hrow
  | loaded customer => exact flushCustomer_all trivial trivial trivial
  | flushed dto => trivial
  | done r => trivial

theorem patchCustomer_found (id : Nat) (body : CustomerPatch) (st : UpdateCustomer)
    (hreads : (Session.patchCustomer id body st).Reads store v) :
    (handle clock (.patchCustomer id body st) v).All fun s' => s'.Found store := by
  refine Action.all_map.mpr ?_
  cases st with
  | start =>
    simp only [Customers.patchCustomer]
    split
    · trivial
    · rename_i customer hrow
      rw [hreads rfl rfl] at hrow
      exact hrow
  | loaded customer => exact flushCustomer_all trivial trivial trivial
  | flushed dto => trivial
  | done r => trivial

theorem createProduct_found (payload : ProductCreate) (st : CreateProduct)
    (hreads : (Session.other (.createProduct payload st)).Reads store v) :
    (handle clock (.other (.createProduct payload st)) v).All fun s' => s'.Found store := by
  refine Action.all_map.mpr (Action.all_map.mpr ?_)
  cases st with
  | start =>
    simp only [Products.createProduct]
    split
    · trivial
    · rename_i hfree
      rw [hreads rfl rfl] at hfree
      exact fun i p hrow he => hfree ((any_select store.used).mpr ⟨i, p, hrow, by simpa using he⟩)
  | checked =>
    simp only [Products.createProduct]
    split
    · trivial
    · split
      · trivial
      · exact fun _ => trivial
  | flushed id =>
    simp only [Products.createProduct]
    split <;> trivial
  | refreshed id product => trivial
  | done r => trivial

theorem updateProduct_found (productId : Nat) (payload : ProductCreate) (st : UpdateProduct)
    (hreads : (Session.other (.updateProduct productId payload st)).Reads store v) :
    (handle clock (.other (.updateProduct productId payload st)) v).All fun s' => s'.Found store := by
  refine Action.all_map.mpr (Action.all_map.mpr ?_)
  cases st with
  | start =>
    simp only [Products.updateProduct]
    split
    · trivial
    · rename_i product hrow
      rw [hreads rfl rfl] at hrow
      exact hrow
  | loaded product =>
    simp only [Products.updateProduct]
    split
    · trivial
    · split
      · trivial
      · split
        · trivial
        · exact update_all trivial trivial
  | flushed =>
    simp only [Products.updateProduct]
    split <;> trivial
  | refreshed product => trivial
  | done r => trivial

theorem addLine_found (orderId : Nat) (payload : OrderLineCreate) (st : AddLine)
    (hfound : (Session.other (.addLine orderId payload st)).Found store)
    (hreads : (Session.other (.addLine orderId payload st)).Reads store v) :
    (handle clock (.other (.addLine orderId payload st)) v).All fun s' => s'.Found store := by
  refine Action.all_map.mpr (Action.all_map.mpr ?_)
  cases st with
  | start =>
    simp only [Orders.addLine]
    split
    · trivial
    · rename_i order hrow
      rw [hreads rfl rfl] at hrow
      exact Option.ne_none_iff_exists'.mpr ⟨order, hrow⟩
  | loaded order =>
    simp only [Orders.addLine]
    split
    · trivial
    · rename_i product hrow
      rw [hreads rfl rfl] at hrow
      exact ⟨hfound, Option.ne_none_iff_exists'.mpr ⟨product, hrow⟩⟩
  | priced order product =>
    simp only [Orders.addLine]
    split
    · trivial
    · split
      · exact fun _ => trivial
      · trivial
  | flushed order id =>
    simp only [Orders.addLine]
    split <;> trivial
  | refreshed order id line => trivial
  | summed order id line total => exact storeTotal_all trivial fun _ => trivial
  | stored order id line total => trivial
  | done r => trivial

/-- What a handler finds is still there until it is flushed. -/
theorem handle_found (hfound : s.Found store) (hreads : s.Reads store v) :
    (handle clock s v).All fun s' => s'.Found store := by
  cases s with
  | updateCustomer id body st => exact updateCustomer_found id body st hreads
  | patchCustomer id body st => exact patchCustomer_found id body st hreads
  | other session =>
    cases session with
    | createProduct payload st => exact createProduct_found payload st hreads
    | updateProduct productId payload st => exact updateProduct_found productId payload st hreads
    | addLine orderId payload st => exact addLine_found orderId payload st hfound hreads
    | _ => exact Action.all_map.mpr (Action.all_map.mpr (Action.all_of_forall fun _ => trivial))
  | _ => exact Action.all_map.mpr (Action.all_of_forall fun _ => trivial)

theorem refused_found (hbinds : s.binds.all fitsInteger = false) : s.refused.Found store := by
  unfold Session.binds at hbinds
  split at hbinds
  case h_16 => cases hbinds
  all_goals trivial

theorem act_found (hfound : s.Found store) (hreads : s.Reads store v) : (act clock s v).All fun s' => s'.Found store :=
  act_of (handle_found hfound hreads) fun hbinds => refused_found hbinds

end Found

/-! ### What a broken constraint is answered with -/

section Held
variable {store : Store} {request : Request} {s : Session} {clock now : Clock} {Q : Response → Prop}

theorem handle_of_answered (clock : Clock) (v : View Row) {r : Response} (hs : s.request? ≠ none)
    (hr : s.response? = some r) : handle clock s v = .next s := by
  cases s with
  | other session =>
    cases session with
    | listLines orderId st => exact absurd rfl hs
    | mcpCreateOrder customerId st => exact absurd rfl hs
    | cancelOrder orderId st => exact absurd rfl hs
    | _ => rename_i st; cases st <;> first | rfl | cases hr
  | _ => rename_i st; cases st <;> first | rfl | cases hr

theorem act_of_answered (clock : Clock) (v : View Row) {r : Response} (hs : s.request? ≠ none)
    (hr : s.response? = some r) : act clock s v = .next s := by
  rw [act_of_binds (by rw [binds_of_answered (answer_of_response hr), Option.all_none])]
  exact handle_of_answered clock v hs hr

end Held

end IrisService.Rest
