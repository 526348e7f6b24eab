import IrisService.Rest.Conflicts

/-! Requests with an id that does not fit `INTEGER`: the driver refuses the statement that binds it, and the request
    ends in its exception. -/

namespace IrisService.Rest
open ReadCommitted Orders

/-- The ids of the request that its handler comes to bind are in the range of `INTEGER`. -/
def Store.Binds (store : Store) : Request → Prop
  | .createCustomer _ | .createProduct _ => True
  | .updateCustomer id _ | .patchCustomer id _ | .deleteCustomer id => fitsInteger id = true
  | .updateProduct productId _ | .deleteProduct productId => fitsInteger productId = true
  | .createOrder customerId => fitsInteger customerId = true
  | .updateOrderStatus orderId _ | .deleteOrder orderId => fitsInteger orderId = true
  -- The product is looked up once the order is found.
  | .addLine orderId payload =>
    fitsInteger orderId = true ∧ (store.rows .orders orderId ≠ none → fitsInteger payload.productId = true)
  -- The order is that of the line, and is looked up by the line's own `order_id`.
  | .updateLineStatus _ lineId _ | .deleteLine _ lineId => fitsInteger lineId = true

instance (store : Store) : (request : Request) → Decidable (store.Binds request)
  | .createCustomer _ | .createProduct _ => inferInstanceAs (Decidable True)
  | .updateCustomer _ _ | .patchCustomer _ _ | .deleteCustomer _ | .updateProduct _ _ | .deleteProduct _ | .createOrder _
  | .updateOrderStatus _ _ | .deleteOrder _ | .updateLineStatus _ _ _ | .deleteLine _ _ =>
    inferInstanceAs (Decidable (_ = true))
  | .addLine orderId _ => inferInstanceAs (Decidable (_ ∧ (store.rows .orders orderId ≠ none → _)))

section Driver
variable {store : Store} {request : Request} {clock : Nat → Clock} {n : Nat} {s : Session}

theorem session_succ : store.session request clock (n + 1) = (((store.serve request clock n).perform 0
    (act (clock n) (store.session request clock n) ((store.serve request clock n).view 0))).client 0).state := by
  rw [Store.session, serve_succ]

theorem session_found (clock : Nat → Clock) (n : Nat) : (store.session request clock n).Found store := by
  refine session_induction store request clock ?_ (fun n hfound => ?_) n
  · cases request <;> trivial
  · exact act_found hfound (serving store request clock n).reads

theorem session_answered {r : Response} (hr : (store.session request clock n).response? = some r) :
    store.session request clock (n + 1) = store.session request clock n := by
  have hact : act (clock n) (store.session request clock n) ((store.serve request clock n).view 0) =
      .next (store.session request clock n) :=
    act_of_answered _ _ (serving store request clock n).request_ne_none hr
  rw [session_succ, hact]
  simp only [Db.perform, Function.update_self]

/-- An answer is the last one. -/
theorem session_stays {r : Response} (hr : (store.session request clock n).response? = some r) {m : Nat} (hm : n ≤ m) :
    (store.session request clock m).response? = some r := by
  induction m, hm using Nat.le_induction with
  | base => exact hr
  | succ m _ ih => rw [session_answered ih, ih]

/-! ### Ids in range -/

theorem binds_fits (hs : s.request? = some request) (hfound : s.Found store) (h : store.Binds request) :
    s.binds.all fitsInteger = true := by
  unfold Session.binds
  split
  case h_13 orderId payload order =>
    cases hs
    exact h.2 hfound
  case h_12 orderId payload =>
    cases hs
    exact h.1
  case h_16 => rfl
  all_goals
    cases hs
    try exact h

/-- The driver lets every statement of such a request through. -/
theorem act_of_fits (h : store.Binds request) (hs : s.request? = some request) (hfound : s.Found store) (now : Clock)
    (v : View Row) : act now s v = handle now s v := act_of_binds (binds_fits hs hfound h)

/-! ### Ids out of range -/

/-- The statement that binds such an id is refused. -/
theorem session_refused (h : (store.session request clock n).binds.all fitsInteger = false) :
    (store.session request clock (n + 1)).response? = some request.failure := by
  rw [session_succ, act_of_not_binds h]
  simp only [Db.perform, Db.finish, Function.update_self]
  exact (refused_ends (serving store request clock n).request h).response

theorem session_loaded {orderId : Nat} {payload : OrderLineCreate} {order : Order} (hbinds : fitsInteger orderId = true)
    (hrow : store.rows .orders orderId = some order) :
    store.session (.addLine orderId payload) clock 1 = .other (.addLine orderId payload (.loaded order)) := by
  have hact : act (clock 0) (.other (.addLine orderId payload .start)) store.view =
      .next (.other (.addLine orderId payload (.loaded order))) := by
    refine (if_pos hbinds).trans ?_
    simp only [handle, Orders.act, Orders.addLine]
    rw [show store.view.rows .orders orderId = some order from hrow]
    rfl
  rw [session_succ]
  show ((Db.perform _ 0 (act (clock 0) (.other (.addLine orderId payload .start)) store.view)).client 0).state = _
  rw [hact]
  simp only [Db.perform, Function.update_self]

/-- A request that does not bind is answered with the driver's exception. -/
theorem session_failure (h : ¬store.Binds request) (hn : 2 ≤ n) :
    (store.session request clock n).response? = some request.failure := by
  -- The path holds an id that does not fit, unless it is the product of a line.
  have hfirst : request.open.binds.all fitsInteger = false →
      (store.session request clock n).response? = some request.failure :=
    fun hpath => session_stays (session_refused (n := 0) hpath) (by omega)
  cases request with
  | createCustomer body => exact absurd trivial h
  | createProduct payload => exact absurd trivial h
  | addLine orderId payload =>
    cases horder : fitsInteger orderId with
    | false => exact hfirst horder
    | true =>
      simp only [Store.Binds, horder, true_and, Classical.not_imp, Bool.not_eq_true] at h
      obtain ⟨hrow, hproduct⟩ := h
      obtain ⟨order, hrow⟩ := Option.ne_none_iff_exists'.mp hrow
      refine session_stays (session_refused (n := 1) ?_) hn
      rw [session_loaded horder hrow]
      exact hproduct
  | _ => exact hfirst (Bool.eq_false_iff.mpr h)

/-- It leaves the committed rows as they were. -/
theorem serve_failure (h : ¬store.Binds request) (hn : 2 ≤ n) : (store.serve request clock n).committed = store.rows := by
  refine (serving store request clock n).unchanged fun r hr => ?_
  have hsame : some request.failure = some r := (session_failure h hn).symm.trans hr
  cases hsame
  exact request.failure_failed

end Driver

end IrisService.Rest
