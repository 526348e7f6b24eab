import IrisService.Orders.StatusWrites
import IrisService.Orders.TotalsRuns

/-! What a line keeps of its order and its product: the identities, the quantity and the price of the moment. -/

namespace IrisService.Orders
open ReadCommitted Db Products Runs

/-- What `add_line` fixes about a line. -/
structure Snapshot where
  orderId : Nat
  productId : Nat
  quantity : Nat
  unitPriceAtOrder : Nat
  deriving DecidableEq, Repr

/-- What a line never changes. -/
def snapshot (line : OrderLine) : Snapshot := ⟨line.orderId, line.productId, line.quantity, line.unitPriceAtOrder⟩

/-! ### The steps that write a line -/

section Steps
variable {e : Env} {v : View Row} {s s' : Session} {id : Nat}

/-- No UPDATE of a line touches its snapshot. -/
theorem act_keeps_snapshot : (act e s v).Keeps .orderLine snapshot v := by
  cases s with
  | createOrder customerId st =>
    cases st <;> simp only [act, createOrder] <;> (repeat' split) <;> trivial
  | updateOrderStatus o status st =>
    cases st <;> simp only [act, updateOrderStatus, update] <;> (repeat' split)
    all_goals simp [Action.map, Action.Keeps]
  | deleteOrder o st =>
    cases st <;> simp only [act, deleteOrder] <;> (repeat' split)
    all_goals simp [Action.map, Action.Keeps]
  | listLines o st => cases st <;> trivial
  | addLine o payload st =>
    cases st <;> simp only [act, addLine, storeTotal, update] <;> (repeat' split)
    all_goals simp [Action.map, Action.Keeps]
  | updateLineStatus o id payload st =>
    cases st <;> simp only [act, updateLineStatus, update] <;> (repeat' split)
    all_goals simp_all [Action.map, Action.Keeps, snapshot]
  | deleteLine o id st =>
    cases st <;> simp only [act, deleteLine, storeTotal, update] <;> (repeat' split)
    all_goals simp [Action.map, Action.Keeps]
  | createProduct payload st =>
    cases st <;> simp only [act, createProduct] <;> (repeat' split) <;> trivial
  | updateProduct id payload st =>
    cases st <;> simp only [act, updateProduct, update] <;> (repeat' split)
    all_goals simp [Action.map, Action.Keeps]
  | mcpCreateOrder customerId st =>
    cases st <;> simp only [act, mcpCreateOrder] <;> (repeat' split) <;> trivial
  | cancelOrder o st =>
    cases st <;> simp only [act, cancelOrder, update] <;> (repeat' split)
    all_goals simp [Action.map, Action.Keeps]

/-- Only `add_line` inserts a line. -/
theorem act_insert_line {row : Nat → OrderLine} {s' : Nat → Session} (h : act e s v = .insert .orderLine row s') :
    ∃ o payload order product, s = .addLine o payload (.priced order product) ∧
      row = (fun _ => newLine o payload product e.now) ∧ s' = fun id => .addLine o payload (.flushed order id) := by
  cases s with
  | addLine o payload st =>
    cases st with
    | priced order product =>
      simp only [act, addLine] at h
      split at h
      · cases h
      · split at h
        · cases h
          exact ⟨o, payload, order, product, rfl, rfl, rfl⟩
        · cases h
    | _ =>
      simp only [act, addLine, storeTotal, update] at h
      (repeat' split at h) <;> cases h
  | createOrder customerId st =>
    cases st <;> simp only [act, createOrder] at h <;> (repeat' split at h) <;> cases h
  | updateOrderStatus o status st =>
    cases st <;> simp only [act, updateOrderStatus, update] at h <;> (repeat' split at h) <;> cases h
  | deleteOrder o st => cases st <;> simp only [act, deleteOrder] at h <;> (repeat' split at h) <;> cases h
  | listLines o st => cases st <;> cases h
  | updateLineStatus o id payload st =>
    cases st <;> simp only [act, updateLineStatus, update] at h <;> (repeat' split at h) <;> cases h
  | deleteLine o id st =>
    cases st <;> simp only [act, deleteLine, storeTotal, update] at h <;> (repeat' split at h) <;> cases h
  | createProduct payload st =>
    cases st <;> simp only [act, createProduct] at h <;> (repeat' split at h) <;> cases h
  | updateProduct id payload st =>
    cases st <;> simp only [act, updateProduct, update] at h <;> (repeat' split at h) <;> cases h
  | mcpCreateOrder customerId st =>
    cases st <;> simp only [act, mcpCreateOrder] at h <;> (repeat' split at h) <;> cases h
  | cancelOrder o st =>
    cases st <;> simp only [act, cancelOrder, update] at h <;> (repeat' split at h) <;> cases h

/-- The product that `add_line` has loaded, with its order, the request and the order's row. -/
def Session.pricedLine : Session → Option (Nat × OrderLineCreate × Product)
  | .addLine o payload (.priced _ product) => some (o, payload, product)
  | _ => none

/-- The product is loaded in an open transaction, as the statement sees it. -/
theorem act_pricedLine : (act e s v).All fun s' => ∀ o payload product, s'.pricedLine = some (o, payload, product) →
    (∃ order, s = .addLine o payload (.loaded order)) ∧ v.rows .product payload.productId = some product := by
  cases s with
  | addLine o payload st =>
    cases st with
    | loaded order =>
      simp only [act, addLine]
      split
      · exact fun _ _ _ h => by cases h
      · rename_i product hrow
        intro o' payload' product' h
        cases h
        exact ⟨⟨order, rfl⟩, hrow⟩
    | _ =>
      simp only [act, addLine, storeTotal, update]
      repeat' split
      all_goals simp [Action.map, Action.All, Session.pricedLine]
  | _ => exact Action.all_map.mpr (Action.all_of_forall fun _ _ _ _ h => by cases h)

/-- A table that the request never writes. -/
def Session.leaves : Session → Option Table
  | .updateProduct _ _ _ | .updateLineStatus _ _ _ _ => some .orders
  | .addLine _ _ _ => some .product
  | _ => none

theorem act_leaves {t : Table} (h : s.leaves = some t) : (∀ row s', act e s v ≠ .insert t row s') ∧
    ∀ cs s', act e s v = .write cs s' → ∀ c ∈ cs, c.table ≠ t := by
  cases s with
  | updateProduct id payload st =>
    cases h
    refine ⟨fun row s' h => ?_, fun cs s' h => ?_⟩
    · cases st <;> simp only [act, updateProduct, update] at h <;> (repeat' split at h) <;> cases h
    · cases st <;> simp only [act, updateProduct, update] at h <;> (repeat' split at h) <;> cases h
      simp
  | updateLineStatus o id payload st =>
    cases h
    refine ⟨fun row s' h => ?_, fun cs s' h => ?_⟩
    · cases st <;> simp only [act, updateLineStatus, update] at h <;> (repeat' split at h) <;> cases h
    · cases st <;> simp only [act, updateLineStatus, update] at h <;> (repeat' split at h) <;> cases h
      simp
  | addLine o payload st =>
    cases h
    refine ⟨fun row s' h => ?_, fun cs s' h => ?_⟩
    · cases st <;> simp only [act, addLine, storeTotal, update] at h <;> (repeat' split at h) <;> cases h
    · cases st <;> simp only [act, addLine, storeTotal, update] at h <;> (repeat' split at h) <;> cases h
      simp
  | _ => cases h

/-- What the snapshots rest on: how an action writes lines, which price it takes, and what it leaves alone. -/
structure LineStep (v : View Row) (s : Session) (a : Action Row Session) : Prop where
  keeps : a.Keeps .orderLine snapshot v
  inserts : ∀ row s', a = .insert .orderLine row s' → ∃ o payload product, s.pricedLine = some (o, payload, product) ∧
    ∀ id, snapshot (row id) = ⟨o, payload.productId, payload.quantity, product.unitPrice⟩ ∧
      ∃ order, s' id = .addLine o payload (.flushed order id)
  prices : a.All fun s' => ∀ o payload product, s'.pricedLine = some (o, payload, product) →
    (∃ order, s = .addLine o payload (.loaded order)) ∧ v.rows .product payload.productId = some product
  same : a.All fun s' => s'.leaves = s.leaves
  leaves : ∀ t, s.leaves = some t → (∀ row s', a ≠ .insert t row s') ∧
    ∀ cs s', a = .write cs s' → ∀ c ∈ cs, c.table ≠ t

theorem act_lineStep (e : Env) (s : Session) (v : View Row) : LineStep v s (act e s v) where
  keeps := act_keeps_snapshot
  inserts row s' h := by
    obtain ⟨o, payload, order, product, rfl, rfl, rfl⟩ := act_insert_line h
    exact ⟨o, payload, product, rfl, fun id => ⟨rfl, order, rfl⟩⟩
  prices := act_pricedLine
  same := by cases s <;> exact Action.all_map.mpr (Action.all_of_forall fun _ => rfl)
  leaves _ := act_leaves

theorem refused_lineStep (s : Session) (v : View Row) : LineStep v s (.rollback s.refused) where
  keeps := trivial
  inserts _ _ h := by cases h
  prices o payload product h := by
    unfold Session.refused at h
    split at h
    · rename_i hdone
      unfold Session.pricedLine at h
      split at h
      · cases hdone
      · cases h
    · cases s <;> cases h
  same := by
    show s.refused.leaves = s.leaves
    unfold Session.refused
    split
    · rfl
    · cases s <;> rfl
  leaves _ _ := ⟨fun _ _ h => (by cases h), fun _ _ h => (by cases h)⟩

end Steps

/-! ### One snapshot a line -/

/-- All versions of a line have one snapshot, and no transaction has changed a table that its request leaves alone. -/
structure SnapshotInv (d : State) : Prop where
  wf : d.Wf
  idle : Idle d
  agree : ∀ id l l', d.Version .orderLine id l → d.Version .orderLine id l' → snapshot l = snapshot l'
  leaves : ∀ i t, (d.client i).state.leaves = some t → ∀ id, (d.client i).writes t id = none

/-- Every version of the line has the snapshot `x`. -/
def Fixed (id : Nat) (x : Snapshot) (d : State) : Prop :=
  id < d.seq .orderLine ∧ ∀ l, d.Version .orderLine id l → snapshot l = x

section Step
variable {d : State} {i : Nat} {a : Action Row Session}

theorem not_version_of_fresh (h : d.Wf) {id : Nat} {l : OrderLine} (hid : d.seq .orderLine ≤ id) :
    ¬ d.Version .orderLine id l := by
  rintro (hc | ⟨j, hj⟩)
  · rw [(h.fresh _ _ hid).1] at hc
    cases hc
  · rw [h.writes_fresh hid] at hj
    cases hj

/-- A version after a step has the snapshot of a version before it, or is the line that the step inserts. -/
theorem version_perform (ha : LineStep (d.view i) (d.client i).state a) {id : Nat} {l : OrderLine}
    (h : (d.perform i a).Version .orderLine id l) : (∃ l', d.Version .orderLine id l' ∧ snapshot l' = snapshot l) ∨
      id = d.seq .orderLine ∧ ∃ row s', a = .insert .orderLine row s' ∧ l = row id := by
  rcases perform_version h with h | ⟨row, s', rfl, rfl, rfl⟩ | ⟨cs, s', rfl, hmem⟩
  · exact Or.inl ⟨l, h, rfl⟩
  · exact Or.inr ⟨rfl, row, s', rfl, rfl⟩
  · obtain ⟨l', hl', heq⟩ := ha.keeps id l hmem
    exact Or.inl ⟨l', version_of_view hl', heq⟩

theorem Fixed.perform {id : Nat} {x : Snapshot} (h : Fixed id x d) (ha : LineStep (d.view i) (d.client i).state a) :
    Fixed id x (d.perform i a) := by
  refine ⟨Nat.lt_of_lt_of_le h.1 seq_le_perform, fun l hl => ?_⟩
  rcases version_perform ha hl with ⟨l', hl', heq⟩ | ⟨rfl, -⟩
  · rw [← heq]
    exact h.2 l' hl'
  · exact absurd h.1 (Nat.lt_irrefl _)

theorem Fixed.step {id : Nat} {x : Snapshot} (h : Fixed id x d) (e : Event Env) : Fixed id x (Orders.step d e) := by
  cases e with
  | step i e => exact h.perform (act_lineStep e _ _)
  | fail i => exact h.perform (refused_lineStep _ _)

namespace SnapshotInv

theorem fixed (h : SnapshotInv d) {id : Nat} {l : OrderLine} (hl : d.Version .orderLine id l) :
    Fixed id (snapshot l) d := by
  refine ⟨?_, fun l' hl' => h.agree id l' l hl' hl⟩
  by_contra hlt
  exact not_version_of_fresh h.wf (Nat.not_lt.mp hlt) hl

theorem perform (h : SnapshotInv d) (ha : LineStep (d.view i) (d.client i).state a)
    (hopens : Opens (d.client i).state a) : SnapshotInv (d.perform i a) where
  wf := h.wf.perform a
  idle := idle_perform h.idle hopens
  agree id l l' hl hl' := by
    -- A line that had a version keeps its snapshot; one that had none is the one inserted now.
    by_cases hold : ∃ l₀, d.Version .orderLine id l₀
    · obtain ⟨l₀, hl₀⟩ := hold
      have hfixed := (h.fixed hl₀).perform ha
      rw [hfixed.2 l hl, hfixed.2 l' hl']
    · rcases version_perform ha hl with ⟨l₁, hl₁, -⟩ | ⟨-, row, s', heq, rfl⟩
      · exact absurd ⟨l₁, hl₁⟩ hold
      · rcases version_perform ha hl' with ⟨l₁, hl₁, -⟩ | ⟨-, row', s'', heq', rfl⟩
        · exact absurd ⟨l₁, hl₁⟩ hold
        · rw [heq] at heq'
          cases heq'
          rfl
  leaves j t hj id := by
    by_cases hne : j = i
    · subst hne
      have hsame := perform_state (P := fun s : Session => s.leaves = (d.client j).state.leaves) rfl ha.same
      rw [hsame] at hj
      obtain ⟨hinsert, hwrite⟩ := ha.leaves t hj
      exact perform_writes_none (h.leaves j t hj id) hinsert fun cs s hcs c hc hat => hwrite cs s hcs c hc hat.1
    · rw [perform_client_of_ne hne] at hj ⊢
      exact h.leaves j t hj id

theorem step (h : SnapshotInv d) (e : Event Env) : SnapshotInv (Orders.step d e) := by
  cases e with
  | step i e => exact h.perform (act_lineStep e _ _) (act_opens e _ _)
  | fail i => exact h.perform (refused_lineStep _ _) (refused_inFlight _)

end SnapshotInv

end Step

/-! ### The price of the moment -/

/-- Client `i` has a transaction open in every state of the run. -/
def OpenThroughout (i : Nat) (s : State) (es : List (Event Env)) : Prop :=
  ∀ d ∈ states step s es, (d.client i).state.inFlight = true

/-- The product is committed at the price. -/
def Sells (d : State) (productId price : Nat) : Prop :=
  ∃ product, d.committed .product productId = some product ∧ Product.unitPrice product = price

/-- The line was inserted by an `add_line`, whose transaction was open when its product was committed at the
    line's price, and from then on until the line was inserted. -/
def PricedWhileOpen (s : State) (es : List (Event Env)) (id : Nat) (x : Snapshot) : Prop :=
  ∃ before during after i order, es = before ++ during ++ after ∧
    Sells (run step s before) x.productId x.unitPriceAtOrder ∧ OpenThroughout i (run step s before) during ∧
    (((run step s (before ++ during)).client i).state = .addLine x.orderId ⟨x.productId, x.quantity⟩ (.flushed order id))

/-- The product had the price when the open transaction of client `i` loaded it. -/
def LoadedAt (s : State) (es : List (Event Env)) (i productId price : Nat) : Prop :=
  ∃ before during, es = before ++ during ∧ Sells (run step s before) productId price ∧
    OpenThroughout i (run step s before) during

section History
variable {s : State} {es : List (Event Env)} {i id : Nat} {e : Event Env} {x : Snapshot}

theorem PricedWhileOpen.concat (h : PricedWhileOpen s es id x) : PricedWhileOpen s (es ++ [e]) id x := by
  obtain ⟨before, during, after, i, order, rfl, hsells, hopen, hstate⟩ := h
  exact ⟨before, during, after ++ [e], i, order, by simp, hsells, hopen, hstate⟩

theorem OpenThroughout.concat (h : OpenThroughout i s es)
    (hnext : ((step (run step s es) e).client i).state.inFlight = true) :
    OpenThroughout i s (es ++ [e]) := by
  intro d hd
  rw [states_concat, List.mem_append, List.mem_singleton] at hd
  rcases hd with hd | rfl
  · exact h d hd
  · exact hnext

/-- The prices that the transactions have loaded, and those of the lines they have inserted since `s`. -/
structure PricedInv (s : State) (es : List (Event Env)) (d : State) : Prop where
  inv : SnapshotInv d
  loaded : ∀ i o payload product, (d.client i).state.pricedLine = some (o, payload, product) →
    LoadedAt s es i payload.productId product.unitPrice
  inserted : ∀ id l, s.committed .orderLine id = none → d.Version .orderLine id l → PricedWhileOpen s es id (snapshot l)

theorem LoadedAt.concat {productId price : Nat} (h : LoadedAt s es i productId price)
    (hnext : ((step (run step s es) e).client i).state.inFlight = true) : LoadedAt s (es ++ [e]) i productId price := by
  obtain ⟨before, during, rfl, hsells, hopen⟩ := h
  refine ⟨before, during ++ [e], by simp, hsells, hopen.concat ?_⟩
  rwa [← run_append]

theorem inFlight_of_pricedLine {s : Session} {x : Nat × OrderLineCreate × Product} (h : s.pricedLine = some x) :
    s.inFlight = true := by
  unfold Session.pricedLine at h
  split at h
  · rfl
  · cases h

/-- The line that a transaction inserts has the price that it loaded. -/
theorem LoadedAt.inserted (h : LoadedAt s es i x.productId x.unitPriceAtOrder) (hnext : ∃ order,
    ((step (run step s es) e).client i).state = .addLine x.orderId ⟨x.productId, x.quantity⟩ (.flushed order id)) :
    PricedWhileOpen s (es ++ [e]) id x := by
  obtain ⟨before, during, rfl, hsells, hopen⟩ := h
  obtain ⟨order, hnext⟩ := hnext
  refine ⟨before, during ++ [e], [], i, order, by simp, hsells, hopen.concat ?_, ?_⟩
  · rw [← run_append, hnext]
    rfl
  · rw [← List.append_assoc, run_concat]
    exact hnext

theorem PricedInv.perform {a : Action Row Session} (h : PricedInv s es (run step s es))
    (hstep : step (run step s es) e = (run step s es).perform i a)
    (ha : LineStep ((run step s es).view i) ((run step s es).client i).state a)
    (hopens : Opens ((run step s es).client i).state a) : PricedInv s (es ++ [e]) (step (run step s es) e) where
  inv := by
    rw [hstep]
    exact h.inv.perform ha hopens
  loaded j o payload product hj := by
    have hnext := inFlight_of_pricedLine hj
    rw [hstep] at hj
    by_cases hne : j = i
    · subst hne
      rcases perform_client ha.prices with hread | hsame
      · -- It has just read the product: it has changed no product, so the price is the committed one.
        obtain ⟨⟨order, hloaded⟩, hrow⟩ := hread o payload product hj
        have hnone := h.inv.leaves j .product (by rw [hloaded]; rfl) payload.productId
        rw [view_rows, Writes.onto_of_none hnone] at hrow
        have hbefore : LoadedAt s es j payload.productId product.unitPrice := by
          refine ⟨es, [], by simp, ⟨product, hrow, rfl⟩, fun d hd => ?_⟩
          rw [List.mem_singleton.mp hd, hloaded]
          rfl
        exact hbefore.concat hnext
      · rw [hsame] at hj
        exact (h.loaded j o payload product hj).concat hnext
    · rw [perform_client_of_ne hne] at hj
      exact (h.loaded j o payload product hj).concat hnext
  inserted id l hnew hl := by
    rw [hstep] at hl
    rcases version_perform ha hl with ⟨l', hl', heq⟩ | ⟨rfl, row, s', rfl, rfl⟩
    · rw [← heq]
      exact (h.inserted id l' hnew hl').concat
    · obtain ⟨o, payload, product, hpriced, hrow⟩ := ha.inserts row s' rfl
      obtain ⟨hsnapshot, order, hs'⟩ := hrow ((run step s es).seq .orderLine)
      rw [hsnapshot]
      refine LoadedAt.inserted (h.loaded i o payload product hpriced) ⟨order, ?_⟩
      rw [hstep]
      simp only [Db.perform, Db.put, Function.update_self]
      exact hs'

end History

/-! ### Price snapshots -/

theorem Store.snapshotInv (store : Store) (requests : Nat → Request) : SnapshotInv (store.serve requests) where
  wf := Db.Wf.start store.fresh
  idle := idle_initial store.rows store.seq requests
  agree id l l' hl hl' := by
    have hcommitted : ∀ {l}, (store.serve requests).Version .orderLine id l → store.rows .orderLine id = some l := by
      rintro l (hl | ⟨i, hl⟩)
      · exact hl
      · cases hl
    have heq := (hcommitted hl).symm.trans (hcommitted hl')
    cases heq
    rfl
  leaves _ _ _ _ := rfl

theorem Store.pricedInv (store : Store) (requests : Nat → Request) (es : List (Event Env)) :
    PricedInv (store.serve requests) es (run step (store.serve requests) es) := by
  have hstart : PricedInv (store.serve requests) [] (store.serve requests) := by
    refine ⟨store.snapshotInv requests, ?_, ?_⟩
    · intro i o payload product h
      have hnone : (requests i).open.pricedLine = none := by cases requests i <;> rfl
      rw [show ((store.serve requests).client i).state.pricedLine = none from hnone] at h
      cases h
    · rintro id l hnew (hl | ⟨i, hl⟩)
      · rw [hnew] at hl
        cases hl
      · cases hl
  refine run_induction hstart ?_ es
  intro es e h
  cases e with
  | step i e => exact h.perform rfl (act_lineStep e _ _) (act_opens e _ _)
  | fail i => exact h.perform rfl (refused_lineStep _ _) (refused_inFlight _)

/-- A request stays one that leaves the table alone. -/
theorem step_leaves (d : State) (e : Event Env) (j : Nat) :
    ((step d e).client j).state.leaves = (d.client j).state.leaves := by
  by_cases hj : j = e.client
  · subst hj
    cases e with
    | step i e => exact perform_state (P := fun s : Session => s.leaves = _) rfl (act_lineStep e _ (d.view i)).same
    | fail i =>
      exact perform_state (a := .rollback _) (P := fun s : Session => s.leaves = _) rfl
        (refused_lineStep (d.client i).state (d.view i)).same
  · exact congrArg (fun c => c.state.leaves) (step_client_of_ne (p := program) hj)

/-- The request is a product update or a change of a line's status. -/
def Request.keepsTotals : Request → Bool
  | .updateProduct _ _ | .updateLineStatus _ _ _ => true
  | _ => false

/-- The price snapshot over a run: a line keeps its snapshot from one state to any later one, the price of a line
    inserted in the run is one that its product had while the inserting transaction was open, and a product
    update or line status change neither changes an order nor commits anything that does. -/
structure PriceSnapshot (s : State) (requests : Nat → Request) (es : List (Event Env)) : Prop where
  fixed : ∀ before after id l l', es = before ++ after → (run step s before).Version .orderLine id l →
    (run step s es).Version .orderLine id l' → snapshot l' = snapshot l
  priced : ∀ id l, s.committed .orderLine id = none → (run step s es).Version .orderLine id l →
    PricedWhileOpen s es id (snapshot l)
  totals : ∀ i, (requests i).keepsTotals = true → (∀ o, ((run step s es).client i).writes .orders o = none) ∧
    ∀ e : Event Env, e.client = i → (step (run step s es) e).committed .orders = (run step s es).committed .orders

theorem price_snapshot (store : Store) (requests : Nat → Request) (es : List (Event Env)) :
    PriceSnapshot (store.serve requests) requests es where
  fixed before after id l l' hes hl hl' := by
    subst hes
    have hfixed : Fixed id (snapshot l) (run step (store.serve requests) before) :=
      (store.pricedInv requests before).inv.fixed hl
    rw [run_append] at hl'
    exact ((meets_true _ after).run (P := fun d => Fixed id (snapshot l) d) hfixed fun d e hd _ => hd.step e).2 l' hl'
  priced := (store.pricedInv requests es).inserted
  totals i hi := by
    have hrequest : (requests i).open.leaves = some .orders := by
      cases hr : requests i <;> first | rfl | (rw [hr] at hi; cases hi)
    have hleaves : ((run step (store.serve requests) es).client i).state.leaves = some .orders :=
      (run_eq (f := fun d : State => (d.client i).state.leaves) fun e _ d => step_leaves d e i).trans hrequest
    have hnone := (store.pricedInv requests es).inv.leaves i .orders hleaves
    refine ⟨hnone, fun e he => ?_⟩
    rcases step_committed_cases program (run step (store.serve requests) es) e with hsame | ⟨i', e', s', rfl, -, hcommit⟩
    · exact congrArg (fun rows : Rows Row => rows .orders) hsame
    · obtain rfl : i' = i := he
      funext o
      refine (congrArg (fun rows : Rows Row => rows .orders o) hcommit).trans ?_
      exact Writes.onto_of_none (hnone o)

end IrisService.Orders
