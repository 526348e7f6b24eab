import IrisService.Orders.StatusWrites
import IrisService.Orders.TotalsRuns

/-! The status of an order over whole runs of one request after the other. -/

namespace IrisService.Orders
open ReadCommitted Db Runs OrderStatus

/-- No other request has a transaction open while this one takes a step. -/
def Alone (d : State) (e : Event Env) : Prop := ∀ j, j ≠ e.client → (d.client j).state.inFlight = false

/-- The order that a status change has loaded: its identity, its status as loaded, and the new status. -/
def Session.statusRead : Session → Option (Nat × OrderStatus × OrderStatus)
  | .updateOrderStatus o target (.checked order) | .updateOrderStatus o target (.flushed order)
  | .updateOrderStatus o target (.refreshed order _) => some (o, order.status, target)
  | .cancelOrder o (.loaded order) | .cancelOrder o (.flushed order) => some (o, order.status, .cancelled)
  | _ => none

/-- The REST handler goes on only along the graph. The MCP tool does not ask. -/
def Session.Guarded : Session → Prop
  | .updateOrderStatus _ target (.checked order) | .updateOrderStatus _ target (.flushed order)
  | .updateOrderStatus _ target (.refreshed order _) => Allowed order.status target
  | _ => True

section Steps
variable {e : Env} {s s' : Session} {v : View Row} {o : Nat} {l a : OrderStatus}

theorem inFlight_of_statusRead (h : s.statusRead = some (o, l, a)) : s.inFlight = true := by
  unfold Session.statusRead at h
  split at h
  all_goals first | rfl | cases h

/-- A new load reads the order as the statement sees it, and is the first statement of its transaction. -/
theorem act_statusRead (e : Env) (s : Session) (v : View Row) :
    (act e s v).All fun s' => s'.statusRead = none ∨ s'.statusRead = s.statusRead ∨ s.waiting = true ∧
      ∃ o row a, v.rows .orders o = some row ∧ s'.statusRead = some (o, row.status, a) := by
  cases s with
  | updateOrderStatus o target st =>
    cases st with
    | start =>
      simp only [act, updateOrderStatus]
      split
      · exact Or.inl rfl
      · rename_i row hrow
        split
        · exact Or.inr (Or.inr ⟨rfl, o, row, target, hrow, rfl⟩)
        · exact Or.inl rfl
    | checked order =>
      simp only [act, updateOrderStatus, update]
      split
      · exact Or.inr (Or.inl rfl)
      · split
        · exact Or.inr (Or.inl rfl)
        · exact Or.inl rfl
    | flushed order =>
      simp only [act, updateOrderStatus]
      split
      · exact Or.inr (Or.inl rfl)
      · exact Or.inl rfl
    | refreshed order saved => exact Or.inl rfl
    | done r => exact Or.inl rfl
  | cancelOrder o st =>
    cases st with
    | start =>
      simp only [act, cancelOrder]
      split
      · exact Or.inl rfl
      · rename_i row hrow
        exact Or.inr (Or.inr ⟨rfl, o, row, .cancelled, hrow, rfl⟩)
    | loaded order =>
      simp only [act, cancelOrder, update]
      split
      · exact Or.inr (Or.inl rfl)
      · split
        · exact Or.inr (Or.inl rfl)
        · exact Or.inl rfl
    | flushed order => exact Or.inl rfl
    | done r => exact Or.inl rfl
  | _ => exact Action.all_map.mpr (Action.all_of_forall fun _ => Or.inl rfl)

theorem act_guarded (h : s.Guarded) : (act e s v).All Session.Guarded := by
  cases s with
  | updateOrderStatus o target st =>
    cases st with
    | start =>
      simp only [act, updateOrderStatus]
      split
      · trivial
      · split
        · rename_i hallowed
          exact hallowed
        · trivial
    | checked order =>
      simp only [act, updateOrderStatus, update]
      split
      · exact h
      · split
        · exact h
        · trivial
    | flushed order =>
      simp only [act, updateOrderStatus]
      split
      · exact h
      · trivial
    | refreshed order saved => trivial
    | done r => trivial
  | _ => exact Action.all_map.mpr (Action.all_of_forall fun _ => trivial)

theorem refused_guarded : s.refused.Guarded := by
  unfold Session.refused
  split
  · rename_i hdone
    unfold Session.reply? at hdone
    split at hdone <;> trivial
  · cases s <;> trivial

end Steps

/-! ### The invariant of serial runs -/

/-- What holds in every run of guarded requests served one after another. -/
structure SerialInv (d : State) : Prop where
  recorded : Recorded .orders Order.status Session.statusUpdate d
  idle : Idle d
  guarded : ∀ i, (d.client i).state.Guarded
  /-- What a status change has loaded is still what is committed. -/
  current : ∀ i o l a, (d.client i).state.statusRead = some (o, l, a) →
    ∃ row, d.committed .orders o = some row ∧ Order.status row = l

namespace SerialInv
variable {d : State} {i : Nat} {a : Action Row Session}

theorem start (store : Store) (requests : Nat → Request) : SerialInv (store.serve requests) where
  recorded := Recorded.start store.fresh fun i => (open_update (requests i)).1
  idle := idle_initial store.rows store.seq requests
  guarded i := by
    show (requests i).open.Guarded
    cases requests i <;> trivial
  current i o l a h := by
    have hnone : (requests i).open.statusRead = none := by cases requests i <;> rfl
    rw [show ((store.serve requests).client i).state.statusRead = none from hnone] at h
    cases h

theorem current_perform (h : SerialInv d) (halone : ∀ j, j ≠ i → (d.client j).state.inFlight = false)
    (hopens : Opens (d.client i).state a)
    (ha : a.All fun s' => s'.statusRead = none ∨ s'.statusRead = (d.client i).state.statusRead ∨
      (d.client i).state.waiting = true ∧ ∃ o row b, (d.view i).rows .orders o = some row ∧
        s'.statusRead = some (o, row.status, b)) (j o : Nat) (l b : OrderStatus)
    (hj : ((d.perform i a).client j).state.statusRead = some (o, l, b)) :
    ∃ row, (d.perform i a).committed .orders o = some row ∧ Order.status row = l := by
  by_cases hne : j = i
  · subst hne
    have hnot : ∀ s', a ≠ .commit s' := by
      rintro s' rfl
      simp only [perform, finish, Function.update_self] at hj
      have hdone : s'.inFlight = false := hopens
      rw [inFlight_of_statusRead hj] at hdone
      cases hdone
    rw [perform_committed hnot]
    rcases perform_client (d := d) (i := j) ha with (hnone | hsame | ⟨hwait, o', row, b', hrow, hread⟩) | hsame
    · rw [hnone] at hj
      cases hj
    · rw [hsame] at hj
      exact h.current j o l b hj
    · rw [hread] at hj
      cases hj
      have hempty := h.idle j (by simp [Session.inFlight, hwait])
      rw [view_rows, hempty, Writes.onto_empty] at hrow
      exact ⟨row, hrow, rfl⟩
    · rw [hsame] at hj
      exact h.current j o l b hj
  · rw [perform_client_of_ne hne] at hj
    have hflight := halone j hne
    rw [inFlight_of_statusRead hj] at hflight
    cases hflight

theorem guarded_perform (h : SerialInv d) (ha : a.All Session.Guarded) (j : Nat) :
    ((d.perform i a).client j).state.Guarded := by
  by_cases hne : j = i
  · subst hne
    exact perform_state (h.guarded j) ha
  · rw [perform_client_of_ne hne]
    exact h.guarded j

theorem step (h : SerialInv d) {e : Event Env} (halone : Alone d e) : SerialInv (Orders.step d e) where
  recorded := h.recorded.step act_statusUpdate (fun s => (refused_update s).1) e
  idle := idle_step h.idle e
  guarded := by
    cases e with
    | step i e => exact h.guarded_perform (act_guarded (h.guarded i))
    | fail i => exact h.guarded_perform (a := .rollback _) refused_guarded
  current := by
    cases e with
    | step i e => exact h.current_perform halone (act_opens e _ _) (act_statusRead e _ _)
    | fail i =>
      refine h.current_perform (a := .rollback _) halone (refused_inFlight _) (Or.inl ?_)
      show (Session.refused _).statusRead = none
      cases hread : ((d.client i).state.refused).statusRead with
      | none => rfl
      | some x =>
        have hflight := refused_inFlight (d.client i).state
        rw [inFlight_of_statusRead hread] at hflight
        cases hflight

end SerialInv

/-! ### The law of the order status -/

/-- What an order goes through. -/
structure StatusLaw (history : List OrderStatus) : Prop where
  path : history.IsChain Allowed
  shippedStays : history.Pairwise fun a b => a = .shipped → b = .shipped

theorem StatusLaw.of_path {history : List OrderStatus} (h : history.IsChain Allowed) : StatusLaw history := by
  have htrans : IsTrans OrderStatus fun a b => a = .shipped → b = .shipped := ⟨fun _ _ _ h h' ha => h' (h ha)⟩
  refine ⟨h, List.isChain_iff_pairwise.mp (h.imp fun a b hab ha => ?_)⟩
  subst ha
  exact eq_of_shipped_allowed hab

/-- The step does not commit a cancellation of the order while it is shipped. -/
def NoShippedCancel (o : Nat) (d : State) : Event Env → Prop
  | .step i _ => ∀ order, (d.client i).state = .cancelOrder o (.flushed order) →
    ∀ row, d.committed .orders o = some row → Order.status row ≠ .shipped
  | .fail _ => True

/-- An open update is committed from one place of each of the two handlers. -/
theorem committing_of_statusUpdate {e : Env} {s s' : Session} {v : View Row} {o : Nat} {a : OrderStatus}
    (hu : s.statusUpdate = some (o, a)) (hact : act e s v = .commit s') :
    (∃ order saved, s = .updateOrderStatus o a (.refreshed order saved)) ∨
      a = .cancelled ∧ ∃ order, s = .cancelOrder o (.flushed order) := by
  unfold Session.statusUpdate at hu
  split at hu
  · simp only [act, updateOrderStatus] at hact
    split at hact <;> cases hact
  · split at hu
    · cases hu
    · cases hu
      exact Or.inl ⟨_, _, rfl⟩
  · split at hu
    · cases hu
    · cases hu
      exact Or.inr ⟨rfl, _, rfl⟩
  · cases hu

theorem SerialInv.updatesAlong_iff {d : State} (h : SerialInv d) (o : Nat) (e : Event Env) :
    UpdatesAlong program .orders Order.status Session.statusUpdate Allowed o d e ↔ NoShippedCancel o d e := by
  cases e with
  | fail i => exact Iff.rfl
  | step i e =>
    constructor
    · intro hR order hs row hrow hshipped
      obtain ⟨row', hrow', hcurrent⟩ := h.current i o order.status .cancelled (by rw [hs]; rfl)
      rw [hrow] at hrow'
      cases hrow'
      have hu : (d.client i).state.statusUpdate = some (o, .cancelled) := by
        rw [hs]
        exact if_neg (by rw [← hcurrent, hshipped]; decide)
      have hallowed := hR _ .cancelled (by rw [hs]; rfl) hu row hrow
      rw [hshipped] at hallowed
      cases hallowed
    · intro hno s a hact hu row hrow
      rcases committing_of_statusUpdate hu hact with ⟨order, saved, hs⟩ | ⟨rfl, order, hs⟩
      · obtain ⟨row', hrow', hcurrent⟩ := h.current i o order.status a (by rw [hs]; rfl)
        rw [hrow] at hrow'
        cases hrow'
        rw [hcurrent]
        have hguarded := h.guarded i
        rw [hs] at hguarded
        exact hguarded
      · exact (allowed_cancelled_iff _).mpr (hno order hs row hrow)

/-- In a run of one request after the other, the committed statuses of an order obey the law exactly when
    no cancellation of the order is committed while it is shipped. -/
theorem order_status_law_iff (store : Store) (requests : Nat → Request) (o : Nat) (es : List (Event Env))
    (hserial : Meets step Alone (store.serve requests) es) :
    StatusLaw (column program .orders Order.status o (store.serve requests) es) ↔
      Meets step (NoShippedCancel o) (store.serve requests) es := by
  have hinv := SerialInv.start store requests
  have hiff : (column program .orders Order.status o (store.serve requests) es).IsChain Allowed ↔ _ :=
    isChain_column_iff_updates allowed_refl hinv.recorded act_statusUpdate (fun s => (refused_update s).1) es
  refine ⟨fun hlaw => ?_, fun hmeets => StatusLaw.of_path (hiff.mpr ?_)⟩
  · exact (hserial.and (hiff.mp hlaw.path)).mono_of_inv hinv (fun d e hd hok => hd.step hok.1) fun d e hd hok =>
      (hd.updatesAlong_iff o e).mp hok.2
  · exact (hserial.and hmeets).mono_of_inv hinv (fun d e hd hok => hd.step hok.1) fun d e hd hok =>
      (hd.updatesAlong_iff o e).mpr hok.2

/-! ### A shipped order that is cancelled -/

/-- An order is shipped, and then cancelled by the tool. -/
def shipThenCancel : Nat → Request
  | 0 => .createOrder 1
  | 1 => .updateOrderStatus 1 .confirmed
  | 2 => .updateOrderStatus 1 .shipped
  | 3 => .cancelOrder 1
  | _ => .listLines 1

/-- The requests, one after another. -/
def oneByOne : List Nat := [0, 0, 0, 1, 1, 1, 1, 2, 2, 2, 2, 3, 3, 3]

/-- The clients of the schedule that are not at work are out of their transactions, step by step. -/
def Serially (requests : Nat → Request) (before : List Nat) : List Nat → Prop
  | [] => True
  | i :: clients => (∀ j ∈ before, j ≠ i →
      ((run step (shop.serve requests) (steps before)).client j).state.inFlight = false) ∧
    Serially requests (before ++ [i]) clients

instance Serially.decidable (requests : Nat → Request) :
    (before clients : List Nat) → Decidable (Serially requests before clients)
  | _, [] => instDecidableTrue
  | before, i :: clients => @instDecidableAnd _ _ inferInstance (Serially.decidable requests (before ++ [i]) clients)

theorem Serially.meets {requests : Nat → Request} {before clients : List Nat} (h : Serially requests before clients) :
    Meets step Alone (run step (shop.serve requests) (steps before)) (steps clients) := by
  induction clients generalizing before with
  | nil => trivial
  | cons i clients ih =>
    refine ⟨fun j hj => ?_, ?_⟩
    · by_cases hmem : j ∈ before
      · exact h.1 j hmem hj
      · rw [run_steps_client hmem]
        show (requests j).open.inFlight = false
        cases requests j <;> rfl
    · have hrest := ih h.2
      rwa [steps, List.map_append, run_append] at hrest

theorem shipped_then_cancelled : ¬∀ (store : Store) (requests : Nat → Request) (o : Nat) (es : List (Event Env)),
    Meets step Alone (store.serve requests) es →
      StatusLaw (column program .orders Order.status o (store.serve requests) es) := by
  intro h
  have hserial : Serially shipThenCancel [] oneByOne := by decide
  have hlaw := h shop shipThenCancel 1 (steps oneByOne) hserial.meets
  exact absurd hlaw.path (by decide)

/-- Up to the cancellation the order goes along the graph. -/
theorem confirmed_then_shipped : StatusLaw (column program .orders Order.status 1 (shop.serve shipThenCancel)
    (steps (oneByOne.take 11))) := by
  have hserial : Serially shipThenCancel [] (oneByOne.take 11) := by decide
  refine (order_status_law_iff shop shipThenCancel 1 (steps (oneByOne.take 11)) hserial.meets).mpr ?_
  refine ⟨?_, ?_, ?_, ?_, ?_, ?_, ?_, ?_, ?_, ?_, ?_, trivial⟩
  all_goals
    intro order h
    cases h

end IrisService.Orders
