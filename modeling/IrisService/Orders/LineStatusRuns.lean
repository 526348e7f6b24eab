import IrisService.Orders.StatusWrites
import IrisService.Orders.TotalsRuns

/-! The status of a line over whole runs. -/

namespace IrisService.Orders
open ReadCommitted Db Runs OrderLineStatus

/-! ### What a transaction has read -/

/-- The line that an update has checked: its identity, its status as read, and the new status. -/
def Session.lineRead : Session → Option (Nat × OrderLineStatus × OrderLineStatus)
  | .updateLineStatus _ id payload (.checked line) | .updateLineStatus _ id payload (.flushed line)
  | .updateLineStatus _ id payload (.refreshed line _) => some (id, line.status, payload.status)
  | _ => none

theorem lineRead_of_lineUpdate {s : Session} {id : Nat} {a : OrderLineStatus} (h : s.lineUpdate = some (id, a)) :
    ∃ l, a ≠ l ∧ s.lineRead = some (id, l, a) := by
  unfold Session.lineUpdate at h
  split at h
  · split at h
    · cases h
    · rename_i hne
      cases h
      exact ⟨_, hne, rfl⟩
  · split at h
    · cases h
    · rename_i hne
      cases h
      exact ⟨_, hne, rfl⟩
  · cases h

/-- An open update is committed from one place of the code. -/
theorem committing_of_lineUpdate {e : Env} {s s' : Session} {v : View Row} {id : Nat} {a : OrderLineStatus}
    (hu : s.lineUpdate = some (id, a)) (hact : act e s v = .commit s') :
    ∃ o payload line saved, s = .updateLineStatus o id payload (.refreshed line saved) ∧ payload.status = a := by
  unfold Session.lineUpdate at hu
  split at hu
  · simp only [act, updateLineStatus] at hact
    split at hact <;> cases hact
  · split at hu
    · cases hu
    · cases hu
      exact ⟨_, _, _, _, rfl, rfl⟩
  · cases hu

/-- Nothing leads back to pending. -/
theorem ne_pending_of_allowed {l a : OrderLineStatus} (h : Allowed l a) (hne : a ≠ l) : a ≠ .pending := by
  revert h hne
  cases l <;> cases a <;> decide

/-- A new check reads the line as the statement sees it, and is the first statement of its transaction. -/
theorem act_lineRead (e : Env) (s : Session) (v : View Row) :
    (act e s v).All fun s' => s'.lineRead = none ∨ s'.lineRead = s.lineRead ∨ s.waiting = true ∧
      ∃ id row a, v.rows .orderLine id = some row ∧ Allowed row.status a ∧ s'.lineRead = some (id, row.status, a) := by
  cases s with
  | updateLineStatus o id payload st =>
    cases st with
    | start =>
      simp only [act, updateLineStatus]
      split
      · exact Or.inl rfl
      · rename_i row hrow
        split
        · exact Or.inl rfl
        · split
          · rename_i hallowed
            exact Or.inr (Or.inr ⟨rfl, id, row, payload.status, hrow, hallowed, rfl⟩)
          · exact Or.inl rfl
    | checked line =>
      simp only [act, updateLineStatus, update]
      split
      · exact Or.inr (Or.inl rfl)
      · split
        · exact Or.inr (Or.inl rfl)
        · exact Or.inl rfl
    | flushed line =>
      simp only [act, updateLineStatus]
      split
      · exact Or.inr (Or.inl rfl)
      · exact Or.inl rfl
    | refreshed line saved => exact Or.inl rfl
    | done r => exact Or.inl rfl
  | _ => exact Action.all_map.mpr (Action.all_of_forall fun _ => Or.inl rfl)

/-! ### The invariant -/

/-- The line has left the pending status for good. -/
def Moved (d : State) (id : Nat) : Prop :=
  d.Dead .orderLine id ∨ ∃ row, d.committed .orderLine id = some row ∧ OrderLine.status row ≠ .pending

/-- What holds in every run of requests served one after another. -/
structure LineInv (d : State) : Prop where
  recorded : Recorded .orderLine OrderLine.status Session.lineUpdate d
  idle : Idle d
  read : ∀ i id l a, (d.client i).state.lineRead = some (id, l, a) → Allowed l a ∧ (l ≠ .pending → Moved d id)

namespace LineInv
variable {d : State}

theorem start (store : Store) (requests : Nat → Request) : LineInv (store.serve requests) where
  recorded := Recorded.start store.fresh fun i => (open_update (requests i)).2
  idle := idle_initial store.rows store.seq requests
  read i id l a h := by
    have hnone : (requests i).open.lineRead = none := by cases requests i <;> rfl
    rw [show ((store.serve requests).client i).state.lineRead = none from hnone] at h
    cases h

theorem moved_perform (h : LineInv d) {i id : Nat} {a : Action Row Session} (hm : Moved d id) :
    Moved (d.perform i a) id := by
  rcases hm with hdead | ⟨row, hrow, hstatus⟩
  · exact Or.inl (hdead.perform a)
  · cases hc : (d.perform i a).committed .orderLine id with
    | none => exact Or.inl (Dead.of_perform h.recorded.wf (by simp [hrow]) hc)
    | some row' =>
      refine Or.inr ⟨row', hc, ?_⟩
      cases a with
      | commit s =>
        -- What is committed is what the client saw: its own update, or the status as it was.
        by_cases hu : ∃ b, (d.client i).state.lineUpdate = some (id, b)
        · obtain ⟨b, hu⟩ := hu
          obtain ⟨row'', hw, hb⟩ := h.recorded.sets i id b hu
          have hview : (d.view i).rows .orderLine id = some row' := hc
          rw [Db.view_rows, Writes.onto_of_some hw] at hview
          cases hview
          obtain ⟨l, hne, hread⟩ := lineRead_of_lineUpdate hu
          rw [hb]
          exact ne_pending_of_allowed (h.read i id l b hread).1 hne
        · rw [← h.recorded.view_eq (fun b hb => hu ⟨b, hb⟩) hc hrow]
          exact hstatus
      | _ =>
        rw [perform_committed (by simp), hrow] at hc
        cases hc
        exact hstatus

theorem read_perform (h : LineInv d) {i : Nat} {a : Action Row Session}
    (ha : a.All fun s' => s'.lineRead = none ∨ s'.lineRead = (d.client i).state.lineRead ∨
      (d.client i).state.waiting = true ∧ ∃ id row b, (d.view i).rows .orderLine id = some row ∧ Allowed row.status b ∧
        s'.lineRead = some (id, row.status, b)) (j id : Nat) (l b : OrderLineStatus)
    (hj : ((d.perform i a).client j).state.lineRead = some (id, l, b)) :
    Allowed l b ∧ (l ≠ .pending → Moved (d.perform i a) id) := by
  have hbefore : Allowed l b ∧ (l ≠ .pending → Moved d id) := by
    by_cases hne : j = i
    · subst hne
      rcases perform_client (d := d) (i := j) ha with (hnone | hsame | ⟨hwait, id', row, b', hrow, hallowed, hread⟩) | hsame
      · rw [hnone] at hj
        cases hj
      · rw [hsame] at hj
        exact h.read j id l b hj
      · rw [hread] at hj
        cases hj
        refine ⟨hallowed, fun hl => Or.inr ⟨row, ?_, hl⟩⟩
        have hempty := h.idle j (by simp [Session.inFlight, hwait])
        rwa [Db.view_rows, hempty, Writes.onto_empty] at hrow
      · rw [hsame] at hj
        exact h.read j id l b hj
    · rw [perform_client_of_ne hne] at hj
      exact h.read j id l b hj
  exact ⟨hbefore.1, fun hl => h.moved_perform (hbefore.2 hl)⟩

theorem step (h : LineInv d) (e : Event Env) : LineInv (Orders.step d e) where
  recorded := h.recorded.step act_lineUpdate (fun s => (refused_update s).2) e
  idle := idle_step h.idle e
  read := by
    cases e with
    | step i e => exact h.read_perform (act_lineRead e _ _)
    | fail i =>
      refine h.read_perform (a := .rollback _) (Or.inl ?_)
      have hdone : ∀ s : Session, s.reply?.isSome = true → s.lineRead = none := by
        intro s hs
        unfold Session.reply? at hs
        split at hs
        all_goals first | rfl | cases hs
      show (Session.refused _).lineRead = none
      unfold Session.refused
      split
      · rename_i hs
        exact hdone _ hs
      · cases (d.client i).state <;> rfl

end LineInv

/-! ### The law of the line status -/

/-- How often a refund is triggered: the changes from shipped to refunded. -/
def refunds (history : List OrderLineStatus) : Nat := (history.zip history.tail).count (.shipped, .refunded)

/-- What a line goes through. -/
structure LineLaw (history : List OrderLineStatus) : Prop where
  path : history.IsChain Allowed
  refundedStays : history.Pairwise fun a b => a = .refunded → b = .refunded
  refundedOnce : refunds history ≤ 1

theorem refunds_cons (a b : OrderLineStatus) (l : List OrderLineStatus) :
    refunds (a :: b :: l) = refunds (b :: l) + if a = .shipped ∧ b = .refunded then 1 else 0 := by
  simp [refunds, List.count_cons]

theorem LineLaw.of_path {history : List OrderLineStatus} (h : history.IsChain Allowed) : LineLaw history := by
  have hstays : history.Pairwise fun a b => a = .refunded → b = .refunded := by
    have htrans : IsTrans OrderLineStatus fun a b => a = .refunded → b = .refunded := ⟨fun _ _ _ h h' ha => h' (h ha)⟩
    refine List.isChain_iff_pairwise.mp (h.imp fun a b hab ha => ?_)
    subst ha
    exact eq_of_refunded_allowed hab
  refine ⟨h, hstays, ?_⟩
  clear hstays
  -- A refund leads to refunded, and from there no refund follows.
  have hnone : ∀ l : List OrderLineStatus, (OrderLineStatus.refunded :: l).IsChain Allowed →
    refunds (.refunded :: l) = 0 := by
    intro l hl
    induction l with
    | nil => rfl
    | cons b l ih =>
      obtain ⟨hb, hl⟩ := List.isChain_cons_cons.mp hl
      obtain rfl := eq_of_refunded_allowed hb
      rw [refunds_cons, ih hl]
      simp
  induction history with
  | nil => exact Nat.zero_le 1
  | cons a l ih =>
    cases l with
    | nil => exact Nat.zero_le 1
    | cons b l =>
      obtain ⟨hab, hl⟩ := List.isChain_cons_cons.mp h
      rw [refunds_cons]
      split
      · rename_i heq
        obtain ⟨rfl, rfl⟩ := heq
        rw [hnone l hl]
      · exact ih hl

/-- The step does not commit `SHIPPED`, checked when the line was pending, over `REFUNDED`. -/
def NoStaleShip (id : Nat) (d : State) : Event Env → Prop
  | .step i _ => ∀ o payload line saved, (d.client i).state = .updateLineStatus o id payload (.refreshed line saved) →
    line.status = .pending → payload.status = .shipped →
      ∀ row, d.committed .orderLine id = some row → OrderLine.status row ≠ .refunded
  | .fail _ => True

theorem LineInv.updatesAlong_iff {d : State} (h : LineInv d) (id : Nat) (e : Event Env) :
    UpdatesAlong program .orderLine OrderLine.status Session.lineUpdate Allowed id d e ↔ NoStaleShip id d e := by
  cases e with
  | fail i => exact Iff.rfl
  | step i e =>
    constructor
    · intro hR o payload line saved hs hpending hshipped row hrow hrefunded
      have hu : (d.client i).state.lineUpdate = some (id, payload.status) := by
        rw [hs]
        exact if_neg (by rw [hpending, hshipped]; decide)
      have hallowed := hR _ payload.status (by rw [hs]; rfl) hu row hrow
      rw [hrefunded, hshipped] at hallowed
      cases hallowed
    · intro hno s a hact hu row hrow
      obtain ⟨l, hne, hread⟩ := lineRead_of_lineUpdate hu
      obtain ⟨hallowed, hmoved⟩ := h.read i id l a hread
      cases l with
      | refunded => exact absurd (eq_of_refunded_allowed hallowed) hne
      | shipped =>
        -- The line was shipped when it was read, so it is shipped or refunded now.
        have ha : a = .refunded := by
          cases a with
          | refunded => rfl
          | _ => first | exact absurd rfl hne | cases hallowed
        rcases hmoved (by decide) with hdead | ⟨row', hrow', hstatus⟩
        · rw [hdead.committed] at hrow
          cases hrow
        · rw [hrow] at hrow'
          cases hrow'
          subst ha
          revert hstatus
          cases OrderLine.status row <;> decide
      | pending =>
        have ha : a = .shipped := by
          cases a with
          | shipped => rfl
          | _ => first | exact absurd rfl hne | cases hallowed
        obtain ⟨o, payload, line, saved, hs, rfl⟩ := committing_of_lineUpdate hu hact
        have hline : line.status = .pending := by
          rw [hs] at hread
          exact congrArg (fun x => (x.2).1) (Option.some.inj hread)
        have hnot : OrderLine.status row ≠ .refunded := hno o payload line saved hs hline ha row hrow
        rw [ha]
        revert hnot
        cases OrderLine.status row <;> decide

/-- The committed statuses of a line obey the law exactly when no stale `SHIPPED` is committed. -/
theorem line_status_law_iff (store : Store) (requests : Nat → Request) (id : Nat) (es : List (Event Env)) :
    LineLaw (column program .orderLine OrderLine.status id (store.serve requests) es) ↔
      Meets step (NoStaleShip id) (store.serve requests) es := by
  have hinv := LineInv.start store requests
  have hiff : (column program .orderLine OrderLine.status id (store.serve requests) es).IsChain Allowed ↔ _ :=
    isChain_column_iff_updates OrderLineStatus.allowed_refl hinv.recorded act_lineUpdate (fun s => (refused_update s).2) es
  refine ⟨fun hlaw => ?_, fun hmeets => LineLaw.of_path (hiff.mpr ?_)⟩
  · exact (hiff.mp hlaw.path).mono_of_inv hinv (fun d e hd _ => hd.step e) fun d e hd => (hd.updatesAlong_iff id e).mp
  · exact hmeets.mono_of_inv hinv (fun d e hd _ => hd.step e) fun d e hd => (hd.updatesAlong_iff id e).mpr

/-! ### A line refunded twice -/

/-- An order with one pending line. -/
def pendingLine : Store where
  rows
    | .customer, 1 => some ⟨"Ada", "ada@example.com", midnight⟩
    | .product, 1 => some ⟨"Book", none, 1000, 10, midnight, midnight⟩
    | .orders, 1 => some ⟨1, .confirmed, 1000, midnight, midnight⟩
    | .orderLine, 1 => some ⟨1, 1, 1, 1000, .pending, midnight⟩
    | _, _ => none
  seq _ := 2
  fresh t id h := by
    rcases id with _ | _ | id
    · cases h
    · simp at h
    · cases t <;> rfl
  fkOrder id l h := by
    match id with
    | 0 => cases h
    | 1 =>
      cases h
      simp
    | id + 2 => cases h

/-- A line is shipped, refunded, shipped and refunded. -/
def patches : Nat → OrderLineStatusUpdate
  | 1 | 3 => ⟨.refunded, none⟩
  | _ => ⟨.shipped, none⟩

/-- Client 2 checks `SHIPPED` while the line is pending, and writes it once the line is refunded. -/
def staleShip : List (Event Env) := steps [2, 0, 0, 0, 0, 1, 1, 1, 1, 2, 2, 2, 3, 3, 3, 3]

theorem refunded_twice : ¬∀ (store : Store) (requests : Nat → Request) (id : Nat) (es : List (Event Env)),
    (∀ i, ∃ o payload, requests i = .updateLineStatus o id payload) →
      LineLaw (column program .orderLine OrderLine.status id (store.serve requests) es) := by
  intro h
  have hlaw := h pendingLine (fun i => .updateLineStatus 1 1 (patches i)) 1 staleShip fun i => ⟨1, patches i, rfl⟩
  exact absurd hlaw.refundedOnce (by decide)

end IrisService.Orders
