import IrisService.Library.Runs
import IrisService.Orders.TotalsStep

/-! The invariant behind the order totals, and the steps that keep it. -/

namespace IrisService.Orders
open ReadCommitted Products

/-- Every committed total is the sum of its committed lines. -/
def Balanced (d : State) : Prop := ∀ o, totalOf d.committed o = sumOf (d.seq .orderLine) d.committed o

/-- What holds in every run. -/
structure TotalsInv (d : State) : Prop where
  wf : d.Wf
  balanced : Balanced d
  ok : ∀ i, Ok (d.seq .orderLine) d.committed (d.client i).writes (d.client i).state.phase
  /-- Nobody else holds a new total of an order that one client is about to store. -/
  alone : ∀ i j o, (d.client i).state.phase.Holds o → (d.client j).state.phase.Holds o → i = j
  sameOrder : ∀ id l l', d.Version .orderLine id l → d.Version .orderLine id l' →
    OrderLine.orderId l = OrderLine.orderId l'
  deleting : ∀ i id o, (d.client i).state.deleting = some (id, o) →
    id < d.seq .orderLine ∧ ∀ l, d.Version .orderLine id l → OrderLine.orderId l = o
  kept : ∀ i, (d.client i).state.deletesOrder = false

/-- Client `i` may sum the lines of `o` now: no other client holds a new total of `o`, and a sum that the
    ORM would not flush, because it equals the total this session loaded, is the committed total. -/
def MaySum (d : State) (i o loaded : Nat) : Prop :=
  (∀ j, j ≠ i → ¬(d.client j).state.phase.Holds o) ∧
    (totalOf d.committed o = loaded ∨ recomputedTotal (d.view i) o ≠ loaded)

/-- The step sums no lines, or sums them when it may. -/
def SafeRecompute (d : State) : Event Env → Prop
  | .step i _ => ∀ o loaded, (d.client i).state.recomputing = some (o, loaded) → MaySum d i o loaded
  | .fail _ => True

/-- The action sums no lines, or may sum them. -/
def MaySumBy (d : State) (i : Nat) (a : Action Row Session) : Prop :=
  ∀ s o loaded, a = .next s → (d.client i).state.recomputing = some (o, loaded) → MaySum d i o loaded

section Writes
variable {n : Nat} {c : Rows Row} {w : Writes Row} {o id : Nat}

theorem totalOf_set {r : Option Order} :
    totalOf ((w.set ⟨.orders, id, r⟩).onto c) o =
      if o = id then (r.map Order.totalAmount).getD 0 else totalOf (w.onto c) o := by
  split
  · subst o
    unfold totalOf
    rw [Writes.onto_of_some Writes.set_self]
    cases r <;> rfl
  · rename_i hne
    exact totalOf_congr (by simp only [Writes.onto, Writes.set_of_id_ne hne])

theorem sumOf_set_of_orders {r : Option Order} : sumOf n ((w.set ⟨.orders, id, r⟩).onto c) o = sumOf n (w.onto c) o :=
  sumOf_congr fun id' _ => by
    simp only [Writes.onto]
    rw [Writes.set_of_table_ne (by decide)]

theorem totalOf_set_of_orderLine {r : Option OrderLine} :
    totalOf ((w.set ⟨.orderLine, id, r⟩).onto c) o = totalOf (w.onto c) o :=
  totalOf_congr (by
    simp only [Writes.onto]
    rw [Writes.set_of_table_ne (by decide)])

/-- A line that is written replaces its amount in the sum. -/
theorem sumOf_set {r : Option OrderLine} (hid : id < n) :
    sumOf n ((w.set ⟨.orderLine, id, r⟩).onto c) o + lineAmount ((w.onto c) .orderLine id) o =
      sumOf n (w.onto c) o + lineAmount r o := by
  have hmem : id ∈ Finset.range n := Finset.mem_range.mpr hid
  unfold sumOf
  rw [← Finset.sum_erase_add _ _ hmem, ← Finset.sum_erase_add (Finset.range n) _ hmem,
    Writes.onto_of_some Writes.set_self]
  have hrest : ∀ x ∈ (Finset.range n).erase id,
      lineAmount (((w.set ⟨.orderLine, id, r⟩).onto c) .orderLine x) o = lineAmount ((w.onto c) .orderLine x) o := by
    intro x hx
    simp only [Writes.onto]
    rw [Writes.set_of_id_ne (Finset.ne_of_mem_erase hx)]
  rw [Finset.sum_congr rfl hrest]
  omega

end Writes

namespace Ok
variable {n : Nat} {c : Rows Row} {w : Writes Row} {o id total : Nat}

theorem insertOrder {row : Order} (h : Ok n c w .clean) (hc : (w.onto c) .orders id = none) (htotal : row.totalAmount = 0) :
    Ok n c (w.set ⟨.orders, id, some row⟩) .clean := by
  intro o
  rw [totalOf_set, sumOf_set_of_orders]
  refine ⟨?_, (h o).2⟩
  split
  · subst o
    rw [← (h id).1]
    simp [totalOf, hc, htotal]
  · exact (h o).1

theorem rewriteOrder {row row' : Order} (h : Ok n c w .clean) (hrow : (w.onto c) .orders id = some row)
    (htotal : row'.totalAmount = row.totalAmount) : Ok n c (w.set ⟨.orders, id, some row'⟩) .clean := by
  intro o
  rw [totalOf_set, sumOf_set_of_orders]
  refine ⟨?_, (h o).2⟩
  split
  · subst o
    rw [← (h id).1]
    simp [totalOf, hrow, htotal]
  · exact (h o).1

theorem storeOrder {row' : Order} (h : Ok n c w (.summed o total)) (htotal : row'.totalAmount = total) :
    Ok n c (w.set ⟨.orders, o, some row'⟩) (.stored o total) := by
  obtain ⟨h1, h2, h3⟩ := h
  simp only [Ok, totalOf_set, sumOf_set_of_orders]
  refine ⟨fun o' hne => ?_, h2, ?_, ?_, h3⟩
  · rw [if_neg hne]
    exact h1 o'
  · rw [Writes.set_self]
    exact Option.some_ne_none _
  · rw [if_pos trivial]
    exact htotal

/-- A line of `o`, written or deleted, moves no other sum. -/
theorem changeLine {r : Option OrderLine} (h : Ok n c w .clean) (hid : id < n)
    (hold : ∀ l, (w.onto c) .orderLine id = some l → OrderLine.orderId l = o) (hnew : ∀ l, r = some l → l.orderId = o) :
    Ok n c (w.set ⟨.orderLine, id, r⟩) (.changed o r.isNone) := by
  have hother : ∀ (r : Option OrderLine) o', (∀ l, r = some l → l.orderId = o) → o' ≠ o → lineAmount r o' = 0 := by
    intro r o' hr hne
    cases r with
    | none => rfl
    | some l => simp [lineAmount, hr l rfl, hne.symm]
  refine ⟨fun o' => ?_, fun o' hne => ?_, fun hnone => ?_⟩
  · rw [totalOf_set_of_orderLine]
    exact (h o').1
  · have hset := sumOf_set (c := c) (w := w) (o := o') (r := r) hid
    have h1 := hother _ o' hold hne
    have h2 := hother r o' hnew hne
    have h3 := (h o').2
    omega
  · have hset := sumOf_set (c := c) (w := w) (o := o) (r := r) hid
    rw [Option.isNone_iff_eq_none] at hnone
    subst hnone
    have h3 := (h o).2
    simp only [lineAmount] at hset
    omega

theorem rewriteLine {row row' : OrderLine} (h : Ok n c w .clean) (hid : id < n)
    (hrow : (w.onto c) .orderLine id = some row) (horder : row'.orderId = row.orderId)
    (hprice : row'.unitPriceAtOrder = row.unitPriceAtOrder) (hquantity : row'.quantity = row.quantity) :
    Ok n c (w.set ⟨.orderLine, id, some row'⟩) .clean := by
  intro o
  refine ⟨totalOf_set_of_orderLine.trans (h o).1, ?_⟩
  have hset := sumOf_set (c := c) (w := w) (o := o) (r := some row') hid
  have hsame : lineAmount (some row') o = lineAmount ((w.onto c) .orderLine id) o := by
    rw [hrow]
    simp only [lineAmount, horder, hprice, hquantity]
  have h3 := (h o).2
  omega

theorem sum {loaded : Nat} {shrinks : Bool} (h : Ok n c w (.changed o shrinks)) (hbal : totalOf c o = sumOf n c o)
    (hloaded : totalOf c o = loaded ∨ sumOf n (w.onto c) o ≠ loaded) :
    Ok n c w (summedPhase o loaded (sumOf n (w.onto c) o) false) := by
  obtain ⟨h1, h2, h3⟩ := h
  unfold summedPhase
  split
  · rename_i hsame
    intro o'
    refine ⟨h1 o', ?_⟩
    by_cases hne : o' = o
    · subst hne
      rcases hloaded with h | h
      · omega
      · exact absurd hsame h
    · exact h2 o' hne
  · exact ⟨h1, h2, rfl⟩

/-- An order that is gone has no lines left. -/
theorem gone (h : Ok n c w (.changed o true)) (hbal : totalOf c o = sumOf n c o) (hrow : (w.onto c) .orders o = none) :
    Ok n c w .clean := by
  obtain ⟨h1, h2, h3⟩ := h
  intro o'
  refine ⟨h1 o', ?_⟩
  by_cases hne : o' = o
  · subst hne
    have hzero : totalOf (w.onto c) o' = 0 := by simp [totalOf, hrow]
    have := h1 o'
    have := h3 rfl
    omega
  · exact h2 o' hne

/-- Changes that are put back in line may be committed: the totals still equal the sums. -/
theorem commit {φ : Phase} (h : Ok n c w φ) (hφ : φ = .clean ∨ ∃ o total, φ = .stored o total)
    (hbal : ∀ o, totalOf c o = sumOf n c o) : ∀ o, totalOf (w.onto c) o = sumOf n (w.onto c) o := by
  intro o
  rcases hφ with rfl | ⟨o', total, rfl⟩
  · have := h o
    have := hbal o
    omega
  · obtain ⟨h1, h2, -, h3, h4⟩ := h
    by_cases hne : o = o'
    · subst hne
      omega
    · have := h1 o hne
      have := h2 o hne
      have := hbal o
      omega

theorem sumOf_commit {φ : Phase} (h : Ok n c w φ) (hφ : φ = .clean ∨ ∃ o total, φ = .stored o total) (hnot : ¬φ.Holds o) :
    sumOf n (w.onto c) o = sumOf n c o := by
  rcases hφ with rfl | ⟨o', total, rfl⟩
  · exact (h o).2
  · refine h.2.1 o ?_
    rintro rfl
    exact hnot ⟨total, Or.inr rfl⟩

end Ok

/-! ### One step -/

namespace TotalsInv
variable {d : State} {i : Nat} {a : Action Row Session}

theorem ok_mono (h : TotalsInv d) {t : Table} : ∀ j, Ok (Function.update d.seq t (d.seq t + 1) .orderLine) d.committed
    (d.client j).writes (d.client j).state.phase := by
  intro j
  by_cases ht : Table.orderLine = t
  · subst ht
    rw [Function.update_self]
    exact (h.ok j).grow (h.wf.fresh .orderLine _ (Nat.le_refl _)).1 (h.wf.writes_fresh (Nat.le_refl _))
  · rw [Function.update_of_ne ht]
    exact h.ok j

/-- What a line sees of its order is the same for everybody. -/
theorem lines_of (h : TotalsInv d) {id o : Nat} (hdel : (d.client i).state.deleting = some (id, o)) :
    ∀ l, (d.view i).rows .orderLine id = some l → OrderLine.orderId l = o :=
  fun l hl => (h.deleting i id o hdel).2 l (Db.version_of_view hl)

/-- The client that takes the step is described by its new phase. -/
theorem own (h : TotalsInv d) (hm : Moves (d.view i) (d.client i).state a)
    (hsafe : MaySumBy d i a) :
    Ok ((d.perform i a).seq .orderLine) (d.perform i a).committed ((d.perform i a).client i).writes
      ((d.perform i a).client i).state.phase := by
  have hok := h.ok i
  have hseen : ∀ {t : Table} {id : Nat} {row : Row t}, (d.view i).rows t id = some row → id < d.seq t := by
    intro t id row hrow
    by_contra hlt
    have hle := Nat.not_lt.mp hlt
    rw [Db.view_rows, Writes.onto_of_none (h.wf.writes_fresh hle), (h.wf.fresh t id hle).1] at hrow
    cases hrow
  cases hm with
  | read hphase _ =>
    simp only [Db.perform, Function.update_self, hphase]
    exact hok
  | @sum s' o loaded shrinks hrec hs hs' _ =>
    rw [hs] at hok
    simp only [Db.perform, Function.update_self, hs', recomputedTotal_eq]
    refine hok.sum (h.balanced o) ((hsafe _ o loaded rfl hrec).2.imp_right fun hne => ?_)
    rwa [recomputedTotal_eq] at hne
  | @missed s' o hs hs' _ =>
    rw [hs] at hok
    simp only [Db.perform, Function.update_self, hs']
    exact ⟨fun o' => (hok o').1, fun o' _ => (hok o').2, fun _ => Nat.le_of_eq (hok o).2⟩
  | @gone s' o hs hrow hs' _ =>
    rw [hs] at hok
    simp only [Db.perform, Function.update_self, hs']
    exact hok.gone (h.balanced o) hrow
  | @insertOrder row s' hs htotal hs' _ =>
    have hgrow := h.ok_mono (t := .orders) i
    rw [hs] at hgrow
    simp only [Db.perform, Db.put, Function.update_self, hs', Writes.setAll_cons, Writes.setAll_nil]
    refine hgrow.insertOrder ?_ htotal
    rw [Writes.onto_of_none (h.wf.writes_fresh (Nat.le_refl _))]
    exact (h.wf.fresh .orders _ (Nat.le_refl _)).1
  | @insertLine row s' hs hs' _ =>
    have hgrow := h.ok_mono (t := .orderLine) i
    rw [hs, Function.update_self] at hgrow
    simp only [Db.perform, Db.put, Function.update_self, hs', Writes.setAll_cons, Writes.setAll_nil]
    refine hgrow.changeLine (Nat.lt_succ_self _) (fun l hl => ?_) fun l hl => ?_
    · rw [Writes.onto_of_none (h.wf.writes_fresh (Nat.le_refl _)), (h.wf.fresh .orderLine _ (Nat.le_refl _)).1] at hl
      cases hl
    · cases hl
      rfl
  | @insertProduct row s' hs hs' _ =>
    have hgrow := h.ok_mono (t := .product) i
    rw [hs] at hgrow
    simp only [Db.perform, Db.put, Function.update_self, hs', Writes.setAll_cons, Writes.setAll_nil]
    exact hgrow.congr (funext fun id => Writes.set_of_table_ne (by decide))
      (funext fun id => Writes.set_of_table_ne (by decide))
  | @rewriteOrder o row row' s' hs hrow htotal hs' _ =>
    simp only [Db.perform]
    split
    · rw [hs] at hok
      simp only [Db.put, Function.update_self, hs', Writes.setAll_cons, Writes.setAll_nil]
      exact hok.rewriteOrder hrow htotal
    · exact hok
  | @storeOrder o total row row' s' hs _ htotal hs' _ =>
    simp only [Db.perform]
    split
    · rw [hs] at hok
      simp only [Db.put, Function.update_self, hs', Writes.setAll_cons, Writes.setAll_nil]
      exact hok.storeOrder htotal
    · exact hok
  | @rewriteLine id row row' s' hs hrow horder hprice hquantity hs' _ =>
    simp only [Db.perform]
    split
    · rw [hs] at hok
      simp only [Db.put, Function.update_self, hs', Writes.setAll_cons, Writes.setAll_nil]
      exact hok.rewriteLine (hseen hrow) hrow horder hprice hquantity
    · exact hok
  | @deleteLine id o s' hs hdel hs' _ =>
    simp only [Db.perform]
    split
    · rw [hs] at hok
      simp only [Db.put, Function.update_self, hs', Writes.setAll_cons, Writes.setAll_nil]
      exact hok.changeLine (r := none) (h.deleting i id o hdel).1 (h.lines_of hdel) (fun _ hl => by cases hl)
    · exact hok
  | @writeProduct id row s' hs hs' _ =>
    simp only [Db.perform]
    split
    · rw [hs] at hok
      simp only [Db.put, Function.update_self, hs', Writes.setAll_cons, Writes.setAll_nil]
      exact hok.congr (funext fun id => Writes.set_of_table_ne (by decide))
        (funext fun id => Writes.set_of_table_ne (by decide))
    · exact hok
  | commit _ hs' _ =>
    simp only [Db.perform, Db.finish, Function.update_self, hs']
    exact Ok.empty
  | rollback hs' _ =>
    simp only [Db.perform, Db.finish, Function.update_self, hs']
    exact Ok.empty

/-- A new identity joins the committed sums with nothing. -/
theorem sumOf_perform (h : TotalsInv d) (o : Nat) :
    sumOf ((d.perform i a).seq .orderLine) d.committed o = sumOf (d.seq .orderLine) d.committed o := by
  cases a with
  | insert t row s =>
    by_cases ht : Table.orderLine = t
    · subst ht
      simp only [Db.perform, Function.update_self]
      exact sumOf_succ (h.wf.fresh .orderLine _ (Nat.le_refl _)).1
    · simp only [Db.perform, Function.update_of_ne ht]
  | _ => rw [Db.perform_seq (by simp)]

theorem balanced_perform (h : TotalsInv d) (hm : Moves (d.view i) (d.client i).state a) : Balanced (d.perform i a) := by
  intro o
  cases a with
  | commit s =>
    cases hm with
    | commit hs _ _ => exact (h.ok i).commit hs h.balanced o
  | _ =>
    rw [Db.perform_committed (by simp), h.sumOf_perform]
    exact h.balanced o

/-- A step leaves the sums of the orders whose new total another client holds. -/
theorem sumOf_of_holds (h : TotalsInv d) (hm : Moves (d.view i) (d.client i).state a) {j o : Nat} (hne : j ≠ i)
    (hj : (d.client j).state.phase.Holds o) :
    sumOf ((d.perform i a).seq .orderLine) (d.perform i a).committed o =
      sumOf ((d.perform i a).seq .orderLine) d.committed o := by
  cases a with
  | commit s =>
    cases hm with
    | commit hs _ _ => exact (h.ok i).sumOf_commit hs fun hi => hne (h.alone j i o hj hi)
  | _ => rw [Db.perform_committed (by simp)]

theorem ok_grow (h : TotalsInv d) (j : Nat) :
    Ok ((d.perform i a).seq .orderLine) d.committed (d.client j).writes (d.client j).state.phase := by
  cases a with
  | insert t row s => exact h.ok_mono j
  | write cs s =>
    simp only [Db.perform]
    split <;> exact h.ok j
  | _ => exact h.ok j

theorem ok_perform (h : TotalsInv d) (hm : Moves (d.view i) (d.client i).state a)
    (hsafe : MaySumBy d i a) (j : Nat) :
    Ok ((d.perform i a).seq .orderLine) (d.perform i a).committed ((d.perform i a).client j).writes
      ((d.perform i a).client j).state.phase := by
  by_cases hne : j = i
  · subst hne
    exact h.own hm hsafe
  · rw [Db.perform_client_of_ne hne]
    exact (h.ok_grow j).others (fun o hw => h.wf.committed_of_writes hw hne)
      (fun id hw => h.wf.committed_of_writes hw hne) fun o hj => h.sumOf_of_holds hm hne hj

theorem alone_perform (h : TotalsInv d) (hm : Moves (d.view i) (d.client i).state a)
    (hsafe : MaySumBy d i a) (j k o : Nat)
    (hj : ((d.perform i a).client j).state.phase.Holds o) (hk : ((d.perform i a).client k).state.phase.Holds o) :
    j = k := by
  -- A client that comes to hold a total has just summed, alone; every other one held it before.
  have hnew : ((d.perform i a).client i).state.phase.Holds o →
      (d.client i).state.phase.Holds o ∨ ∀ j, j ≠ i → ¬(d.client j).state.phase.Holds o := by
    refine Db.perform_state (P := fun s : Session => s.phase.Holds o → _) Or.inl ?_
    have hclean : ∀ {φ : Phase} {p : Prop}, φ = .clean → φ.Holds o → p := by
      rintro φ p rfl ⟨t, h | h⟩ <;> cases h
    have hchanged : ∀ {φ : Phase} {o' shrinks} {p : Prop}, φ = .changed o' shrinks → φ.Holds o → p := by
      rintro φ o' shrinks p rfl ⟨t, h | h⟩ <;> cases h
    cases hm with
    | read hphase _ =>
      intro hs'
      rw [hphase] at hs'
      exact Or.inl hs'
    | @sum s' o' loaded shrinks hrec hs hs' _ =>
      rintro ⟨t, ht⟩
      rw [hs'] at ht
      unfold summedPhase at ht
      rcases ht with ht | ht
      · split at ht
        · cases ht
        · cases ht
          exact Or.inr (hsafe _ _ loaded rfl hrec).1
      · split at ht <;> cases ht
    | missed _ hs' _ => exact hchanged hs'
    | gone _ _ hs' _ => exact hclean hs'
    | insertOrder _ _ hs' _ => exact fun id => hclean (hs' id)
    | insertLine _ hs' _ => exact fun id => hchanged (hs' id)
    | insertProduct _ hs' _ => exact fun id => hclean (hs' id)
    | rewriteOrder _ _ _ hs' _ => exact hclean hs'
    | @storeOrder o' total row row' s' hs _ _ hs' _ =>
      rintro ⟨t, ht⟩
      rw [hs'] at ht
      rcases ht with ht | ht
      · cases ht
      · cases ht
        exact Or.inl ⟨total, Or.inl hs⟩
    | rewriteLine _ _ _ _ _ hs' _ => exact hclean hs'
    | deleteLine _ _ hs' _ => exact hchanged hs'
    | writeProduct _ hs' _ => exact hclean hs'
    | commit _ hs' _ => exact hclean hs'
    | rollback hs' _ => exact hclean hs'
  have hold : ∀ {m}, m ≠ i → ((d.perform i a).client m).state.phase.Holds o → (d.client m).state.phase.Holds o := by
    intro m hm hh
    rwa [Db.perform_client_of_ne hm] at hh
  by_cases hji : j = i
  · subst hji
    by_cases hki : k = j
    · exact hki.symm
    · rcases hnew hj with hj | hj
      · exact h.alone j k o hj (hold hki hk)
      · exact absurd (hold hki hk) (hj k hki)
  · by_cases hki : k = i
    · subst hki
      rcases hnew hk with hk | hk
      · exact h.alone j k o (hold hji hj) hk
      · exact absurd (hold hji hj) (hk j hji)
    · exact h.alone j k o (hold hji hj) (hold hki hk)

/-- The lines that a step writes keep their order. -/
theorem version_perform (hm : Moves (d.view i) (d.client i).state a) {id : Nat} {l : OrderLine}
    (hl : (d.perform i a).Version .orderLine id l) (hid : id ≠ d.seq .orderLine) :
    ∃ l', d.Version .orderLine id l' ∧ OrderLine.orderId l' = l.orderId := by
  rcases Db.perform_version hl with hl | ⟨row, s, rfl, hseq, -⟩ | ⟨cs, s, rfl, hmem⟩
  · exact ⟨l, hl, rfl⟩
  · exact absurd hseq hid
  · cases hm with
    | rewriteLine _ hrow horder _ _ _ _ =>
      cases List.mem_singleton.mp hmem
      exact ⟨_, Db.version_of_view hrow, horder.symm⟩
    | _ => simp at hmem

theorem version_lt (h : TotalsInv d) {id : Nat} {l : OrderLine} (hl : d.Version .orderLine id l) :
    id < d.seq .orderLine := by
  by_contra hlt
  have hle := Nat.not_lt.mp hlt
  rcases hl with hl | ⟨j, hl⟩
  · rw [(h.wf.fresh .orderLine id hle).1] at hl
    cases hl
  · rw [h.wf.writes_fresh hle] at hl
    cases hl

theorem sameOrder_perform (h : TotalsInv d) (hm : Moves (d.view i) (d.client i).state a) (id : Nat) (l l' : OrderLine)
    (hl : (d.perform i a).Version .orderLine id l) (hl' : (d.perform i a).Version .orderLine id l') :
    OrderLine.orderId l = OrderLine.orderId l' := by
  by_cases hid : id = d.seq .orderLine
  · -- The line is being inserted, and this is its only version.
    have hnew : ∀ {l}, (d.perform i a).Version .orderLine id l →
        ∃ row s, a = .insert .orderLine row s ∧ OrderLine.orderId l = OrderLine.orderId (row id) := by
      intro l hl
      rcases Db.perform_version hl with hl | ⟨row, s, ha, -, rfl⟩ | ⟨cs, s, rfl, hmem⟩
      · exact absurd (h.version_lt hl) (by omega)
      · exact ⟨row, s, ha, rfl⟩
      · cases hm with
        | rewriteLine _ hrow _ _ _ _ _ =>
          cases List.mem_singleton.mp hmem
          exact absurd (h.version_lt (Db.version_of_view hrow)) (by omega)
        | _ => simp at hmem
    obtain ⟨row, s, rfl, hrow⟩ := hnew hl
    obtain ⟨row', s', ha, hrow'⟩ := hnew hl'
    cases ha
    exact hrow.trans hrow'.symm
  · obtain ⟨m, hm1, hm2⟩ := version_perform hm hl hid
    obtain ⟨m', hm1', hm2'⟩ := version_perform hm hl' hid
    rw [← hm2, ← hm2']
    exact h.sameOrder id m m' hm1 hm1'

theorem deleting_perform (h : TotalsInv d) (hm : Moves (d.view i) (d.client i).state a) (j id o : Nat)
    (hj : ((d.perform i a).client j).state.deleting = some (id, o)) :
    id < (d.perform i a).seq .orderLine ∧ ∀ l, (d.perform i a).Version .orderLine id l → OrderLine.orderId l = o := by
  have hbefore : id < d.seq .orderLine ∧ ∀ l, d.Version .orderLine id l → OrderLine.orderId l = o := by
    by_cases hne : j = i
    · subst hne
      revert hj
      refine Db.perform_state (P := fun s : Session => s.deleting = some (id, o) → _) (h.deleting j id o) ?_
      cases hm with
      | read _ hdel =>
        intro hs'
        obtain ⟨l, hl, rfl⟩ := hdel id o hs'
        exact ⟨h.version_lt (Db.version_of_view hl), fun l' hl' => h.sameOrder id l' l hl' (Db.version_of_view hl)⟩
      | insertOrder _ _ _ hdel | insertLine _ _ hdel | insertProduct _ _ hdel =>
          exact fun id' hs' => by simp [hdel id'] at hs'
      | _ => exact fun hs' => by simp_all
    · rw [Db.perform_client_of_ne hne] at hj
      exact h.deleting j id o hj
  refine ⟨Nat.lt_of_lt_of_le hbefore.1 Db.seq_le_perform, fun l hl => ?_⟩
  obtain ⟨l', hl', horder⟩ := version_perform hm hl (Nat.ne_of_lt hbefore.1)
  rw [← horder]
  exact hbefore.2 l' hl'

theorem perform (h : TotalsInv d) (hm : Moves (d.view i) (d.client i).state a)
    (hsafe : MaySumBy d i a)
    (hkept : a.All fun s => s.deletesOrder = false) : TotalsInv (d.perform i a) where
  wf := h.wf.perform a
  balanced := h.balanced_perform hm
  ok := h.ok_perform hm hsafe
  alone := h.alone_perform hm hsafe
  sameOrder := h.sameOrder_perform hm
  deleting := h.deleting_perform hm
  kept j := by
    by_cases hne : j = i
    · subst hne
      exact Db.perform_state (P := fun s : Session => s.deletesOrder = false) (h.kept j) hkept
    · rw [Db.perform_client_of_ne hne]
      exact h.kept j

/-- A request that does not delete an order never comes to delete one. -/
theorem act_kept {e : Env} {s : Session} {v : View Row} (h : s.deletesOrder = false) :
    (act e s v).All fun s => s.deletesOrder = false := by
  cases s with
  | deleteOrder o st => cases h
  | _ => exact Action.all_map.mpr (Action.all_of_forall fun _ => rfl)

theorem refused_kept {s : Session} (h : s.deletesOrder = false) : s.refused.deletesOrder = false := by
  unfold Session.refused
  split
  · exact h
  · cases s with
    | deleteOrder o st => cases h
    | _ => rfl

theorem refused_moves {s : Session} {v : View Row} : Moves v s (.rollback s.refused) := by
  have h : s.refused.phase = .clean ∧ s.refused.deleting = none := by
    unfold Session.refused
    split
    · rename_i hdone
      unfold Session.reply? at hdone
      split at hdone
      all_goals first | exact ⟨rfl, rfl⟩ | cases hdone
    · cases s <;> exact ⟨rfl, rfl⟩
  exact .rollback h.1 h.2

theorem step (h : TotalsInv d) {e : Event Env} (hsafe : SafeRecompute d e) : TotalsInv (Orders.step d e) := by
  cases e with
  | step i e => exact h.perform (act_moves (h.kept i)) (fun _ o loaded _ => hsafe o loaded) (act_kept (h.kept i))
  | fail i => exact h.perform refused_moves (fun _ _ _ hnext => by cases hnext) (refused_kept (h.kept i))

end TotalsInv

end IrisService.Orders
