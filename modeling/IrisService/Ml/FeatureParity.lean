import IrisService.Ml.Extraction

/-! The training-side and the inference-side features of one customer, on the same tables. -/

namespace IrisService.Ml
open GroupBy DateTime

/-- The rows of the database; an order id is a primary key. -/
structure Tables where
  customers : List CustomerRow
  orders : List OrderRow
  orderLines : List OrderLineRow
  orderIds : (orders.map OrderRow.id).Nodup

namespace Tables

/-- `select(Order).where(Order.customer_id == customer_id)` -/
def ordersOf (t : Tables) (customerId : Nat) : List OrderRow := t.orders.filter fun o => o.customerId = customerId

/-- `select(OrderLine).where(OrderLine.order_id.in_(order_ids))` -/
def linesOf (t : Tables) (customerId : Nat) : List OrderLineRow :=
  t.orderLines.filter fun l => l.orderId ∈ (t.ordersOf customerId).map OrderRow.id

/-- The training features of all customers. -/
def features (t : Tables) (now : DateTime) : Except String Frame :=
  buildFeatures (withLastOrder t.customers t.orders) t.orders t.orderLines now

/-- The features, where nothing is raised. -/
def frame (t : Tables) (now : DateTime) : Frame :=
  featureFrame (withLastOrder t.customers t.orders) t.orders t.orderLines now

/-- Every date carries an offset. -/
structure Marked (t : Tables) : Prop where
  customers : ∀ c ∈ t.customers, c.createdAt.utcoffset ≠ none
  orders : ∀ o ∈ t.orders, ∀ d, o.createdAt = some d → d.utcoffset ≠ none

variable {t : Tables} {customerId : Nat} {now : DateTime}

/-! ### The training columns, customer by customer -/

theorem group_orders (t : Tables) (customerId : Nat) :
    group (fun o : OrderRow => some o.customerId) t.orders customerId = t.ordersOf customerId := by
  simp only [group, ordersOf, Option.some.injEq]

theorem lookup_lastOrder (t : Tables) (customerId : Nat) :
    ((agg (fun o => some o.customerId) t.orders
      fun os => latest (os.filterMap OrderRow.createdAt)).lookup customerId).join =
      latest ((t.ordersOf customerId).filterMap OrderRow.createdAt) := by
  rw [lookup_agg, group_orders]
  split
  · rename_i hnil
    rw [hnil]
    rfl
  · rfl

theorem getD_revenue (t : Tables) (customerId : Nat) (now : DateTime) (windowDays : Nat) :
    ((revenue t.orders now windowDays).lookup customerId).getD 0 =
      sumRevenueWithin (t.ordersOf customerId) now windowDays := by
  rw [revenue, getD_lookup_agg _ (by rfl), sumRevenueWithin_eq, group, ordersOf]
  simp only [Option.some.injEq, List.filter_filter, Bool.and_comm]

theorem getD_orderCount (t : Tables) (customerId : Nat) :
    ((orderCount t.orders).lookup customerId).getD 0 = (t.ordersOf customerId).length := by
  rw [orderCount, getD_lookup_agg _ (by rfl), group_orders]

/-- The lines that the merge gives to a customer are those of its orders. -/
theorem group_enriched (t : Tables) (customerId : Nat) :
    (group (fun e => e.2.map OrderRow.customerId) (leftJoin OrderLineRow.orderId OrderRow.id t.orderLines t.orders)
      customerId).map Prod.fst = t.linesOf customerId := by
  have hkey : ∀ e : OrderLineRow × Option OrderRow,
      decide (e.2.map OrderRow.customerId = some customerId) = e.2.any fun o => o.customerId = customerId := by
    intro e
    cases e.2 <;> simp
  rw [group, funext hkey, filter_leftJoin t.orderIds]
  rfl

theorem getD_diversity (t : Tables) (customerId : Nat) :
    ((diversity t.orders t.orderLines).lookup customerId).getD 0 = computeDiversity (t.linesOf customerId) := by
  have hlines := group_enriched t customerId
  rw [diversity, lookup_map fun v : Option ℚ => v.getD 0, lookup_zipWith, distinctProducts, totalLines, lookup_agg,
    lookup_agg, ← hlines, computeDiversity_eq, List.map_map, List.length_map]
  split
  · rename_i hnil
    simp [hnil]
  · rename_i hne
    have htotal : ((group (fun e => e.2.map OrderRow.customerId)
        (leftJoin OrderLineRow.orderId OrderRow.id t.orderLines t.orders) customerId).length : ℚ) ≠ 0 := by
      rw [Nat.cast_ne_zero, ne_eq, List.length_eq_zero_iff]
      exact hne
    simp only [Option.map_some, Option.getD_some, if_neg htotal]
    rfl

/-- The dates of the last orders are dates of orders, so that marked tables have marked columns. -/
theorem features_iff (haware : now.utcoffset ≠ none) {frame : Frame} :
    t.features now = .ok frame ↔ (365 * day ≤ now.wall ∧ t.Marked) ∧ t.frame now = frame := by
  have hmarked : ∀ d : DateTime, d.utcoffset.isNone = now.utcoffset.isNone ↔ d.utcoffset ≠ none := by
    intro d
    rw [Extraction.isNone_of_aware haware, Option.isNone_eq_false_iff, Option.isSome_iff_ne_none]
  have hcreated : (∀ d ∈ (withLastOrder t.customers t.orders).map fun c => c.createdAt, d.utcoffset ≠ none) ↔
      ∀ c ∈ t.customers, c.createdAt.utcoffset ≠ none := by
    simp only [withLastOrder, List.map_map, List.forall_mem_map, Function.comp_apply]
  have hdates : (∀ d ∈ t.orders.filterMap OrderRow.createdAt, d.utcoffset ≠ none) ↔
      ∀ o ∈ t.orders, ∀ d, o.createdAt = some d → d.utcoffset ≠ none := by
    simp only [List.mem_filterMap]
    exact ⟨fun h o ho d hd => h d ⟨o, ho, hd⟩, fun h d ⟨o, ho, hd⟩ => h o ho d hd⟩
  have hlast : ∀ d ∈ (withLastOrder t.customers t.orders).filterMap DatedCustomer.lastOrderAt,
      d ∈ t.orders.filterMap OrderRow.createdAt := by
    intro d hd
    obtain ⟨c, hc, hlastOrder⟩ := List.mem_filterMap.mp hd
    obtain ⟨c, -, rfl⟩ := List.mem_map.mp hc
    have hlatest : latest ((t.ordersOf c.id).filterMap OrderRow.createdAt) = some d := by
      rw [← lookup_lastOrder]
      exact hlastOrder
    obtain ⟨o, ho, hcreatedAt⟩ := List.mem_filterMap.mp (latest_spec hlatest).1
    exact List.mem_filterMap.mpr ⟨o, (List.mem_filter.mp ho).1, hcreatedAt⟩
  rw [features, buildFeatures_iff]
  simp only [hmarked]
  rw [hcreated, hdates]
  constructor
  · rintro ⟨⟨-, hdated, hyear, hcustomers⟩, hframe⟩
    exact ⟨⟨hyear, hcustomers, hdated⟩, hframe⟩
  · rintro ⟨⟨hyear, hcustomers, hdated⟩, hframe⟩
    exact ⟨⟨fun d hd => hdates.mpr hdated d (hlast d hd), hdated, hyear, hcustomers⟩, hframe⟩

/-! ### Parity -/

/-- A customer's row, in terms of its own orders and lines. -/
theorem row_frame (t : Tables) (now : DateTime) {i : Nat} {c : CustomerRow} (hc : t.customers[i]? = some c) :
    (t.frame now).row i =
      [daysSinceLastOrder now { c with lastOrderAt := latest ((t.ordersOf c.id).filterMap OrderRow.createdAt) },
        sumRevenueWithin (t.ordersOf c.id) now 30, sumRevenueWithin (t.ordersOf c.id) now 90,
        sumRevenueWithin (t.ordersOf c.id) now 365, (t.ordersOf c.id).length / lifetimeDays now c,
        computeDiversity (t.linesOf c.id), classifyEmailDomain c.email, lifetimeDays now c] := by
  have hdated : (withLastOrder t.customers t.orders)[i]? =
      some { c with lastOrderAt := latest ((t.ordersOf c.id).filterMap OrderRow.createdAt) } := by
    rw [withLastOrder, List.getElem?_map, hc, Option.map_some, lookup_lastOrder]
  rw [frame, row_featureFrame hdated]
  simp only [getD_revenue, getD_orderCount, getD_diversity]

/-- The one feature that may differ. -/
theorem daysSinceLastOrder_eq_iff (now : DateTime) (c : CustomerRow) {orders orders' : List OrderRow}
    (h : orders.Perm orders') :
    ((max 0 (now.daysSince ((latest (orders.filterMap fun o => o.createdAt.map ensureUtc)).getD
        c.createdAt.ensureUtc)) : Int) : ℚ) =
        daysSinceLastOrder now { c with lastOrderAt := latest (orders'.filterMap OrderRow.createdAt) } ↔
      (∃ o ∈ orders, o.createdAt ≠ none) ∨ max 0 (now.daysSince c.createdAt) = now.toordinal := by
  by_cases hdated : ∃ o ∈ orders, o.createdAt ≠ none
  · obtain ⟨o, ho, hcreated⟩ := hdated
    obtain ⟨createdAt, hcreated'⟩ := Option.ne_none_iff_exists'.mp hcreated
    have hsome : ∃ best, latest (orders.filterMap fun o => o.createdAt.map ensureUtc) = some best := by
      refine Option.ne_none_iff_exists'.mp fun hnone => ?_
      have hmem : createdAt.ensureUtc ∈ orders.filterMap fun o => o.createdAt.map ensureUtc :=
        List.mem_filterMap.mpr ⟨o, ho, by rw [hcreated']; rfl⟩
      rw [latest_eq_none_iff.mp hnone] at hmem
      cases hmem
    have hsome' : ∃ best, latest (orders'.filterMap OrderRow.createdAt) = some best := by
      refine Option.ne_none_iff_exists'.mp fun hnone => ?_
      have hmem : createdAt ∈ orders'.filterMap OrderRow.createdAt := List.mem_filterMap.mpr ⟨o, h.mem_iff.mp ho, hcreated'⟩
      rw [latest_eq_none_iff.mp hnone] at hmem
      cases hmem
    obtain ⟨best, hbest⟩ := hsome
    obtain ⟨best', hbest'⟩ := hsome'
    have hutc := utc_latest_perm h hbest hbest'
    refine iff_of_true ?_ (Or.inl ⟨o, ho, hcreated⟩)
    simp only [hbest, hbest', Option.getD_some, daysSinceLastOrder, daysSince, hutc]
  · have hnone : ∀ o ∈ orders, o.createdAt = none := fun o ho => by_contra fun hne => hdated ⟨o, ho, hne⟩
    have hnil : (orders.filterMap fun o => o.createdAt.map ensureUtc) = [] := by
      refine List.filterMap_eq_nil_iff.mpr fun o ho => ?_
      rw [hnone o ho]
      rfl
    have hnil' : orders'.filterMap OrderRow.createdAt = [] :=
      List.filterMap_eq_nil_iff.mpr fun o ho => hnone o (h.mem_iff.mpr ho)
    rw [hnil, hnil', latest_eq_none_iff.mpr rfl, Option.getD_none, daysSince_ensureUtc]
    show ((max 0 (now.daysSince c.createdAt) : Int) : ℚ) = (now.toordinal : ℚ) ↔ _
    constructor
    · intro heq
      exact Or.inr (by exact_mod_cast heq)
    · rintro (hdated' | heq)
      · exact absurd hdated' hdated
      · exact_mod_cast heq

/-- In UTC the age of an account never reaches the number of the day. -/
theorem age_ne_toordinal {now createdAt : DateTime} (hnow : now.utcoffset.getD 0 = 0)
    (hcreated : createdAt.utcoffset.getD 0 = 0) : max 0 (now.daysSince createdAt) ≠ now.toordinal := by
  have hage : now.daysSince createdAt ≤ (now.wall / day : Nat) := by
    rw [daysSince, Int.natCast_ediv]
    refine Int.ediv_le_ediv (by decide) ?_
    simp only [utc, hnow, hcreated]
    omega
  rw [toordinal]
  generalize now.wall / day = today at hage ⊢
  omega

end Tables

section Parity
variable {t : Tables} {now : DateTime} {i : Nat} {c : CustomerRow} {orders : List OrderRow} {orderLines : List OrderLineRow}

/-- Seven features always agree, so the vectors do when the first one does. -/
theorem extractFeatures_eq_row_iff (hc : t.customers[i]? = some c) (horders : orders.Perm (t.ordersOf c.id))
    (hlines : orderLines.Perm (t.linesOf c.id)) : extractFeatures c orders orderLines now = (t.frame now).row i ↔
      (∃ o ∈ orders, o.createdAt ≠ none) ∨ max 0 (now.daysSince c.createdAt) = now.toordinal := by
  rw [Tables.row_frame t now hc, ← Tables.daysSinceLastOrder_eq_iff now c horders]
  simp only [extractFeatures, sumRevenueWithin_perm horders, computeDiversity_perm hlines, horders.length_eq,
    daysSince_ensureUtc, lifetimeDays]
  constructor
  · intro h
    exact (List.cons.inj h).1
  · intro h
    rw [h]

/-- A customer without orders has another `days_since_last_order` on each side. -/
theorem extractFeatures_ne_row (hc : t.customers[i]? = some c) (horders : orders.Perm (t.ordersOf c.id))
    (hlines : orderLines.Perm (t.linesOf c.id)) (hnone : ∀ o ∈ orders, o.createdAt = none) (hnow : now.utcoffset.getD 0 = 0)
    (hcreated : c.createdAt.utcoffset.getD 0 = 0) : extractFeatures c orders orderLines now ≠ (t.frame now).row i := by
  intro heq
  rcases (extractFeatures_eq_row_iff hc horders hlines).mp heq with ⟨o, ho, hdated⟩ | hage
  · exact hdated (hnone o ho)
  · exact Tables.age_ne_toordinal hnow hcreated hage

end Parity

/-- Both sides compute the features of the customer, and they are the same. -/
def Agree (t : Tables) (now : DateTime) (i : Nat) (c : CustomerRow) (orders : List OrderRow)
    (orderLines : List OrderLineRow) : Prop :=
  ∃ frame features, t.features now = .ok frame ∧ Extraction.extractFeatures c orders orderLines now = .ok features ∧
    features = frame.row i

/-- Training and inference compute the same features of a customer exactly when every date carries an offset, and the
    customer has an order with a date, or was created so early that its age in days is the number of the day. -/
theorem features_agree_iff (t : Tables) (now : DateTime) (i : Nat) (c : CustomerRow) (hc : t.customers[i]? = some c)
    (orders : List OrderRow) (orderLines : List OrderLineRow) (horders : orders.Perm (t.ordersOf c.id))
    (hlines : orderLines.Perm (t.linesOf c.id)) : Agree t now i c orders orderLines ↔
      (now.utcoffset ≠ none ∧ 365 * day ≤ now.wall ∧ t.Marked) ∧
        ((∃ o ∈ orders, o.createdAt ≠ none) ∨ max 0 (now.daysSince c.createdAt) = now.toordinal) := by
  by_cases haware : now.utcoffset = none
  · refine iff_of_false ?_ fun h => h.1.1 haware
    rintro ⟨frame, features, -, hextract, -⟩
    rw [Extraction.extractFeatures_naive c orders orderLines haware] at hextract
    cases hextract
  · have hmarked := Extraction.isNone_of_aware haware
    rw [← extractFeatures_eq_row_iff hc horders hlines]
    constructor
    · rintro ⟨frame, features, hframe, hextract, hsame⟩
      obtain ⟨⟨hyear, htables⟩, rfl⟩ := (Tables.features_iff haware).mp hframe
      rw [Extraction.extractFeatures_ok c orders orderLines hmarked hyear] at hextract
      cases hextract
      exact ⟨⟨haware, hyear, htables⟩, hsame⟩
    · rintro ⟨⟨-, hyear, htables⟩, hsame⟩
      exact ⟨_, _, (Tables.features_iff haware).mpr ⟨⟨hyear, htables⟩, rfl⟩,
        Extraction.extractFeatures_ok c orders orderLines hmarked hyear, hsame⟩

/-- The given day of 2026, in UTC. -/
def utcDay (dayOfYear : Nat) : DateTime := ⟨(739616 + dayOfYear - 1) * day, some 0⟩

def adaRow : CustomerRow := ⟨1, "ada@example.com", utcDay 1⟩

/-- Two orders, of which the second is dated after day 100. -/
def adaTables : Tables where
  customers := [adaRow]
  orders := [⟨1, 1, some (utcDay 20), some 30⟩, ⟨2, 1, some (utcDay 101), some (25 / 2)⟩]
  orderLines := [⟨1, 7⟩, ⟨1, 7⟩, ⟨2, 8⟩]
  orderIds := by decide

theorem ada_features_agree : Agree adaTables (utcDay 100) 0 adaRow (adaTables.ordersOf 1) (adaTables.linesOf 1) := by
  have hmarked : adaTables.Marked := ⟨by simp [adaTables, adaRow, utcDay], by simp [adaTables, utcDay]⟩
  exact (features_agree_iff adaTables (utcDay 100) 0 adaRow rfl _ _ (List.Perm.refl _) (List.Perm.refl _)).mpr
    ⟨⟨nofun, by decide, hmarked⟩, Or.inl ⟨⟨1, 1, some (utcDay 20), some 30⟩, List.mem_filter.mpr ⟨List.mem_cons_self, rfl⟩,
      nofun⟩⟩

/-- Nothing is raised on a customer without orders, and the sides differ. -/
theorem no_order_no_parity : ¬∀ (t : Tables) (now : DateTime) (i : Nat) (c : CustomerRow), t.customers[i]? = some c →
    now.utcoffset ≠ none → 365 * day ≤ now.wall → t.Marked →
      ∀ (orders : List OrderRow) (orderLines : List OrderLineRow), orders.Perm (t.ordersOf c.id) →
        orderLines.Perm (t.linesOf c.id) → Agree t now i c orders orderLines := by
  intro h
  have haware : (utcDay 100).utcoffset ≠ none := by decide
  have hmarked : Tables.Marked ⟨[adaRow], [], [], List.nodup_nil⟩ := ⟨by simp [adaRow, utcDay], by simp⟩
  obtain ⟨frame, features, hframe, hextract, hsame⟩ := h ⟨[adaRow], [], [], List.nodup_nil⟩ (utcDay 100) 0 adaRow rfl haware
    (by decide) hmarked [] [] (List.Perm.refl _) (List.Perm.refl _)
  obtain ⟨-, rfl⟩ := (Tables.features_iff haware).mp hframe
  rw [Extraction.extractFeatures_ok adaRow [] [] rfl (by decide)] at hextract
  cases hextract
  exact extractFeatures_ne_row (t := ⟨[adaRow], [], [], List.nodup_nil⟩) rfl (List.Perm.refl _) (List.Perm.refl _)
    nofun rfl rfl hsame

end IrisService.Ml
