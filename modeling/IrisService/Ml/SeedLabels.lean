import IrisService.Ml.SeedData

/-! What the histories of `generate_dataset` look like, and how `label_churn` labels them. -/

namespace IrisService.Ml.SeedData
open GroupBy DateTime

section Histories
variable {args : Args} {draws : Draws} {cid : Nat}

/-! ### Dates -/

theorem utc_daysBefore {now : DateTime} {days : Int} (h : days * day ≤ now.wall) :
    (daysBefore now days).utc = now.utc - days * day := by
  simp only [utc, daysBefore]
  omega

/-- The dates computed exist when the earliest one does. -/
theorem mul_day_le {now : DateTime} (hvalid : 729 * day ≤ now.wall) {days : Int} (h : days < maxCustomerAgeDays) :
    days * day ≤ now.wall := by
  simp only [maxCustomerAgeDays, day] at h hvalid ⊢
  omega

/-! ### The bounds asked for -/

theorem age_of_target (hin : draws.InBounds args) (ht : args.isChurnedTarget cid = true) :
    120 ≤ args.age draws cid ∧ args.age draws cid < maxCustomerAgeDays := by
  rw [Args.age, if_pos ht]
  exact hin.churnedAges (cid - 1) (by decide)

theorem age_of_not_target (hin : draws.InBounds args) (ht : args.isChurnedTarget cid = false) :
    0 ≤ args.age draws cid ∧ args.age draws cid < maxCustomerAgeDays := by
  rw [Args.age, if_neg (by rw [ht]; exact Bool.false_ne_true)]
  exact hin.activeAges _ (by decide)

theorem age_bounds (hin : draws.InBounds args) (cid : Nat) :
    0 ≤ args.age draws cid ∧ args.age draws cid < maxCustomerAgeDays := by
  cases ht : args.isChurnedTarget cid with
  | true =>
    obtain ⟨hlow, hhigh⟩ := age_of_target hin ht
    exact ⟨by omega, hhigh⟩
  | false => exact age_of_not_target hin ht

/-- The loop recomputes the age that was drawn. -/
theorem ageDays_eq (hvalid : 729 * day ≤ args.now.wall) (hin : draws.InBounds args) (cid : Nat) :
    args.ageDays draws cid = args.age draws cid := by
  rw [Args.ageDays, daysSince, Args.customer, utc_daysBefore (mul_day_le hvalid (age_bounds hin cid).2), sub_sub_cancel]
  exact Int.mul_ediv_cancel _ (by decide)

theorem orderBounds_target {ageDays : Int} (h : 120 ≤ ageDays) (nOrders : Nat) :
    (orderBounds true ageDays nOrders).Nonempty ∧ 91 ≤ (orderBounds true ageDays nOrders).low ∧
      (orderBounds true ageDays nOrders).high = ageDays := by
  simp only [orderBounds, Bounds.Nonempty, if_true]
  split
  · refine ⟨by omega, le_refl _, by omega⟩
  · refine ⟨by omega, by omega, by omega⟩

/-- No bounds asked for are empty. -/
theorem requested_nonempty (hvalid : 729 * day ≤ args.now.wall) (hproducts : 1 ≤ args.nProducts)
    (hin : draws.InBounds args) :
    ∀ b ∈ args.requested draws, b.Nonempty := by
  intro b hb
  rcases List.mem_append.mp hb with hb | hb
  · rcases List.mem_append.mp hb with hb | hb
    · rcases List.mem_pair.mp hb with rfl | rfl
      · decide
      · decide
    · obtain ⟨cid, -, hb⟩ := List.mem_flatMap.mp hb
      cases ht : args.isChurnedTarget cid with
      | true =>
        rw [ht, if_pos rfl, List.mem_singleton, ageDays_eq hvalid hin] at hb
        rw [hb]
        exact (orderBounds_target (age_of_target hin ht).1 _).1
      | false =>
        rw [ht, if_neg Bool.false_ne_true, ageDays_eq hvalid hin] at hb
        rcases List.mem_pair.mp hb with rfl | rfl
        · have hage := (age_of_not_target hin ht).1
          show 0 < args.age draws cid + 1
          omega
        · decide
  · obtain ⟨-, -, hb⟩ := List.mem_flatMap.mp hb
    rcases List.mem_pair.mp hb with rfl | rfl
    · show (1 : Int) < args.nProducts + 1
      omega
    · decide

/-! ### The ages of the orders -/

theorem mem_drawnAges {a : Int} : a ∈ Args.drawnAges draws cid ↔
    ∃ i, i < Args.nOrders draws cid ∧ (draws.customers cid).orderAges i = a := by
  simp [Args.drawnAges]

theorem nOrders_pos (draws : Draws) (cid : Nat) : 0 < Args.nOrders draws cid := Nat.lt_of_lt_of_le one_pos (le_max_left _ _)

/-- A customer that churns orders in its own time, and not in the last ninety days. -/
theorem orderAges_of_target (hvalid : 729 * day ≤ args.now.wall) (hin : draws.InBounds args) (hcid : cid ∈ args.customerIds)
    (ht : args.isChurnedTarget cid = true) :
    args.orderAges draws cid = Args.drawnAges draws cid ∧
      ∀ a ∈ args.orderAges draws cid, 91 ≤ a ∧ a < args.age draws cid := by
  have heq : args.orderAges draws cid = Args.drawnAges draws cid := if_pos ht
  refine ⟨heq, fun a ha => ?_⟩
  rw [heq] at ha
  obtain ⟨i, hi, rfl⟩ := mem_drawnAges.mp ha
  have hdraw := hin.orderAges cid hcid i hi
  rw [ht, ageDays_eq hvalid hin] at hdraw
  obtain ⟨hnonempty, hlow, hhigh⟩ := orderBounds_target (age_of_target hin ht).1 (Args.nOrders draws cid)
  obtain ⟨hge, hlt⟩ := hdraw hnonempty
  rw [hhigh] at hlt
  exact ⟨hlow.trans hge, hlt⟩

theorem argmin_lt {ages : List Int} (h : ages ≠ []) : argmin ages < ages.length := by
  rw [argmin, List.idxOf_lt_length_iff]
  obtain ⟨least, hleast⟩ := Option.isSome_iff_exists.mp (List.isSome_min?_of_ne_nil h)
  rw [hleast, Option.getD_some]
  exact List.min?_mem hleast

/-- Any other customer has the recent order, and otherwise orders in its own time. -/
theorem orderAges_of_not_target (hvalid : 729 * day ≤ args.now.wall) (hin : draws.InBounds args)
    (hcid : cid ∈ args.customerIds) (ht : args.isChurnedTarget cid = false) :
    (draws.customers cid).recent ∈ args.orderAges draws cid ∧
      ∀ a ∈ args.orderAges draws cid, a = (draws.customers cid).recent ∨ 0 ≤ a ∧ a ≤ args.age draws cid := by
  have heq : args.orderAges draws cid =
      (Args.drawnAges draws cid).set (argmin (Args.drawnAges draws cid)) (draws.customers cid).recent :=
    if_neg (by rw [ht]; exact Bool.false_ne_true)
  have hne : Args.drawnAges draws cid ≠ [] :=
    List.ne_nil_of_mem (mem_drawnAges.mpr ⟨0, nOrders_pos draws cid, rfl⟩)
  rw [heq]
  refine ⟨List.mem_set (argmin_lt hne) _, fun a ha => ?_⟩
  rcases List.mem_or_eq_of_mem_set ha with ha | ha
  · obtain ⟨i, hi, rfl⟩ := mem_drawnAges.mp ha
    have hdraw := hin.orderAges cid hcid i hi
    rw [ht, ageDays_eq hvalid hin] at hdraw
    have hage := (age_of_not_target hin ht).1
    obtain ⟨hge, hlt⟩ := hdraw (Int.lt_add_one_of_le hage)
    exact Or.inr ⟨hge, Int.lt_add_one_iff.mp hlt⟩
  · exact Or.inl ha

theorem recent_bounds (hin : draws.InBounds args) (hcid : cid ∈ args.customerIds) :
    0 ≤ (draws.customers cid).recent ∧ (draws.customers cid).recent ≤ 30 := by
  obtain ⟨hge, hlt⟩ := hin.recent cid hcid (by decide)
  exact ⟨hge, Int.lt_add_one_iff.mp hlt⟩

/-- All ages of orders are within the largest age of an account. -/
theorem orderAges_bounds (hvalid : 729 * day ≤ args.now.wall) (hin : draws.InBounds args) (hcid : cid ∈ args.customerIds) :
    ∀ a ∈ args.orderAges draws cid, 0 ≤ a ∧ a < maxCustomerAgeDays := by
  intro a ha
  have hage := (age_bounds hin cid).2
  cases ht : args.isChurnedTarget cid with
  | true =>
    obtain ⟨hge, hlt⟩ := (orderAges_of_target hvalid hin hcid ht).2 a ha
    exact ⟨by omega, by omega⟩
  | false =>
    rcases (orderAges_of_not_target hvalid hin hcid ht).2 a ha with rfl | ⟨hge, hle⟩
    · obtain ⟨hge, hle⟩ := recent_bounds hin hcid
      refine ⟨hge, ?_⟩
      simp only [maxCustomerAgeDays]
      omega
    · exact ⟨hge, by omega⟩

theorem orderAges_ne_nil (hvalid : 729 * day ≤ args.now.wall) (hin : draws.InBounds args) (hcid : cid ∈ args.customerIds) :
    args.orderAges draws cid ≠ [] := by
  cases ht : args.isChurnedTarget cid with
  | true =>
    rw [(orderAges_of_target hvalid hin hcid ht).1]
    exact List.ne_nil_of_mem (mem_drawnAges.mpr ⟨0, nOrders_pos draws cid, rfl⟩)
  | false => exact List.ne_nil_of_mem (orderAges_of_not_target hvalid hin hcid ht).1

/-! ### The orders of a customer -/

theorem mem_orderRecords {r : Nat × DateTime} : r ∈ args.orderRecords draws ↔
    ∃ cid ∈ args.customerIds, ∃ a ∈ args.orderAges draws cid, (cid, daysBefore args.now a) = r := by
  simp only [Args.orderRecords, List.mem_flatMap, List.mem_map, List.mem_mergeSort]

/-- The orders have the customers and the dates of the records. -/
theorem map_orders (args : Args) (draws : Draws) : (args.orders draws).map (fun o => (o.customerId, o.createdAt)) =
    (args.orderRecords draws).map fun r => (r.1, some r.2) := by
  conv_rhs => rw [← List.zipIdx_map_fst 0 (args.orderRecords draws), List.map_map]
  rw [Args.orders, List.map_map]
  rfl

/-- The orders of a customer have the ages computed for it. -/
theorem exists_order_iff {createdAt : Option DateTime} :
    (∃ o ∈ args.orders draws, o.customerId = cid ∧ o.createdAt = createdAt) ↔
      cid ∈ args.customerIds ∧ ∃ a ∈ args.orderAges draws cid, some (daysBefore args.now a) = createdAt := by
  have hmem : (∃ o ∈ args.orders draws, o.customerId = cid ∧ o.createdAt = createdAt) ↔
      (cid, createdAt) ∈ (args.orders draws).map fun o => (o.customerId, o.createdAt) := by
    simp only [List.mem_map, Prod.mk.injEq]
  rw [hmem, map_orders, List.mem_map]
  constructor
  · rintro ⟨r, hr, heq⟩
    obtain ⟨cid', hcid', a, ha, rfl⟩ := mem_orderRecords.mp hr
    obtain ⟨rfl, hdate⟩ := Prod.mk.inj heq
    exact ⟨hcid', a, ha, hdate⟩
  · rintro ⟨hcid, a, ha, rfl⟩
    exact ⟨_, mem_orderRecords.mpr ⟨cid, hcid, a, ha, rfl⟩, rfl⟩

/-- The dates of a customer's orders. -/
def datesOf (orders : List OrderRow) (cid : Nat) : List DateTime :=
  (group (fun o : OrderRow => some o.customerId) orders cid).filterMap OrderRow.createdAt

theorem mem_datesOf {d : DateTime} : d ∈ datesOf (args.orders draws) cid ↔
    cid ∈ args.customerIds ∧ ∃ a ∈ args.orderAges draws cid, daysBefore args.now a = d := by
  have hmem : d ∈ datesOf (args.orders draws) cid ↔
      ∃ o ∈ args.orders draws, o.customerId = cid ∧ o.createdAt = some d := by
    simp only [datesOf, group, List.mem_filterMap, List.mem_filter, decide_eq_true_eq, Option.some.injEq, and_assoc]
  rw [hmem, exists_order_iff]
  simp only [Option.some.injEq]

/-- A customer with its first and its last order. -/
theorem annotate_eq (customers : List CustomerRow) (orders : List OrderRow) : annotate customers orders =
    customers.map fun c => ⟨⟨c, latest (datesOf orders c.id)⟩, earliest (datesOf orders c.id)⟩ := by
  have hlast : ∀ cid, ((agg (fun o : OrderRow => some o.customerId) orders fun os =>
      latest (os.filterMap OrderRow.createdAt)).lookup cid).join = latest (datesOf orders cid) :=
    fun cid => join_lookup_agg (fun os => latest (os.filterMap OrderRow.createdAt)) rfl
  have hfirst : ∀ cid, ((agg (fun o : OrderRow => some o.customerId) orders fun os =>
      earliest (os.filterMap OrderRow.createdAt)).lookup cid).join = earliest (datesOf orders cid) :=
    fun cid => join_lookup_agg (fun os => earliest (os.filterMap OrderRow.createdAt)) rfl
  simp only [annotate, withLastOrder, List.map_map, hlast, hfirst]
  rfl

/-- The first and the last order of a customer, by their ages. -/
theorem first_last (hvalid : 729 * day ≤ args.now.wall) (hin : draws.InBounds args) (hcid : cid ∈ args.customerIds) :
    ∃ oldest newest, oldest ∈ args.orderAges draws cid ∧ newest ∈ args.orderAges draws cid ∧
      (∀ a ∈ args.orderAges draws cid, newest ≤ a ∧ a ≤ oldest) ∧
      (∃ last, latest (datesOf (args.orders draws) cid) = some last ∧ last.utc = args.now.utc - newest * day) ∧
      ∃ first, earliest (datesOf (args.orders draws) cid) = some first ∧ first.utc = args.now.utc - oldest * day := by
  have hutc : ∀ a ∈ args.orderAges draws cid, (daysBefore args.now a).utc = args.now.utc - a * day := fun a ha =>
    utc_daysBefore (mul_day_le hvalid (orderAges_bounds hvalid hin hcid a ha).2)
  have hdates : ∀ a ∈ args.orderAges draws cid, daysBefore args.now a ∈ datesOf (args.orders draws) cid := fun a ha =>
    mem_datesOf.mpr ⟨hcid, a, ha, rfl⟩
  obtain ⟨a, ha⟩ := List.exists_mem_of_ne_nil _ (orderAges_ne_nil hvalid hin hcid)
  have hday : (0 : Int) < day := by decide
  cases hds : datesOf (args.orders draws) cid with
  | nil =>
    have hmem := hdates a ha
    rw [hds] at hmem
    cases hmem
  | cons d ds =>
    obtain ⟨hlast, hle⟩ := latest_spec (rfl : latest (d :: ds) = some _)
    obtain ⟨hfirst, hge⟩ := earliest_spec (rfl : earliest (d :: ds) = some _)
    rw [← hds] at hlast hle hfirst hge
    obtain ⟨-, newest, hnewest, hlasteq⟩ := mem_datesOf.mp hlast
    obtain ⟨-, oldest, holdest, hfirsteq⟩ := mem_datesOf.mp hfirst
    refine ⟨oldest, newest, holdest, hnewest, fun b hb => ⟨?_, ?_⟩, ⟨_, rfl, ?_⟩, ⟨_, rfl, ?_⟩⟩
    · have hle := hle _ (hdates b hb)
      rw [← hlasteq, hutc b hb, hutc newest hnewest] at hle
      exact le_of_mul_le_mul_right (by omega) hday
    · have hge := hge _ (hdates b hb)
      rw [← hfirsteq, hutc b hb, hutc oldest holdest] at hge
      exact le_of_mul_le_mul_right (by omega) hday
    · rw [← hlasteq, hutc newest hnewest]
    · rw [← hfirsteq, hutc oldest holdest]

/-! ### The label of a customer -/

/-- The customer with its first and its last order. -/
def annotated (args : Args) (draws : Draws) (cid : Nat) : AnnotatedCustomer :=
  ⟨⟨args.customer draws cid, latest (datesOf (args.orders draws) cid)⟩, earliest (datesOf (args.orders draws) cid)⟩

theorem customers_eq (args : Args) (draws : Draws) : annotate (args.customerRecords draws) (args.orders draws) =
    args.customerIds.map (annotated args draws) := by
  rw [annotate_eq, Args.customerRecords, List.map_map]
  rfl

/-- Two orders of the customer are drawn more than thirty days apart. -/
def Spread (draws : Draws) (cid : Nat) : Prop :=
  ∃ i j, i < Args.nOrders draws cid ∧ j < Args.nOrders draws cid ∧
    (draws.customers cid).orderAges i + 30 < (draws.customers cid).orderAges j

/-- A customer meant to churn is labelled so when its orders are spread over more than thirty days. -/
theorem isChurned_of_target (hvalid : 729 * day ≤ args.now.wall) (hin : draws.InBounds args) (hcid : cid ∈ args.customerIds)
    (ht : args.isChurnedTarget cid = true) :
    isChurned args.now 90 30 120 (annotated args draws cid) = true ↔ Spread draws cid := by
  obtain ⟨oldest, newest, holdest, hnewest, hall, ⟨last, hlast, hlastutc⟩, ⟨first, hfirst, hfirstutc⟩⟩ :=
    first_last hvalid hin hcid
  obtain ⟨hdrawn, hages⟩ := orderAges_of_target hvalid hin hcid ht
  have hcreated : (args.customer draws cid).createdAt.utc = args.now.utc - args.age draws cid * day :=
    utc_daysBefore (mul_day_le hvalid (age_bounds hin cid).2)
  have hnew := (hages newest hnewest).1
  have hold := (hages oldest holdest).2
  have hspread : Spread draws cid ↔ newest + 30 < oldest := by
    constructor
    · rintro ⟨i, j, hi, hj, hlt⟩
      have hleast := (hall _ (hdrawn ▸ mem_drawnAges.mpr ⟨i, hi, rfl⟩)).1
      have hmost := (hall _ (hdrawn ▸ mem_drawnAges.mpr ⟨j, hj, rfl⟩)).2
      omega
    · intro hlt
      rw [hdrawn] at hnewest holdest
      obtain ⟨i, hi, rfl⟩ := mem_drawnAges.mp hnewest
      obtain ⟨j, hj, rfl⟩ := mem_drawnAges.mp holdest
      exact ⟨i, j, hi, hj, hlt⟩
  rw [hspread]
  simp only [isChurned, annotated, hlast, hfirst, Option.any_some, Bool.and_eq_true, decide_eq_true_eq, hlastutc, hfirstutc,
    hcreated, day]
  constructor
  · rintro ⟨⟨-, hperiod⟩, -⟩
    omega
  · intro hlt
    exact ⟨⟨by omega, by omega⟩, by omega⟩

/-- No other customer is labelled so: its last order is recent. -/
theorem isChurned_of_not_target (hvalid : 729 * day ≤ args.now.wall) (hin : draws.InBounds args)
    (hcid : cid ∈ args.customerIds) (ht : args.isChurnedTarget cid = false) :
    isChurned args.now 90 30 120 (annotated args draws cid) = false := by
  obtain ⟨oldest, newest, -, -, hall, ⟨last, hlast, hlastutc⟩, -⟩ := first_last hvalid hin hcid
  have hleast := (hall _ (orderAges_of_not_target hvalid hin hcid ht).1).1
  have hrecent := (recent_bounds hin hcid).2
  have hlate : ¬last.utc < args.now.utc - 90 * day := by
    rw [hlastutc]
    simp only [day]
    omega
  simp [isChurned, annotated, hlast, hlate]

/-! ### The dates of the orders -/

/-- Every order is dated between the creation of its customer and now. -/
def OrdersDated (now : DateTime) (dataset : SyntheticDataset) : Prop :=
  ∀ o ∈ dataset.orders, ∃ c ∈ dataset.customers, c.id = o.customerId ∧
    ∃ createdAt, o.createdAt = some createdAt ∧ c.createdAt.utc ≤ createdAt.utc ∧ createdAt.utc ≤ now.utc

/-- The ages of the orders lie between 0 and the age of the account. -/
theorem ordersDated_iff (hvalid : 729 * day ≤ args.now.wall) (hin : draws.InBounds args) :
    OrdersDated args.now
      ⟨annotate (args.customerRecords draws) (args.orders draws), args.orders draws, args.orderLines draws⟩ ↔
      ∀ cid ∈ args.customerIds, ∀ a ∈ args.orderAges draws cid, a ≤ args.age draws cid := by
  have hday : (0 : Int) < day := by decide
  have hcreated : ∀ cid, (args.customer draws cid).createdAt.utc = args.now.utc - args.age draws cid * day := fun cid =>
    utc_daysBefore (mul_day_le hvalid (age_bounds hin cid).2)
  have hutc : ∀ cid ∈ args.customerIds, ∀ a ∈ args.orderAges draws cid,
      (daysBefore args.now a).utc = args.now.utc - a * day := fun cid hcid a ha =>
    utc_daysBefore (mul_day_le hvalid (orderAges_bounds hvalid hin hcid a ha).2)
  constructor
  · intro hdated cid hcid a ha
    obtain ⟨o, ho, hid, hat⟩ := exists_order_iff.mpr ⟨hcid, a, ha, rfl⟩
    obtain ⟨c, hc, hcustomer, createdAt, hcreatedAt, hle, -⟩ := hdated o ho
    obtain ⟨cid', -, rfl⟩ := List.mem_map.mp (customers_eq args draws ▸ hc)
    have hsame : cid' = cid := hcustomer.trans hid
    rw [hat] at hcreatedAt
    cases hcreatedAt
    rw [hutc cid hcid a ha] at hle
    have hage := (hcreated cid').symm.trans_le hle
    rw [hsame] at hage
    exact le_of_mul_le_mul_right (by omega) hday
  · intro hages o ho
    obtain ⟨hcid, a, ha, hat⟩ := exists_order_iff.mp ⟨o, ho, rfl, rfl⟩
    refine ⟨annotated args draws o.customerId, ?_, rfl, _, hat.symm, ?_, ?_⟩
    · rw [customers_eq]
      exact List.mem_map_of_mem hcid
    · rw [hutc _ hcid a ha]
      refine (hcreated o.customerId).trans_le ?_
      have hmul := Int.mul_le_mul_of_nonneg_right (hages _ hcid a ha) hday.le
      omega
    · rw [hutc _ hcid a ha]
      have hmul := Int.mul_nonneg (orderAges_bounds hvalid hin hcid a ha).1 hday.le
      omega

/-- The orders of all customers are possible when the recent orders forced on some are. -/
theorem ordersDated_iff_recent (hvalid : 729 * day ≤ args.now.wall) (hin : draws.InBounds args) :
    OrdersDated args.now
      ⟨annotate (args.customerRecords draws) (args.orders draws), args.orders draws, args.orderLines draws⟩ ↔
      ∀ cid ∈ args.customerIds, args.isChurnedTarget cid = false → (draws.customers cid).recent ≤ args.age draws cid := by
  rw [ordersDated_iff hvalid hin]
  constructor
  · intro hages cid hcid ht
    exact hages cid hcid _ (orderAges_of_not_target hvalid hin hcid ht).1
  · intro hrecent cid hcid a ha
    cases ht : args.isChurnedTarget cid with
    | true => exact ((orderAges_of_target hvalid hin hcid ht).2 a ha).2.le
    | false =>
      rcases (orderAges_of_not_target hvalid hin hcid ht).2 a ha with rfl | ⟨-, hle⟩
      · exact hrecent cid hcid ht
      · exact hle

/-- The labels are the targets when the customers meant to churn have ordered long enough. -/
theorem labels_iff (hvalid : 729 * day ≤ args.now.wall) (hin : draws.InBounds args) :
    labelChurn (annotate (args.customerRecords draws) (args.orders draws)) args.now 90 30 120 =
        args.customerIds.map args.isChurnedTarget ↔
      ∀ cid ∈ args.customerIds, args.isChurnedTarget cid = true → Spread draws cid := by
  rw [customers_eq, labelChurn, List.map_map, List.map_inj_left]
  refine forall₂_congr fun cid hcid => ?_
  rw [Function.comp_apply]
  cases ht : args.isChurnedTarget cid with
  | true => exact (isChurned_of_target hvalid hin hcid ht).trans ⟨fun h _ => h, fun h => h rfl⟩
  | false =>
    rw [isChurned_of_not_target hvalid hin hcid ht]
    exact iff_of_true rfl nofun

/-- The number of customers meant to churn is in range as long as numbers of customers are exact as floats. -/
theorem nChurned_bounds (hlow : 0 ≤ args.churnRate) (hhigh : args.churnRate ≤ 1) (hn : args.nCustomers < 2 ^ 53) :
    0 ≤ args.nChurned ∧ args.nChurned ≤ args.nCustomers := by
  have hexact : Binary64.round (args.nCustomers : ℚ) = args.nCustomers := Binary64.representable_natCast hn
  have hcount : (0 : ℚ) ≤ args.nCustomers := Nat.cast_nonneg _
  rw [Args.nChurned, hexact]
  constructor
  · have hround := Binary64.round_mono (mul_nonneg hcount hlow)
    rw [Binary64.round_zero] at hround
    have hhalf := Binary64.roundHalfEven_mono hround
    rwa [← Int.cast_zero, Binary64.roundHalfEven_intCast] at hhalf
  · have hround := Binary64.round_mono (mul_le_of_le_one_right hcount hhigh)
    rw [hexact] at hround
    have hhalf := Binary64.roundHalfEven_mono hround
    rwa [← Int.cast_natCast, Binary64.roundHalfEven_intCast] at hhalf

/-- A dataset is generated, its orders are possible, and its labels are the targets. -/
def Sound (args : Args) (draws : Draws) : Prop :=
  ∃ dataset, generateDataset args draws = .ok dataset ∧ OrdersDated args.now dataset ∧
    labelChurn dataset.customers args.now 90 30 120 = args.customerIds.map args.isChurnedTarget

theorem sound_iff (hvalid : 729 * day ≤ args.now.wall) (hproducts : 1 ≤ args.nProducts) (hin : draws.InBounds args) :
    Sound args draws ↔ (0 ≤ args.nChurned ∧ args.nChurned ≤ args.nCustomers) ∧
      (∀ cid ∈ args.customerIds, args.isChurnedTarget cid = true → Spread draws cid) ∧
      ∀ cid ∈ args.customerIds, args.isChurnedTarget cid = false → (draws.customers cid).recent ≤ args.age draws cid := by
  rw [← labels_iff hvalid hin, ← ordersDated_iff_recent hvalid hin]
  unfold Sound generateDataset
  by_cases hsize : args.nChurned < 0 ∨ args.nCustomers - args.nChurned < 0
  · rw [if_pos hsize]
    exact iff_of_false (by simp) fun h => by omega
  · rw [if_neg hsize, if_neg (not_not.mpr (requested_nonempty hvalid hproducts hin))]
    constructor
    · rintro ⟨dataset, hok, hdated, hlabels⟩
      cases hok
      exact ⟨⟨by omega, by omega⟩, hlabels, hdated⟩
    · rintro ⟨-, hlabels, hdated⟩
      exact ⟨_, rfl, hdated, hlabels⟩

end Histories

/-- No bounds asked for are empty. The dataset is sound exactly when the customers meant to churn have two orders more
    than thirty days apart, and no other has an account younger than the recent order forced on it; their number is in
    range for a rate that is one. -/
theorem seed_data_iff (args : Args) (draws : Draws) (hvalid : 729 * day ≤ args.now.wall) (hproducts : 1 ≤ args.nProducts)
    (hin : draws.InBounds args) : (∀ b ∈ args.requested draws, b.Nonempty) ∧
    (Sound args draws ↔ (0 ≤ args.nChurned ∧ args.nChurned ≤ args.nCustomers) ∧
      (∀ cid ∈ args.customerIds, args.isChurnedTarget cid = true → Spread draws cid) ∧
      ∀ cid ∈ args.customerIds, args.isChurnedTarget cid = false → (draws.customers cid).recent ≤ args.age draws cid) ∧
    (0 ≤ args.churnRate → args.churnRate ≤ 1 → args.nCustomers < 2 ^ 53 →
      0 ≤ args.nChurned ∧ args.nChurned ≤ args.nCustomers) :=
  ⟨requested_nonempty hvalid hproducts hin, sound_iff hvalid hproducts hin, nChurned_bounds⟩

/-- One customer, which does not churn. -/
def oneActive : Args := ⟨1, 50, ⟨739732 * day, some 0⟩, 0⟩

/-- Its account is new, its recent order thirty days old. -/
def newAccount : Draws where
  churnedAges _ := 120
  activeAges _ := 0
  customers _ := ⟨"ada@company.com", 0, fun _ => 0, 30⟩
  orders _ := ⟨20, 0, fun _ => 1, fun _ => 1⟩

theorem nChurned_oneActive : oneActive.nChurned = 0 := by
  rw [Args.nChurned]
  show Binary64.roundHalfEven (Binary64.round (_ * 0)) = 0
  rw [mul_zero, Binary64.round_zero, ← Int.cast_zero, Binary64.roundHalfEven_intCast]

theorem newAccount_inBounds : newAccount.InBounds oneActive := by
  have htarget : ∀ cid ∈ oneActive.customerIds, oneActive.isChurnedTarget cid = false := by
    intro cid hcid
    rw [List.mem_singleton.mp hcid, Args.isChurnedTarget, nChurned_oneActive]
    rfl
  constructor
  · exact fun _ _ => (by decide : (120 : Int) ≤ 120 ∧ (120 : Int) < 730)
  · exact fun _ _ => (by decide : (0 : Int) ≤ 0 ∧ (0 : Int) < 730)
  · intro cid hcid i _ hnonempty
    rw [htarget cid hcid] at hnonempty ⊢
    exact ⟨le_refl 0, hnonempty⟩
  · exact fun _ _ _ => (by decide : (0 : Int) ≤ 30 ∧ (30 : Int) < 31)
  · exact fun _ _ _ => (by decide : (1 : Int) ≤ 1 ∧ (1 : Int) < 50 + 1)
  · exact fun _ _ _ => (by decide : (1 : Int) ≤ 1 ∧ (1 : Int) < 5)

theorem seed_data_newAccount : (∀ b ∈ oneActive.requested newAccount, b.Nonempty) ∧
    (Sound oneActive newAccount ↔ (0 ≤ oneActive.nChurned ∧ oneActive.nChurned ≤ oneActive.nCustomers) ∧
      (∀ cid ∈ oneActive.customerIds, oneActive.isChurnedTarget cid = true → Spread newAccount cid) ∧
      ∀ cid ∈ oneActive.customerIds, oneActive.isChurnedTarget cid = false →
        (newAccount.customers cid).recent ≤ oneActive.age newAccount cid) ∧
    0 ≤ oneActive.nChurned ∧ oneActive.nChurned ≤ oneActive.nCustomers := by
  obtain ⟨hnonempty, hsound, hnumber⟩ := seed_data_iff oneActive newAccount (by decide) (by decide) newAccount_inBounds
  exact ⟨hnonempty, hsound, hnumber (le_refl 0) zero_le_one (by decide)⟩

/-- An order older than the account. -/
theorem order_before_account : ¬∀ (args : Args) (draws : Draws), 729 * day ≤ args.now.wall → 1 ≤ args.nProducts →
    1 ≤ args.nCustomers → 0 ≤ args.churnRate → args.churnRate ≤ 1 → draws.InBounds args → Sound args draws := by
  intro h
  have hsound := h oneActive newAccount (by decide) (by decide) (by decide) (le_refl 0) zero_le_one newAccount_inBounds
  obtain ⟨-, -, hrecent⟩ := (sound_iff (by decide) (by decide) newAccount_inBounds).mp hsound
  have htarget : oneActive.isChurnedTarget 1 = false := by
    rw [Args.isChurnedTarget, nChurned_oneActive]
    rfl
  have hle := hrecent 1 (List.mem_singleton_self 1) htarget
  rw [Args.age, htarget] at hle
  exact absurd hle (by decide)

end IrisService.Ml.SeedData
