import IrisService.Ml.FeatureEngineering

/-! `extract_features` of `ml/inference.py`, in exact numbers. -/

namespace IrisService.Ml
open DateTime

/-- `_sum_revenue_within`, for a window in days. -/
def sumRevenueWithin (orders : List OrderRow) (now : DateTime) (windowDays : Nat) : ℚ :=
  orders.foldl (fun total order =>
    match order.createdAt with
    | none => total
    | some createdAt =>
      if createdAt.ensureUtc.utc < now.utc - windowDays * day then total
      else
        match order.totalAmount with
        | none => total
        | some amount => total + amount) 0

/-- `_compute_diversity` -/
def computeDiversity (lines : List OrderLineRow) : ℚ :=
  if lines = [] then 0 else (lines.map OrderLineRow.productId).dedup.length / lines.length

/-- The eight features in the order of `FEATURE_NAMES`; `now` is aware. -/
def extractFeatures (customer : CustomerRow) (orders : List OrderRow) (orderLines : List OrderLineRow)
    (now : DateTime) : List ℚ :=
  let customerCreatedAt := customer.createdAt.ensureUtc
  let lifetimeDays := max 1 (now.daysSince customerCreatedAt)
  let lastOrderAt := (latest (orders.filterMap fun o => o.createdAt.map ensureUtc)).getD customerCreatedAt
  let daysSinceLast := max 0 (now.daysSince lastOrderAt)
  let frequency : ℚ := orders.length / lifetimeDays
  [daysSinceLast, sumRevenueWithin orders now 30, sumRevenueWithin orders now 90, sumRevenueWithin orders now 365,
    frequency, computeDiversity orderLines, classifyEmailDomain customer.email, lifetimeDays]

/-! ### What each feature is computed from -/

section Spec
variable {orders orders' : List OrderRow} {lines lines' : List OrderLineRow} {now : DateTime} {windowDays : Nat}

/-- The loop adds up the amounts in the window, whether or not a time is marked as UTC. -/
theorem sumRevenueWithin_eq :
    sumRevenueWithin orders now windowDays =
      ((orders.filter (inWindow now windowDays)).filterMap OrderRow.totalAmount).sum := by
  have hloop : ∀ total : ℚ, orders.foldl (fun total order =>
      match order.createdAt with
      | none => total
      | some createdAt =>
        if createdAt.ensureUtc.utc < now.utc - windowDays * day then total
        else
          match order.totalAmount with
          | none => total
          | some amount => total + amount) total =
      total + ((orders.filter (inWindow now windowDays)).filterMap OrderRow.totalAmount).sum := by
    induction orders with
    | nil => simp
    | cons order orders ih =>
      intro total
      rw [List.foldl_cons, ih]
      cases hcreated : order.createdAt with
      | none => simp [inWindow, hcreated]
      | some createdAt =>
        by_cases hold : createdAt.utc < now.utc - windowDays * day
        · have hout : inWindow now windowDays order = false := by
            rw [inWindow, hcreated, Option.any_some, decide_eq_false_iff_not]
            exact not_le.mpr hold
          simp [hold, hout]
        · have hin : inWindow now windowDays order = true := by
            rw [inWindow, hcreated, Option.any_some, decide_eq_true_iff]
            exact not_lt.mp hold
          cases hamount : order.totalAmount with
          | none => simp [hold, hin, hamount]
          | some amount => simp [hold, hin, hamount, add_assoc]
  simpa [sumRevenueWithin] using hloop 0

theorem sumRevenueWithin_perm (h : orders.Perm orders') :
    sumRevenueWithin orders now windowDays = sumRevenueWithin orders' now windowDays := by
  rw [sumRevenueWithin_eq, sumRevenueWithin_eq]
  exact ((h.filter _).filterMap _).sum_eq

theorem computeDiversity_eq : computeDiversity lines = (lines.map OrderLineRow.productId).dedup.length / lines.length := by
  unfold computeDiversity
  split
  · rename_i hnil
    simp [hnil]
  · rfl

theorem computeDiversity_perm (h : lines.Perm lines') : computeDiversity lines = computeDiversity lines' := by
  rw [computeDiversity_eq, computeDiversity_eq, h.length_eq, (h.map OrderLineRow.productId).dedup.length_eq]

/-- The latest order is as late in whatever order the orders come, marked as UTC or not. -/
theorem utc_latest_perm (h : orders.Perm orders') {best best' : DateTime}
    (hbest : latest (orders.filterMap fun o => o.createdAt.map ensureUtc) = some best)
    (hbest' : latest (orders'.filterMap OrderRow.createdAt) = some best') : best.utc = best'.utc := by
  refine utc_latest_eq hbest hbest' fun u => ?_
  simp only [List.mem_filterMap, Option.map_eq_some_iff, h.mem_iff]
  constructor
  · rintro ⟨d, ⟨o, ho, createdAt, hcreated, rfl⟩, hu⟩
    exact ⟨createdAt, ⟨o, ho, hcreated⟩, by rw [← hu, utc_ensureUtc]⟩
  · rintro ⟨createdAt, ⟨o, ho, hcreated⟩, hu⟩
    exact ⟨createdAt.ensureUtc, ⟨o, ho, createdAt, hcreated, rfl⟩, by rw [utc_ensureUtc, hu]⟩

theorem utc_getD_latest_perm {ds ds' : List DateTime} (h : ds.Perm ds') (d : DateTime) :
    ((latest ds).getD d).utc = ((latest ds').getD d).utc := by
  cases hbest : latest ds with
  | none =>
    have hnil : ds' = [] := (latest_eq_none_iff.mp hbest ▸ h).nil_eq.symm
    rw [latest_eq_none_iff.mpr hnil]
  | some best =>
    have hne : latest ds' ≠ none := by
      intro hnone
      have hnil : ds = [] := (latest_eq_none_iff.mp hnone ▸ h).eq_nil
      rw [latest_eq_none_iff.mpr hnil] at hbest
      cases hbest
    obtain ⟨best', hbest'⟩ := Option.ne_none_iff_exists'.mp hne
    rw [hbest']
    refine utc_latest_eq hbest hbest' fun u => ?_
    simp only [h.mem_iff]

/-- The features do not depend on the order in which the rows are loaded. -/
theorem extractFeatures_perm {customer : CustomerRow} (h : orders.Perm orders') (h' : lines.Perm lines') :
    extractFeatures customer orders lines now = extractFeatures customer orders' lines' now := by
  have hlast := utc_getD_latest_perm (h.filterMap fun o => o.createdAt.map ensureUtc) customer.createdAt.ensureUtc
  simp only [extractFeatures, sumRevenueWithin_perm h, computeDiversity_perm h', h.length_eq, daysSince, hlast]

end Spec

end IrisService.Ml
