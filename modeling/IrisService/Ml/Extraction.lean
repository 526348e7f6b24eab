import IrisService.Ml.Inference
import Mathlib.Tactic.Ring

/-! `extract_features` of `ml/inference.py` again, with what it can raise: mixing naive and aware times, a date before
    year 1, a division by zero. -/

namespace IrisService.Ml.Extraction
open DateTime

/-- What the arithmetic can raise. -/
inductive Exc where
  | typeError (text : String)
  | overflowError (text : String)
  | zeroDivisionError
  | shapeMismatch (expected got : Nat)
  deriving DecidableEq, Repr

/-! ### Arithmetic of times -/

/-- `d - since`, in microseconds. -/
def sub (d since : DateTime) : Except Exc Int :=
  if d.utcoffset.isNone = since.utcoffset.isNone then .ok (d.utc - since.utc)
  else .error (.typeError "can't subtract offset-naive and offset-aware datetimes")

/-- `d - window`, for a `timedelta` in microseconds. -/
def subDelta (d : DateTime) (window : Nat) : Except Exc DateTime :=
  if window ≤ d.wall then .ok { d with wall := d.wall - window } else .error (.overflowError "date value out of range")

/-- `d < d'` -/
def lt (d d' : DateTime) : Except Exc Bool :=
  if d.utcoffset.isNone = d'.utcoffset.isNone then .ok (decide (d.utc < d'.utc))
  else .error (.typeError "can't compare offset-naive and offset-aware datetimes")

/-- `item` when it is greater than `best`. -/
def greater (best item : DateTime) : Except Exc DateTime := do
  let less ← lt best item
  return if less then item else best

/-- `max(ds, default=default)` -/
def maxOr (default : DateTime) : List DateTime → Except Exc DateTime
  | [] => .ok default
  | d :: ds => ds.foldlM greater d

/-- `a / b` -/
def trueDiv (a b : ℚ) : Except Exc ℚ := if b = 0 then .error .zeroDivisionError else .ok (a / b)

/-! ### The features -/

/-- The body of the loop of `_sum_revenue_within`. -/
def addRevenue (threshold : DateTime) (total : ℚ) (order : OrderRow) : Except Exc ℚ :=
  match order.createdAt with
  | none => .ok total
  | some createdAt => do
    let before ← lt createdAt.ensureUtc threshold
    return if before then total else order.totalAmount.elim total fun amount => total + amount

/-- `_sum_revenue_within`; the window is in microseconds. -/
def sumRevenueWithin (orders : List OrderRow) (now : DateTime) (window : Nat) : Except Exc ℚ := do
  let threshold ← subDelta now window
  orders.foldlM (addRevenue threshold) 0

/-- `_compute_diversity` -/
def computeDiversity (lines : List OrderLineRow) : Except Exc ℚ :=
  if lines = [] then .ok 0
  else
    let distinct := (lines.map OrderLineRow.productId).dedup
    if lines.length > 0 then trueDiv distinct.length lines.length else .ok 0

/-- `N_FEATURES` -/
def nFeatures : Nat := 8

/-- `extract_features` -/
def extractFeatures (customer : CustomerRow) (orders : List OrderRow) (orderLines : List OrderLineRow)
    (now : DateTime) : Except Exc (List ℚ) := do
  let customerCreatedAt := customer.createdAt.ensureUtc
  let lifetime ← sub now customerCreatedAt
  let lifetimeDays := max 1 (lifetime / day)
  let lastOrderAt ← maxOr customerCreatedAt (orders.filterMap fun o => o.createdAt.map ensureUtc)
  let sinceLast ← sub now lastOrderAt
  let daysSinceLast := max 0 (sinceLast / day)
  let rev30 ← sumRevenueWithin orders now (30 * day)
  let rev90 ← sumRevenueWithin orders now (90 * day)
  let rev365 ← sumRevenueWithin orders now (365 * day)
  let frequency ← trueDiv orders.length (lifetimeDays : Int)
  let diversity ← computeDiversity orderLines
  let domainClass := classifyEmailDomain customer.email
  let features : List ℚ :=
    [(daysSinceLast : Int), rev30, rev90, rev365, frequency, diversity, domainClass, (lifetimeDays : Int)]
  if features.length ≠ nFeatures then .error (.shapeMismatch nFeatures features.length) else return features

/-! ### Times that are marked -/

section Aware
variable {d d' now : DateTime}

theorem utcoffset_ensureUtc (d : DateTime) : d.ensureUtc.utcoffset.isNone = false := by
  unfold ensureUtc
  split
  · rfl
  · rename_i offset haware
    rw [haware]
    rfl

theorem isNone_of_aware (h : d.utcoffset ≠ none) : d.utcoffset.isNone = false :=
  Option.isNone_eq_false_iff.mpr (Option.isSome_iff_ne_none.mpr h)

theorem sub_aware (h : d.utcoffset.isNone = false) (h' : d'.utcoffset.isNone = false) :
    sub d d' = .ok (d.utc - d'.utc) := by
  rw [sub, if_pos (h.trans h'.symm)]

theorem lt_aware (h : d.utcoffset.isNone = false) (h' : d'.utcoffset.isNone = false) :
    lt d d' = .ok (decide (d.utc < d'.utc)) := by
  rw [lt, if_pos (h.trans h'.symm)]

theorem greater_aware (h : d.utcoffset.isNone = false) (h' : d'.utcoffset.isNone = false) :
    greater d d' = .ok (if d.utc < d'.utc then d' else d) := by
  simp only [greater, lt_aware h h', bind, Except.bind, pure, Except.pure, decide_eq_true_eq]

/-- No comparison of marked times raises. -/
theorem foldlM_greater {ds : List DateTime} (hd : d.utcoffset.isNone = false)
    (hds : ∀ x ∈ ds, x.utcoffset.isNone = false) :
    ds.foldlM greater d = .ok (ds.foldl (fun best d => if best.utc < d.utc then d else best) d) := by
  induction ds generalizing d with
  | nil => rfl
  | cons x ds ih =>
    have hx := hds x List.mem_cons_self
    have hnext : (if d.utc < x.utc then x else d).utcoffset.isNone = false := by
      split
      · exact hx
      · exact hd
    rw [List.foldlM_cons, greater_aware hd hx, List.foldl_cons]
    exact ih hnext fun y hy => hds y (List.mem_cons_of_mem x hy)

theorem maxOr_aware {ds : List DateTime} (hds : ∀ x ∈ ds, x.utcoffset.isNone = false) (default : DateTime) :
    maxOr default ds = .ok ((latest ds).getD default) := by
  cases ds with
  | nil => rfl
  | cons d ds =>
    rw [maxOr, foldlM_greater (hds d List.mem_cons_self) fun x hx => hds x (List.mem_cons_of_mem d hx)]
    rfl

theorem subDelta_ok {window : Nat} (h : window ≤ now.wall) :
    ∃ threshold, subDelta now window = .ok threshold ∧ threshold.utcoffset = now.utcoffset ∧
      threshold.utc = now.utc - window := by
  refine ⟨_, if_pos h, rfl, ?_⟩
  simp only [utc]
  omega

/-- The last order of some rows, or the default, is a marked time. -/
theorem getD_latest_aware {ds : List DateTime} (hd : d.utcoffset.isNone = false)
    (hds : ∀ x ∈ ds, x.utcoffset.isNone = false) : ((latest ds).getD d).utcoffset.isNone = false := by
  cases hbest : latest ds with
  | none => exact hd
  | some best => exact hds best (latest_spec hbest).1

end Aware

/-! ### Revenue -/

section Revenue
variable {orders : List OrderRow} {now : DateTime} {window : Nat}

/-- Dated, and not before the given instant. -/
def datedFrom (threshold : Int) (o : OrderRow) : Bool := o.createdAt.any fun createdAt => threshold ≤ createdAt.utc

/-- Dated after `now`. -/
def datedAfter (now : DateTime) (o : OrderRow) : Bool := o.createdAt.any fun createdAt => now.utc < createdAt.utc

/-- Dated in the closed interval `[now - window, now]`. -/
def datedWithin (now : DateTime) (window : Nat) (o : OrderRow) : Bool :=
  o.createdAt.any fun createdAt => now.utc - window ≤ createdAt.utc ∧ createdAt.utc ≤ now.utc

/-- The exact sum of the known amounts. -/
def amounts (orders : List OrderRow) : ℚ := (orders.filterMap OrderRow.totalAmount).sum

/-- One order adds its amount when it is among those counted. -/
theorem amounts_filter_cons (p : OrderRow → Bool) (o : OrderRow) (orders : List OrderRow) :
    amounts ((o :: orders).filter p) = (if p o then o.totalAmount.getD 0 else 0) + amounts (orders.filter p) := by
  by_cases hp : p o = true
  · rw [List.filter_cons_of_pos hp, if_pos hp]
    cases h : o.totalAmount with
    | none => simp [amounts, h]
    | some amount => simp [amounts, h]
  · rw [List.filter_cons_of_neg hp, if_neg hp, zero_add]

theorem addRevenue_aware {threshold : DateTime} (h : threshold.utcoffset.isNone = false) (total : ℚ) (o : OrderRow) :
    addRevenue threshold total o = .ok (if datedFrom threshold.utc o then total + o.totalAmount.getD 0 else total) := by
  unfold addRevenue datedFrom
  cases o.createdAt with
  | none => rfl
  | some createdAt =>
    simp only [lt_aware (utcoffset_ensureUtc createdAt) h, utc_ensureUtc, bind, Except.bind, pure, Except.pure,
      Option.any_some, decide_eq_true_eq]
    by_cases hold : createdAt.utc < threshold.utc
    · rw [if_pos hold, if_neg (not_le.mpr hold)]
    · rw [if_neg hold, if_pos (not_lt.mp hold)]
      cases o.totalAmount with
      | none => simp
      | some amount => rfl

/-- The loop adds up the amounts from the threshold on. -/
theorem foldlM_addRevenue {threshold : DateTime} (h : threshold.utcoffset.isNone = false) (total : ℚ) :
    orders.foldlM (addRevenue threshold) total = .ok (total + amounts (orders.filter (datedFrom threshold.utc))) := by
  induction orders generalizing total with
  | nil => simp [amounts, pure, Except.pure]
  | cons o orders ih =>
    rw [List.foldlM_cons, addRevenue_aware h]
    refine (ih _).trans ?_
    rw [amounts_filter_cons, ← add_assoc]
    by_cases hfrom : datedFrom threshold.utc o = true
    · rw [if_pos hfrom, if_pos hfrom]
    · rw [if_neg hfrom, if_neg hfrom, add_zero]

theorem sumRevenueWithin_ok (haware : now.utcoffset.isNone = false) (hvalid : window ≤ now.wall) :
    sumRevenueWithin orders now window = .ok (amounts (orders.filter (datedFrom (now.utc - window)))) := by
  obtain ⟨threshold, hsub, hoffset, hutc⟩ := subDelta_ok hvalid
  have hmarked : threshold.utcoffset.isNone = false := by rw [hoffset, haware]
  rw [sumRevenueWithin, hsub]
  refine (foldlM_addRevenue hmarked 0).trans ?_
  rw [zero_add, hutc]

/-- A window in days. -/
theorem sumRevenueWithin_days (haware : now.utcoffset.isNone = false) {windowDays : Nat}
    (hvalid : windowDays * day ≤ now.wall) :
    sumRevenueWithin orders now (windowDays * day) = .ok (Ml.sumRevenueWithin orders now windowDays) := by
  rw [sumRevenueWithin_ok haware hvalid, Ml.sumRevenueWithin_eq, Nat.cast_mul]
  rfl

/-- Nothing bounds the window from above, so that what is dated after `now` counts too. -/
theorem amounts_datedFrom (orders : List OrderRow) (now : DateTime) (window : Nat) :
    amounts (orders.filter (datedFrom (now.utc - window))) =
      amounts (orders.filter (datedWithin now window)) + amounts (orders.filter (datedAfter now)) := by
  have hone : ∀ (o : OrderRow) (amount : ℚ), (if datedFrom (now.utc - window) o then amount else 0) =
      (if datedWithin now window o then amount else 0) + if datedAfter now o then amount else 0 := by
    intro o amount
    rw [datedFrom, datedWithin, datedAfter]
    cases o.createdAt with
    | none => simp
    | some createdAt =>
      simp only [Option.any_some, decide_eq_true_eq]
      rcases lt_or_ge now.utc createdAt.utc with hafter | hbefore
      · rw [if_pos (by omega), if_neg (by omega), if_pos hafter, zero_add]
      · rw [if_neg (not_lt.mpr hbefore), add_zero]
        exact if_congr (and_iff_left hbefore).symm rfl rfl
  induction orders with
  | nil => simp [amounts]
  | cons o orders ih =>
    rw [amounts_filter_cons, amounts_filter_cons, amounts_filter_cons, ih, hone]
    ring

/-- For non-negative amounts, an earlier threshold gives no smaller sum. -/
theorem amounts_datedFrom_mono (hamounts : ∀ o ∈ orders, ∀ amount ∈ o.totalAmount, 0 ≤ amount) {threshold threshold' : Int}
    (h : threshold' ≤ threshold) :
    amounts (orders.filter (datedFrom threshold)) ≤ amounts (orders.filter (datedFrom threshold')) := by
  induction orders with
  | nil => exact le_refl _
  | cons o orders ih =>
    have hrest := ih fun o' ho' => hamounts o' (List.mem_cons_of_mem o ho')
    have hnonneg : 0 ≤ o.totalAmount.getD 0 := by
      cases hamount : o.totalAmount with
      | none => exact le_refl _
      | some amount => exact hamounts o List.mem_cons_self amount hamount
    have hearlier : datedFrom threshold o = true → datedFrom threshold' o = true := by
      rw [datedFrom, datedFrom]
      cases o.createdAt with
      | none => exact id
      | some createdAt => exact fun hfrom => decide_eq_true (h.trans (of_decide_eq_true hfrom))
    rw [amounts_filter_cons, amounts_filter_cons]
    refine add_le_add ?_ hrest
    by_cases hfrom : datedFrom threshold o = true
    · rw [if_pos hfrom, if_pos (hearlier hfrom)]
    · rw [if_neg hfrom]
      split
      · exact hnonneg
      · exact le_refl _

end Revenue

/-- The code sums exactly what the closed interval `[now - window, now]` holds when what is dated after `now` sums to
    nothing; a longer window has no less revenue in any case. -/
theorem revenue_window_iff (orders : List OrderRow) (now : DateTime) (window : Nat) (haware : now.utcoffset ≠ none)
    (hvalid : window ≤ now.wall) :
    (sumRevenueWithin orders now window = .ok (amounts (orders.filter (datedWithin now window))) ↔
      amounts (orders.filter (datedAfter now)) = 0) ∧
    (365 * day ≤ now.wall → (∀ o ∈ orders, ∀ amount ∈ o.totalAmount, 0 ≤ amount) → ∃ rev30 rev90 rev365,
      sumRevenueWithin orders now (30 * day) = .ok rev30 ∧ sumRevenueWithin orders now (90 * day) = .ok rev90 ∧
      sumRevenueWithin orders now (365 * day) = .ok rev365 ∧ rev30 ≤ rev90 ∧ rev90 ≤ rev365) := by
  have hmarked : now.utcoffset.isNone = false := isNone_of_aware haware
  constructor
  · rw [sumRevenueWithin_ok hmarked hvalid, Except.ok.injEq, amounts_datedFrom, add_eq_left]
  · intro hyear hamounts
    refine ⟨_, _, _, sumRevenueWithin_ok hmarked (by omega), sumRevenueWithin_ok hmarked (by omega),
      sumRevenueWithin_ok hmarked hyear, amounts_datedFrom_mono hamounts ?_, amounts_datedFrom_mono hamounts ?_⟩
    · push_cast
      omega
    · push_cast
      omega

/-- One order ten days before, one ten days after. -/
def ordersAround (now : DateTime) : List OrderRow :=
  [⟨1, 1, some { now with wall := now.wall - 10 * day }, some 50⟩,
    ⟨2, 1, some { now with wall := now.wall + 10 * day }, none⟩]

def noon : DateTime := ⟨739616 * day + 12 * 3600 * 1000000, some 0⟩

theorem revenue_window_noon :
    sumRevenueWithin (ordersAround noon) noon (30 * day) =
      .ok (amounts ((ordersAround noon).filter (datedWithin noon (30 * day)))) :=
  (revenue_window_iff (ordersAround noon) noon (30 * day) (by decide) (by decide)).1.mpr (by decide +kernel)

/-- An order dated tomorrow by another clock counts in every window. -/
theorem later_order_counts : ¬∀ (orders : List OrderRow) (now : DateTime) (window : Nat), now.utcoffset ≠ none →
    window ≤ now.wall →
      sumRevenueWithin orders now window = .ok (amounts (orders.filter (datedWithin now window))) := by
  intro h
  have hsum := h [⟨1, 1, some { noon with wall := noon.wall + day }, some 5⟩] noon (30 * day) (by decide) (by decide)
  revert hsum
  decide +kernel

/-! ### The whole vector -/

section Vector
variable {customer : CustomerRow} {orders : List OrderRow} {orderLines : List OrderLineRow} {now : DateTime}

theorem computeDiversity_ok (lines : List OrderLineRow) : computeDiversity lines = .ok (Ml.computeDiversity lines) := by
  unfold computeDiversity Ml.computeDiversity
  by_cases hnil : lines = []
  · rw [if_pos hnil, if_pos hnil]
  · have hpos : lines.length > 0 := List.length_pos_iff.mpr hnil
    have hne : (lines.length : ℚ) ≠ 0 := Nat.cast_ne_zero.mpr hpos.ne'
    rw [if_neg hnil, if_neg hnil]
    simp only [trueDiv, if_pos hpos, if_neg hne]

/-- No row of the database makes the extraction raise. -/
theorem extractFeatures_ok (customer : CustomerRow) (orders : List OrderRow) (orderLines : List OrderLineRow)
    (haware : now.utcoffset.isNone = false) (hvalid : 365 * day ≤ now.wall) :
    extractFeatures customer orders orderLines now = .ok (Ml.extractFeatures customer orders orderLines now) := by
  have hcreated := utcoffset_ensureUtc customer.createdAt
  have hdates : ∀ x ∈ orders.filterMap fun o => o.createdAt.map ensureUtc, x.utcoffset.isNone = false := by
    intro x hx
    obtain ⟨o, -, hmap⟩ := List.mem_filterMap.mp hx
    obtain ⟨createdAt, -, rfl⟩ := Option.map_eq_some_iff.mp hmap
    exact utcoffset_ensureUtc createdAt
  have hlast := getD_latest_aware hcreated hdates
  have h30 : sumRevenueWithin orders now (30 * day) = _ := sumRevenueWithin_days haware (by omega)
  have h90 : sumRevenueWithin orders now (90 * day) = _ := sumRevenueWithin_days haware (by omega)
  have h365 : sumRevenueWithin orders now (365 * day) = _ := sumRevenueWithin_days haware hvalid
  have hlifetime : ((max 1 ((now.utc - customer.createdAt.ensureUtc.utc) / day) : Int) : ℚ) ≠ 0 := by
    rw [Int.cast_ne_zero]
    omega
  simp only [extractFeatures, sub_aware haware hcreated, maxOr_aware hdates, sub_aware haware hlast, h30, h90, h365,
    trueDiv, if_neg hlifetime, computeDiversity_ok, bind, Except.bind]
  rfl

/-- The account's date is always marked, so `now` has to be. -/
theorem extractFeatures_naive (customer : CustomerRow) (orders : List OrderRow) (orderLines : List OrderLineRow)
    (hnaive : now.utcoffset = none) : extractFeatures customer orders orderLines now =
      .error (.typeError "can't subtract offset-naive and offset-aware datetimes") := by
  have hsub : sub now customer.createdAt.ensureUtc =
      .error (.typeError "can't subtract offset-naive and offset-aware datetimes") := by
    rw [sub, hnaive, utcoffset_ensureUtc]
    rfl
  simp only [extractFeatures, hsub, bind, Except.bind]

/-! ### Another representation of the same rows -/

/-- The same customer; its date may be marked with another offset, or not at all. -/
structure SameCustomer (c c' : CustomerRow) : Prop where
  id : c.id = c'.id
  email : c.email = c'.email
  createdAt : c.createdAt.utc = c'.createdAt.utc

/-- The same order; its date may be marked with another offset, or not at all. -/
structure SameOrder (o o' : OrderRow) : Prop where
  id : o.id = o'.id
  customerId : o.customerId = o'.customerId
  createdAt : o.createdAt.map utc = o'.createdAt.map utc
  totalAmount : o.totalAmount = o'.totalAmount

variable {customer' : CustomerRow} {orders' : List OrderRow} {now' : DateTime}

/-- The instants that count are read off the dates. -/
theorem SameOrder.any_utc {o o' : OrderRow} (h : SameOrder o o') (p : Int → Bool) :
    (o.createdAt.any fun d => p d.utc) = o'.createdAt.any fun d => p d.utc := by
  have hmap := congrArg (Option.any p) h.createdAt
  rwa [Option.any_map, Option.any_map] at hmap

theorem sumRevenueWithin_same (h : List.Forall₂ SameOrder orders orders') (hnow : now.utc = now'.utc) (windowDays : Nat) :
    Ml.sumRevenueWithin orders now windowDays = Ml.sumRevenueWithin orders' now' windowDays := by
  rw [Ml.sumRevenueWithin_eq, Ml.sumRevenueWithin_eq]
  show amounts (orders.filter (inWindow now windowDays)) = amounts (orders'.filter (inWindow now' windowDays))
  induction h with
  | nil => rfl
  | cons hsame _ ih =>
    rw [amounts_filter_cons, amounts_filter_cons, ih, hsame.totalAmount, inWindow, inWindow, hnow,
      hsame.any_utc fun u => now'.utc - windowDays * day ≤ u]

/-- The instants of the dated orders. -/
theorem map_utc_same (h : List.Forall₂ SameOrder orders orders') :
    (orders.filterMap fun o => o.createdAt.map ensureUtc).map utc =
      (orders'.filterMap fun o => o.createdAt.map ensureUtc).map utc := by
  have hone : ∀ o : OrderRow, ((o.createdAt.map ensureUtc).map utc) = o.createdAt.map utc := by
    intro o
    cases o.createdAt with
    | none => rfl
    | some createdAt => exact congrArg some (utc_ensureUtc createdAt)
  rw [List.map_filterMap, List.map_filterMap, funext hone]
  induction h with
  | nil => rfl
  | cons hsame _ ih => rw [List.filterMap_cons, List.filterMap_cons, ih, hsame.createdAt]

theorem utc_getD_latest_same {ds ds' : List DateTime} (h : ds.map utc = ds'.map utc) {d d' : DateTime}
    (hd : d.utc = d'.utc) :
    ((latest ds).getD d).utc = ((latest ds').getD d').utc := by
  have hlength : ds.length = ds'.length := by simpa using congrArg List.length h
  cases hbest : latest ds with
  | none =>
    have hnil : ds = [] := latest_eq_none_iff.mp hbest
    have hnil' : ds' = [] := List.length_eq_zero_iff.mp (by rw [← hlength, hnil, List.length_nil])
    rw [latest_eq_none_iff.mpr hnil']
    exact hd
  | some best =>
    have hsome : latest ds' ≠ none := by
      intro hnone
      have hnil : ds = [] := List.length_eq_zero_iff.mp (by rw [hlength, latest_eq_none_iff.mp hnone, List.length_nil])
      rw [latest_eq_none_iff.mpr hnil] at hbest
      cases hbest
    obtain ⟨best', hbest'⟩ := Option.ne_none_iff_exists'.mp hsome
    rw [hbest']
    exact utc_latest_eq hbest hbest' fun u => by rw [← List.mem_map, ← List.mem_map, h]

theorem extractFeatures_same (hcustomer : SameCustomer customer customer') (horders : List.Forall₂ SameOrder orders orders')
    (hnow : now.utc = now'.utc) :
    Ml.extractFeatures customer orders orderLines now = Ml.extractFeatures customer' orders' orderLines now' := by
  have hcreated : customer.createdAt.ensureUtc.utc = customer'.createdAt.ensureUtc.utc := by
    rw [utc_ensureUtc, utc_ensureUtc, hcustomer.createdAt]
  have hlast := utc_getD_latest_same (map_utc_same horders) hcreated
  simp only [Ml.extractFeatures, sumRevenueWithin_same horders hnow, horders.length_eq, daysSince, hnow, hcreated, hlast,
    hcustomer.email]

end Vector

/-- The vector is the same however the rows are ordered and their dates marked, and computing it raises nothing. -/
theorem extract_same_instants (customer customer' : CustomerRow) (orders marked orders' : List OrderRow)
    (orderLines orderLines' : List OrderLineRow) (now now' : DateTime) (haware : now.utcoffset ≠ none)
    (haware' : now'.utcoffset ≠ none) (hvalid : 365 * day ≤ now.wall) (hvalid' : 365 * day ≤ now'.wall)
    (hnow : now.utc = now'.utc) (hcustomer : SameCustomer customer customer')
    (horders : List.Forall₂ SameOrder orders marked)
    (hperm : marked.Perm orders') (hlines : orderLines.Perm orderLines') :
    ∃ features, features.length = nFeatures ∧ extractFeatures customer orders orderLines now = .ok features ∧
      extractFeatures customer' orders' orderLines' now' = .ok features := by
  have hmarked : now.utcoffset.isNone = false := isNone_of_aware haware
  have hmarked' : now'.utcoffset.isNone = false := isNone_of_aware haware'
  have hsame : Ml.extractFeatures customer orders orderLines now =
    Ml.extractFeatures customer' orders' orderLines' now' := by
    rw [extractFeatures_same hcustomer horders hnow, Ml.extractFeatures_perm hperm hlines]
  refine ⟨_, rfl, extractFeatures_ok customer orders orderLines hmarked hvalid, ?_⟩
  rw [extractFeatures_ok customer' orders' orderLines' hmarked' hvalid', hsame]

/-- The orders as SQLite returns them, in another order: the first one naive, the second one two hours ahead of UTC. -/
theorem extract_sqlite_postgres : ∃ features, features.length = nFeatures ∧
    extractFeatures ⟨1, "ada@example.com", ⟨739000 * day, some 0⟩⟩
      [⟨1, 1, some ⟨739600 * day, some 0⟩, some 50⟩, ⟨2, 1, some ⟨739500 * day, some 0⟩, some 30⟩, ⟨3, 1, none, none⟩]
      [⟨1, 7⟩, ⟨2, 8⟩] noon = .ok features ∧
    extractFeatures ⟨1, "ada@example.com", ⟨739000 * day, none⟩⟩
      [⟨3, 1, none, none⟩, ⟨2, 1, some ⟨739500 * day + 2 * 3600 * 1000000, some (2 * 3600 * 1000000)⟩, some 30⟩,
        ⟨1, 1, some ⟨739600 * day, none⟩, some 50⟩]
      [⟨2, 8⟩, ⟨1, 7⟩] noon = .ok features :=
  extract_same_instants ⟨1, "ada@example.com", ⟨739000 * day, some 0⟩⟩ ⟨1, "ada@example.com", ⟨739000 * day, none⟩⟩ _
    [⟨1, 1, some ⟨739600 * day, none⟩, some 50⟩,
      ⟨2, 1, some ⟨739500 * day + 2 * 3600 * 1000000, some (2 * 3600 * 1000000)⟩, some 30⟩, ⟨3, 1, none, none⟩]
    _ _ _ noon noon (by decide) (by decide) (by decide) (by decide) rfl ⟨rfl, rfl, rfl⟩
    (.cons ⟨rfl, rfl, rfl, rfl⟩ (.cons ⟨rfl, rfl, rfl, rfl⟩ (.cons ⟨rfl, rfl, rfl, rfl⟩ .nil)))
    (List.reverse_perm _).symm (List.Perm.swap _ _ _)

end IrisService.Ml.Extraction
