import IrisService.Library.GroupBy
import IrisService.Python.DateTime
import IrisService.Python.Str
import Mathlib.Algebra.BigOperators.Group.List.Basic
import Mathlib.Data.Rat.Defs
import Mathlib.Algebra.Order.Field.Rat

/-! `ml/feature_engineering.py`, in exact numbers, with the dates of `generate_dataset`. -/

namespace IrisService.Ml
open GroupBy DateTime

/-- `FEATURE_NAMES` -/
def featureNames : List String :=
  ["days_since_last_order", "total_revenue_30d", "total_revenue_90d", "total_revenue_365d", "order_frequency",
    "cart_diversity", "email_domain_class", "customer_lifetime_days"]

/-- `_MAINSTREAM_DOMAINS` -/
def mainstreamDomains : List String :=
  ["gmail.com", "outlook.com", "hotmail.com", "yahoo.com", "icloud.com", "live.com", "msn.com", "aol.com", "protonmail.com",
    "yandex.com"]

/-- `_DISPOSABLE_DOMAINS` -/
def disposableDomains : List String :=
  ["tempmail.com", "10minutemail.com", "guerrillamail.com", "mailinator.com", "throwaway.email"]

/-- `classify_email_domain`: 0 corporate, 1 mainstream, 2 disposable, 3 unknown. -/
def classifyEmailDomain (email : String) : Nat :=
  if email = "" ∨ '@' ∉ email.toList then 3
  else
    let domain := Str.strip (Str.lower (Str.afterLast '@' email))
    if domain = "" then 3
    else if domain ∈ disposableDomains then 2
    else if domain ∈ mainstreamDomains then 1
    else 0

/-! ### The tables -/

/-- A row of the customers. -/
structure CustomerRow where
  id : Nat
  email : String
  createdAt : DateTime

/-- A row of the orders; the date and the amount may be missing. -/
structure OrderRow where
  id : Nat
  customerId : Nat
  createdAt : Option DateTime
  totalAmount : Option ℚ

/-- A row of the order lines. -/
structure OrderLineRow where
  orderId : Nat
  productId : Nat

/-- A customer with `last_order_at`. -/
structure DatedCustomer extends CustomerRow where
  lastOrderAt : Option DateTime

/-- The merge at the end of `generate_dataset`. -/
def withLastOrder (customers : List CustomerRow) (orders : List OrderRow) : List DatedCustomer :=
  let lastOrders := agg (fun o => some o.customerId) orders fun os => latest (os.filterMap OrderRow.createdAt)
  customers.map fun c => { c with lastOrderAt := (lastOrders.lookup c.id).join }

/-! ### build_features -/

/-- A data frame by columns. -/
abbrev Frame := List (String × List ℚ)

/-- `frame[names]` -/
def Frame.select (frame : Frame) (names : List String) : Frame :=
  names.filterMap fun name => (frame.lookup name).map fun column => (name, column)

/-- The values of one row, column by column. -/
def Frame.row (frame : Frame) (i : Nat) : List ℚ := frame.filterMap fun column => column.2[i]?

/-- `days_since_last_order`: never negative, and the ordinal of today without an order. -/
def daysSinceLastOrder (now : DateTime) (c : DatedCustomer) : ℚ :=
  match c.lastOrderAt with
  | some lastOrderAt => (max 0 (now.daysSince lastOrderAt) : Int)
  | none => now.toordinal

/-- `orders["created_at"] >= now - timedelta(days=windowDays)` -/
def inWindow (now : DateTime) (windowDays : Nat) (o : OrderRow) : Bool :=
  o.createdAt.any fun createdAt => now.utc - windowDays * day ≤ createdAt.utc

/-- The amounts of the windowed orders by customer. -/
def revenue (orders : List OrderRow) (now : DateTime) (windowDays : Nat) : Series Nat ℚ :=
  agg (fun o => some o.customerId) (orders.filter (inWindow now windowDays)) fun os =>
    (os.filterMap OrderRow.totalAmount).sum

/-- The days since the account was made, at least one. -/
def lifetimeDays (now : DateTime) (c : CustomerRow) : Int := max 1 (now.daysSince c.createdAt)

/-- The number of orders by customer. -/
def orderCount (orders : List OrderRow) : Series Nat ℚ := agg (fun o => some o.customerId) orders fun os => os.length

/-- The number of distinct products by customer. -/
def distinctProducts (enriched : List (OrderLineRow × Option OrderRow)) : Series Nat ℚ :=
  agg (fun e => e.2.map OrderRow.customerId) enriched fun es => (es.map fun e => e.1.productId).dedup.length

/-- The number of lines by customer. -/
def totalLines (enriched : List (OrderLineRow × Option OrderRow)) : Series Nat ℚ :=
  agg (fun e => e.2.map OrderRow.customerId) enriched fun es => es.length

/-- `cart_diversity` by customer. -/
def diversity (orders : List OrderRow) (orderLines : List OrderLineRow) : Series Nat ℚ :=
  let enriched := leftJoin OrderLineRow.orderId OrderRow.id orderLines orders
  let ratio :=
    (distinctProducts enriched).zipWith (fun distinct total => distinct / if total = 0 then 1 else total)
    (totalLines enriched)
  ratio.map fun e => (e.1, e.2.getD 0)

/-- The frame that `build_features` fills column by column. -/
def featureFrame (customers : List DatedCustomer) (orders : List OrderRow) (orderLines : List OrderLineRow)
    (now : DateTime) : Frame :=
  let ids := customers.map fun c => c.id
  let lifetime := customers.map fun c => (lifetimeDays now c.toCustomerRow : ℚ)
  let counts := ((orderCount orders).reindex ids).map fun n => n.getD 0
  let out : Frame :=
    [("days_since_last_order", customers.map (daysSinceLastOrder now)),
      ("total_revenue_30d", ((revenue orders now 30).reindex ids).map fun r => r.getD 0),
      ("total_revenue_90d", ((revenue orders now 90).reindex ids).map fun r => r.getD 0),
      ("total_revenue_365d", ((revenue orders now 365).reindex ids).map fun r => r.getD 0),
      ("order_frequency", List.zipWith (fun n days => n / days) counts lifetime),
      ("cart_diversity", ((diversity orders orderLines).reindex ids).map fun d => d.getD 0),
      ("email_domain_class", customers.map fun c => (classifyEmailDomain c.email : ℚ)),
      ("customer_lifetime_days", lifetime)]
  out.select featureNames

/-- pandas subtracts and compares dates with `now` only if they are marked as it is, with an offset or without. -/
def comparable (now : DateTime) (dates : List DateTime) : Except String Unit :=
  if ∀ d ∈ dates, d.utcoffset.isNone = now.utcoffset.isNone then .ok () else .error "TypeError"

/-- `now - timedelta(days=windowDays)` is a date. -/
def reaches (now : DateTime) (windowDays : Nat) : Except String Unit :=
  if windowDays * day ≤ now.wall then .ok () else .error "OverflowError"

/-- The columns are filled in this order; the first date that cannot be used raises. -/
def buildFeatures (customers : List DatedCustomer) (orders : List OrderRow) (orderLines : List OrderLineRow)
    (now : DateTime) : Except String Frame := do
  comparable now (customers.filterMap DatedCustomer.lastOrderAt)
  reaches now 30
  comparable now (orders.filterMap OrderRow.createdAt)
  reaches now 90
  reaches now 365
  comparable now (customers.map fun c => c.createdAt)
  return featureFrame customers orders orderLines now

/-! ### What can be filled -/

section Filled
variable {customers : List DatedCustomer} {orders : List OrderRow} {orderLines : List OrderLineRow} {now : DateTime}

theorem comparable_bind_iff {dates : List DateTime} {rest : Except String Frame} {frame : Frame} :
    (comparable now dates >>= fun _ => rest) = .ok frame ↔
      (∀ d ∈ dates, d.utcoffset.isNone = now.utcoffset.isNone) ∧ rest = .ok frame := by
  unfold comparable
  split
  · rename_i hmarked
    exact (and_iff_right hmarked).symm
  · rename_i hmarked
    exact iff_of_false nofun fun h => hmarked h.1

theorem reaches_bind_iff {windowDays : Nat} {rest : Except String Frame} {frame : Frame} :
    (reaches now windowDays >>= fun _ => rest) = .ok frame ↔ windowDays * day ≤ now.wall ∧ rest = .ok frame := by
  unfold reaches
  split
  · rename_i hvalid
    exact (and_iff_right hvalid).symm
  · rename_i hvalid
    exact iff_of_false nofun fun h => hvalid h.1

theorem buildFeatures_iff {frame : Frame} : buildFeatures customers orders orderLines now = .ok frame ↔
    ((∀ d ∈ customers.filterMap DatedCustomer.lastOrderAt, d.utcoffset.isNone = now.utcoffset.isNone) ∧
      (∀ d ∈ orders.filterMap OrderRow.createdAt, d.utcoffset.isNone = now.utcoffset.isNone) ∧
      365 * day ≤ now.wall ∧ ∀ d ∈ customers.map fun c => c.createdAt, d.utcoffset.isNone = now.utcoffset.isNone) ∧
        featureFrame customers orders orderLines now = frame := by
  unfold buildFeatures
  rw [comparable_bind_iff, reaches_bind_iff, comparable_bind_iff, reaches_bind_iff, reaches_bind_iff, comparable_bind_iff]
  simp only [pure, Except.pure, Except.ok.injEq]
  constructor
  · rintro ⟨hlast, -, hdates, -, hyear, hcreated, hframe⟩
    exact ⟨⟨hlast, hdates, hyear, hcreated⟩, hframe⟩
  · rintro ⟨⟨hlast, hdates, hyear, hcreated⟩, hframe⟩
    exact ⟨hlast, by omega, hdates, by omega, hyear, hcreated, hframe⟩

end Filled

/-! ### One row -/

section Row
variable {customers : List DatedCustomer} {orders : List OrderRow} {orderLines : List OrderLineRow} {now : DateTime}

/-- A row is computed from its customer. -/
theorem row_featureFrame {i : Nat} {c : DatedCustomer} (hc : customers[i]? = some c) :
    (featureFrame customers orders orderLines now).row i =
      [daysSinceLastOrder now c, ((revenue orders now 30).lookup c.id).getD 0, ((revenue orders now 90).lookup c.id).getD 0,
        ((revenue orders now 365).lookup c.id).getD 0,
        ((orderCount orders).lookup c.id).getD 0 / lifetimeDays now c.toCustomerRow,
        ((diversity orders orderLines).lookup c.id).getD 0, classifyEmailDomain c.email,
        lifetimeDays now c.toCustomerRow] := by
  have hselect : ∀ c1 c2 c3 c4 c5 c6 c7 c8 : List ℚ, Frame.select
      [("days_since_last_order", c1), ("total_revenue_30d", c2), ("total_revenue_90d", c3), ("total_revenue_365d", c4),
        ("order_frequency", c5), ("cart_diversity", c6), ("email_domain_class", c7),
        ("customer_lifetime_days", c8)] featureNames =
      [("days_since_last_order", c1), ("total_revenue_30d", c2), ("total_revenue_90d", c3), ("total_revenue_365d", c4),
        ("order_frequency", c5), ("cart_diversity", c6), ("email_domain_class", c7), ("customer_lifetime_days", c8)] :=
    fun _ _ _ _ _ _ _ _ => rfl
  simp only [featureFrame, hselect, Frame.row, List.filterMap_cons, List.filterMap_nil, List.getElem?_map,
    List.getElem?_zipWith, Series.reindex, hc, Option.map_some]

end Row

end IrisService.Ml
