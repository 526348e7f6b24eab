import IrisService.Library.Binary64
import IrisService.Ml.FeatureEngineering

/-! `generate_dataset` of `ml/seed_demo_data.py`, for any outcome of its draws, and `label_churn` of
    `ml/feature_engineering.py`. -/

namespace IrisService.Ml.SeedData
open GroupBy DateTime

/-- The bounds of `rng.integers(low, high)`; `high` is excluded. -/
structure Bounds where
  low : Int
  high : Int
  deriving DecidableEq, Repr

namespace Bounds

/-- `low < high`, without which numpy raises. -/
def Nonempty (b : Bounds) : Prop := b.low < b.high

instance (b : Bounds) : Decidable b.Nonempty := inferInstanceAs (Decidable (b.low < b.high))

/-- A draw is within the bounds, if anything is. -/
def Draws (b : Bounds) (v : Int) : Prop := b.Nonempty → b.low ≤ v ∧ v < b.high

end Bounds

/-- What is drawn for a customer's orders. -/
structure OrderDraws where
  email : String
  poisson : Nat
  orderAges : Nat → Int
  /-- The age that replaces the smallest one. -/
  recent : Int

/-- What is drawn for an order and its lines. -/
structure LineDraws where
  totalAmount : ℚ
  poisson : Nat
  productIds : Nat → Int
  quantities : Nat → Int

/-- All draws: the two arrays of ages, the draws for each customer by its id, those for each order by its id. -/
structure Draws where
  churnedAges : Nat → Int
  activeAges : Nat → Int
  customers : Nat → OrderDraws
  orders : Nat → LineDraws

/-- The arguments. -/
structure Args where
  nCustomers : Nat
  nProducts : Nat
  now : DateTime
  churnRate : ℚ

/-- `_MAX_CUSTOMER_AGE_DAYS` -/
def maxCustomerAgeDays : Int := 730

/-- `now - timedelta(days=days)` -/
def daysBefore (now : DateTime) (days : Int) : DateTime := { now with wall := (now.wall - days * day).toNat }

/-- The index of the first smallest element. -/
def argmin (ages : List Int) : Nat := ages.idxOf (ages.min?.getD 0)

/-- `n_churned`, from a product of floats. -/
def Args.nChurned (args : Args) : Int :=
  Binary64.roundHalfEven (Binary64.round (Binary64.round args.nCustomers * args.churnRate))

/-- The bounds of an account's age. -/
def ageBounds (isChurnedTarget : Bool) : Bounds :=
  if isChurnedTarget then ⟨120, maxCustomerAgeDays⟩ else ⟨0, maxCustomerAgeDays⟩

/-- The bounds of the ages of its orders. -/
def orderBounds (isChurnedTarget : Bool) (ageDays : Int) (nOrders : Nat) : Bounds :=
  if isChurnedTarget then
    let windowMax := ageDays - 1
    let windowMin := max 91 (windowMax - nOrders * 5)
    let windowMin := if windowMax ≤ windowMin then 91 else windowMin
    ⟨windowMin, windowMax + 1⟩
  else ⟨0, ageDays + 1⟩

/-- The bounds of the age of a forced recent order. -/
def recentBounds : Bounds := ⟨0, 31⟩

namespace Args
variable (args : Args) (draws : Draws)

/-- The first customers are the ones meant to churn. -/
def isChurnedTarget (cid : Nat) : Bool := cid ≤ args.nChurned

/-- `ages[cid - 1]`, from the two arrays one after the other. -/
def age (cid : Nat) : Int :=
  if args.isChurnedTarget cid then draws.churnedAges (cid - 1) else draws.activeAges (cid - 1 - args.nChurned.toNat)

/-- The customers are numbered from 1. -/
def customerIds : List Nat := List.range' 1 args.nCustomers

/-- A customer as it is generated. -/
def customer (cid : Nat) : CustomerRow := ⟨cid, (draws.customers cid).email, daysBefore args.now (args.age draws cid)⟩

/-- All customers. -/
def customerRecords : List CustomerRow := args.customerIds.map (args.customer draws)

/-- `age_days` in the loop over the customers. -/
def ageDays (cid : Nat) : Int := args.now.daysSince (args.customer draws cid).createdAt

/-- The number of orders of a customer, at least one. -/
def nOrders (cid : Nat) : Nat := max 1 (draws.customers cid).poisson

/-- `order_ages`, as it is drawn. -/
def drawnAges (cid : Nat) : List Int := (List.range (nOrders draws cid)).map (draws.customers cid).orderAges

/-- `order_ages`, with a recent order forced on a customer that does not churn. -/
def orderAges (cid : Nat) : List Int :=
  if args.isChurnedTarget cid then drawnAges draws cid
  else (drawnAges draws cid).set (argmin (drawnAges draws cid)) (draws.customers cid).recent

/-- The dates of all orders with their customers, the oldest order of each first. -/
def orderRecords : List (Nat × DateTime) :=
  args.customerIds.flatMap fun cid =>
    ((args.orderAges draws cid).mergeSort fun a b => decide (b ≤ a)).map fun age => (cid, daysBefore args.now age)

/-- The orders are numbered as they come. -/
def orders : List OrderRow :=
  (args.orderRecords draws).zipIdx.map fun r => ⟨r.2 + 1, r.1.1, some r.1.2, some (draws.orders (r.2 + 1)).totalAmount⟩

/-- The number of lines of an order, at least one. -/
def nLines (orderId : Nat) : Nat := max 1 (draws.orders orderId).poisson

/-- The lines of all orders. -/
def orderLines : List OrderLineRow :=
  (args.orders draws).flatMap fun o =>
    (List.range (nLines draws o.id)).map fun i => ⟨o.id, ((draws.orders o.id).productIds i).toNat⟩

/-- The bounds that the code asks for. -/
def requested : List Bounds :=
  [ageBounds true, ageBounds false] ++
    args.customerIds.flatMap (fun cid =>
      orderBounds (args.isChurnedTarget cid) (args.ageDays draws cid) (nOrders draws cid) ::
        if args.isChurnedTarget cid then [] else [recentBounds]) ++
    (args.orderLines draws).flatMap fun _ => [⟨1, args.nProducts + 1⟩, ⟨1, 5⟩]

end Args

/-- A customer with its first and its last order. -/
structure AnnotatedCustomer extends DatedCustomer where
  firstOrderAt : Option DateTime

/-- The merge of the first and the last order of each customer. -/
def annotate (customers : List CustomerRow) (orders : List OrderRow) : List AnnotatedCustomer :=
  let firstOrders := agg (fun o => some o.customerId) orders fun os => earliest (os.filterMap OrderRow.createdAt)
  (withLastOrder customers orders).map fun c => { c with firstOrderAt := (firstOrders.lookup c.id).join }

/-- `SyntheticDataset` -/
structure SyntheticDataset where
  customers : List AnnotatedCustomer
  orders : List OrderRow
  orderLines : List OrderLineRow

/-- What numpy raises. -/
inductive ValueError where
  | negativeDimensions
  | lowHigh
  deriving DecidableEq, Repr

/-- `generate_dataset`: the sizes and the bounds are checked by numpy as they are used. -/
def generateDataset (args : Args) (draws : Draws) : Except ValueError SyntheticDataset :=
  if args.nChurned < 0 ∨ args.nCustomers - args.nChurned < 0 then .error .negativeDimensions
  else if ¬∀ b ∈ args.requested draws, b.Nonempty then .error .lowHigh
  else .ok ⟨annotate (args.customerRecords draws) (args.orders draws), args.orders draws, args.orderLines draws⟩

/-! ### The label -/

/-- One row of `label_churn`; a comparison with a missing date is false. -/
def isChurned (now : DateTime) (churnWindowDays minActivePeriodDays minAccountAgeDays : Nat) (c : AnnotatedCustomer) :
    Bool :=
  let hasLateLastOrder := c.lastOrderAt.any fun last => last.utc < now.utc - churnWindowDays * day
  let hasActivePeriod := c.lastOrderAt.any fun last => c.firstOrderAt.any fun first =>
    ((minActivePeriodDays * day : Nat) : Int) < last.utc - first.utc
  let hasAccountAge := decide (c.createdAt.utc < now.utc - minAccountAgeDays * day)
  hasLateLastOrder && hasActivePeriod && hasAccountAge

/-- `label_churn` -/
def labelChurn (customers : List AnnotatedCustomer) (now : DateTime) (churnWindowDays minActivePeriodDays : Nat)
    (minAccountAgeDays : Nat) : List Bool :=
  customers.map (isChurned now churnWindowDays minActivePeriodDays minAccountAgeDays)

/-- The draws are within the bounds that the code asks for. -/
structure Draws.InBounds (args : Args) (draws : Draws) : Prop where
  churnedAges : ∀ i, (ageBounds true).Draws (draws.churnedAges i)
  activeAges : ∀ i, (ageBounds false).Draws (draws.activeAges i)
  orderAges : ∀ cid ∈ args.customerIds, ∀ i < Args.nOrders draws cid,
    (orderBounds (args.isChurnedTarget cid) (args.ageDays draws cid) (Args.nOrders draws cid)).Draws
      ((draws.customers cid).orderAges i)
  recent : ∀ cid ∈ args.customerIds, recentBounds.Draws (draws.customers cid).recent
  productIds : ∀ orderId i, (Bounds.mk 1 (args.nProducts + 1)).Draws ((draws.orders orderId).productIds i)
  quantities : ∀ orderId i, (Bounds.mk 1 5).Draws ((draws.orders orderId).quantities i)

end IrisService.Ml.SeedData
