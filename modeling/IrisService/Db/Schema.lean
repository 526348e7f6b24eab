import IrisService.Library.ReadCommitted
import IrisService.Orders.Status
import IrisService.Python.DateTime
import Mathlib.Algebra.Ring.Nat

/-! The migrated schema. A row holds the columns of its table but the primary key, which is the row's
    identity in the store. `NUMERIC(12, 2)` columns are counted in cents. -/

namespace IrisService
open ReadCommitted

/-- The tables. -/
inductive Table where
  | customer
  | appUser
  | refreshToken
  | product
  | orders
  | orderLine
  deriving DecidableEq, Repr

/-- A row of `customer`. -/
structure Customer where
  name : String
  email : String
  createdAt : DateTime
  deriving DecidableEq, Repr

/-- A row of `app_user`. -/
structure AppUser where
  username : String
  passwordHash : String
  role : String
  enabled : Bool
  deriving DecidableEq, Repr

/-- A row of `refresh_token`. -/
structure RefreshToken where
  token : String
  username : String
  expiresAt : DateTime
  revoked : Bool
  createdAt : DateTime
  deriving DecidableEq, Repr

/-- A row of `product`; its price in cents. -/
structure Product where
  name : String
  description : Option String
  unitPrice : Nat
  stockQuantity : Nat
  createdAt : DateTime
  updatedAt : DateTime
  deriving DecidableEq, Repr

/-- A row of `orders`; its total in cents. -/
structure Order where
  customerId : Nat
  status : OrderStatus
  totalAmount : Nat
  createdAt : DateTime
  updatedAt : DateTime
  deriving DecidableEq, Repr

/-- A row of `order_line`; its price in cents. -/
structure OrderLine where
  orderId : Nat
  productId : Nat
  quantity : Nat
  unitPriceAtOrder : Nat
  status : OrderLineStatus
  createdAt : DateTime
  deriving DecidableEq, Repr

/-- The rows of a table; the id is the key they are stored under. -/
abbrev Row : Table → Type
  | .customer => Customer
  | .appUser => AppUser
  | .refreshToken => RefreshToken
  | .product => Product
  | .orders => Order
  | .orderLine => OrderLine

/-- What a flush reads of the clock: the defaults of two columns of a new row read it one after the other. -/
structure Clock where
  now : DateTime
  next : DateTime
  deriving DecidableEq, Repr

/-- The rows of a table that a statement sees, in the order of their identities. -/
def select (v : View Row) (t : Table) : List (Nat × Row t) :=
  (List.range (v.seq t)).filterMap fun id => (v.rows t id).map fun row => (id, row)

section Select
variable {v : View Row} {t : Table} {id : Nat} {row : Row t}

theorem mem_select (h : (id, row) ∈ select v t) : v.rows t id = some row := by
  obtain ⟨id', -, hrow⟩ := List.mem_filterMap.mp h
  obtain ⟨row', hrow', heq⟩ := Option.map_eq_some_iff.mp hrow
  cases heq
  exact hrow'

theorem mem_select_of_row (hid : id < v.seq t) (h : v.rows t id = some row) : (id, row) ∈ select v t :=
  List.mem_filterMap.mpr ⟨id, List.mem_range.mpr hid, by rw [h]; rfl⟩

theorem any_select (h : v.Used) {p : Nat × Row t → Bool} :
    (select v t).any p = true ↔ ∃ id row, v.rows t id = some row ∧ p (id, row) = true := by
  rw [List.any_eq_true]
  constructor
  · rintro ⟨⟨id, row⟩, hmem, hp⟩
    exact ⟨id, row, mem_select hmem, hp⟩
  · rintro ⟨id, row, hrow, hp⟩
    exact ⟨(id, row), mem_select_of_row (h t id row hrow) hrow, hp⟩

end Select

/-- A value that an `INTEGER` column holds. -/
def fitsInteger (n : Nat) : Bool := n < 2 ^ 31

/-- An amount, in cents, that a `NUMERIC(12, 2)` column holds. -/
def fitsNumeric (cents : Nat) : Bool := cents < 10 ^ 12

end IrisService
