import IrisService.Db.Select
import IrisService.Library.Binary64
import IrisService.Python.Case
import IrisService.Python.Str

/-! The paginated listings: the methods of the three repositories, and the endpoints that answer with a page. An
order and a product are answered with all of their columns. -/

namespace IrisService.Listings
open ReadCommitted

variable (case : Str.CaseMapping) {v : View Row} (scan : Scan v)

/-- `f"%{search.lower()}%"` -/
def searchPattern (search : String) : String := "%" ++ case.lower search ++ "%"

/-! ### order/repository.py -/

namespace OrderRepository

/-- `OrderRepository.list_paginated`: the newest orders first, and how many there are. -/
def listPaginated (page size : Nat) : List (Nat × Order) × Nat :=
  let offset := page * size
  (offsetLimit (orderByIdDesc (scan.rows .orders)) offset size, (scan.rows .orders).length)

/-- `FROM orders JOIN order_line ON order_line.order_id = orders.id WHERE order_line.product_id = …` -/
def joinLines (productId : Nat) : List ((Nat × Order) × (Nat × OrderLine)) :=
  ((scan.rows .orders).flatMap fun o =>
    ((scan.rows .orderLine).filter fun l => l.2.orderId = o.1).map fun l => (o, l)).filter
    fun r => r.2.2.productId = productId

/-- `list_by_product_id`: the distinct orders of the join, the newest first, and how many they are. -/
def listByProductId (productId page size : Nat) : List (Nat × Order) × Nat :=
  let offset := page * size
  let rows := joinLines scan productId
  (offsetLimit (orderByIdDesc (rows.map Prod.fst).dedup) offset size, (rows.map fun r => r.1.1).dedup.length)

end OrderRepository

/-! ### product/repository.py -/

namespace ProductRepository

/-- `search.strip() if search else None` -/
def normalised (search : Option String) : Option String :=
  search.bind fun s => if s = "" then none else some (Str.strip s)

/-- The condition that the statements get, if any. -/
def condition (search : Option String) : Option (Nat × Product → Option Bool) :=
  (normalised search).bind fun s =>
    if s = "" then none
    else
      let pattern := searchPattern case s
      some fun p => sqlOr (like (some (case.lower p.2.name)) pattern) (like (p.2.description.map case.lower) pattern)

/-- `ProductRepository.list_paginated`: by id, and how many match. -/
def listPaginated (page size : Nat) (search : Option String) : List (Nat × Product) × Nat :=
  let offset := page * size
  match condition case search with
  | some condition =>
    let rows := filterWhere condition (scan.rows .product)
    (offsetLimit (orderById rows) offset size, rows.length)
  | none => (offsetLimit (orderById (scan.rows .product)) offset size, (scan.rows .product).length)

end ProductRepository

/-! ### customer/repository.py -/

namespace CustomerRepository

/-- The WHERE of a search, if one is asked for. -/
def condition (search : Option String) : Option (Nat × Customer → Option Bool) :=
  search.bind fun s =>
    if s = "" then none
    else
      let pattern := searchPattern case s
      some fun c => sqlOr (like (some (case.lower c.2.name)) pattern) (like (some (case.lower c.2.email)) pattern)

/-- `CustomerRepository.find_all`: by id, and how many match. -/
def findAll (page size : Nat) (search : Option String) : List (Nat × Customer) × Nat :=
  match condition case search with
  | some condition =>
    let rows := filterWhere condition (scan.rows .customer)
    (offsetLimit (orderById rows) (page * size) size, rows.length)
  | none => (offsetLimit (orderById (scan.rows .customer)) (page * size) size, (scan.rows .customer).length)

end CustomerRepository

/-! ### The endpoints -/

/-- `OrderPage` -/
structure ItemPage (α : Type) where
  items : List α
  total : Nat
  page : Nat
  size : Nat
  deriving DecidableEq, Repr

/-- A customer as v1 answers it. -/
structure CustomerResponse where
  id : Nat
  name : String
  email : String
  deriving DecidableEq, Repr

/-- A customer as v2 answers it. -/
structure CustomerResponseV2 extends CustomerResponse where
  createdAt : DateTime
  deriving DecidableEq, Repr

/-- `CustomerPage` and `CustomerPageV2` -/
structure ContentPage (α : Type) where
  content : List α
  page : Nat
  size : Nat
  totalElements : Nat
  totalPages : Nat
  deriving DecidableEq, Repr

/-- The page in the version of the API that is asked for. -/
inductive CustomerPage where
  | v1 (page : ContentPage CustomerResponse)
  | v2 (page : ContentPage CustomerResponseV2)
  deriving DecidableEq, Repr

/-- The number of pages, in either version. -/
def CustomerPage.totalPages : CustomerPage → Nat
  | v1 page => page.totalPages
  | v2 page => page.totalPages

/-- The response for a row of `customer`. -/
def CustomerResponse.ofRow (row : Nat × Customer) : CustomerResponse := ⟨row.1, row.2.name, row.2.email⟩

/-- The response for a row of `customer`, in v2. -/
def CustomerResponseV2.ofRow (row : Nat × Customer) : CustomerResponseV2 := ⟨.ofRow row, row.2.createdAt⟩

/-- `list_orders` -/
def listOrders (page size : Nat) : ItemPage (Nat × Order) :=
  let (items, total) := OrderRepository.listPaginated scan page size
  ⟨items, total, page, size⟩

/-- `math.ceil(total / size) if total > 0 else 0`, with a float quotient. -/
def totalPages (total size : Nat) : Nat := if total > 0 then ⌈Binary64.round ((total : ℚ) / size)⌉₊ else 0

/-- `list_customers`: the header `X-API-Version` decides what a customer looks like. -/
def listCustomers (page size : Nat) (search : Option String) (apiVersion : String) : CustomerPage :=
  let (rows, total) := CustomerRepository.findAll case scan page size search
  if apiVersion.startsWith "2" then .v2 ⟨rows.map .ofRow, page, size, total, totalPages total size⟩
  else .v1 ⟨rows.map .ofRow, page, size, total, totalPages total size⟩

end IrisService.Listings
