import IrisService.Orders.OrderHandlers

/-! `product/router.py`: the handlers that write products. -/

namespace IrisService.Products
open ReadCommitted Orders

/-- The body of `POST` and `PUT`; the price in cents. -/
structure ProductCreate where
  name : String
  description : Option String
  unitPrice : Nat
  stockQuantity : Nat
  deriving DecidableEq, Repr

/-- Another product than `id` already has the name (`product.name` is UNIQUE). -/
def nameTaken (v : View Row) (name : String) (id : Nat) : Bool :=
  (select v .product).any fun p => p.2.name = name && p.1 ≠ id

/-! ### create_product -/

/-- The point that a `create_product` has come to. -/
inductive CreateProduct where
  | start
  | checked
  | flushed (id : Nat)
  | refreshed (id : Nat) (product : Product)
  | done (r : Reply)

/-- The row of a new product; the defaults of `created_at` and `updated_at` each read the clock. -/
def newProduct (payload : ProductCreate) (clock : Clock) : Product where
  name := payload.name
  description := payload.description
  unitPrice := payload.unitPrice
  stockQuantity := payload.stockQuantity
  createdAt := clock.now
  updatedAt := clock.next

/-- `create_product`; `flush` and `refresh` are steps of their own, and the commit follows the answer. -/
def createProduct (payload : ProductCreate) (clock : Clock) : CreateProduct → View Row → Action Row CreateProduct
  | .start, v =>
    -- `find_by_name`
    if (select v .product).any fun p => p.2.name = payload.name then
      .rollback (.done (.http ⟨409, .productName payload.name⟩))
    else .next .checked
  | .checked, v =>
    if !fitsInteger payload.stockQuantity || !fitsNumeric payload.unitPrice then .rollback (.done (.raised "DBAPIError"))
    else if nameTaken v payload.name (v.seq .product) then
      .rollback (.done (.http ⟨409, .text "Product name conflict (concurrent create)"⟩))
    else .insert .product (fun _ => newProduct payload clock) .flushed
  | .flushed id, v =>
    match v.rows .product id with
    | some product => .next (.refreshed id product)
    | none => .rollback (.done notRefreshed)
  | .refreshed id product, _ => .commit (.done (.product 201 id product))
  | .done r, _ => .next (.done r)

/-! ### update_product -/

/-- The point that an `update_product` has come to. -/
inductive UpdateProduct where
  | start
  | loaded (product : Product)
  | flushed
  | refreshed (product : Product)
  | done (r : Reply)

/-- The payload changes no attribute of the loaded product. -/
def unchanged (payload : ProductCreate) (product : Product) : Bool :=
  payload.name = product.name && payload.description = product.description &&
    payload.unitPrice = product.unitPrice && payload.stockQuantity = product.stockQuantity

/-- The UPDATE sets only the attributes that differ from the loaded ones. -/
def setChanged (payload : ProductCreate) (loaded : Product) (now : DateTime) (row : Product) : Product where
  name := if payload.name = loaded.name then row.name else payload.name
  description := if payload.description = loaded.description then row.description else payload.description
  unitPrice := if payload.unitPrice = loaded.unitPrice then row.unitPrice else payload.unitPrice
  stockQuantity := if payload.stockQuantity = loaded.stockQuantity then row.stockQuantity else payload.stockQuantity
  createdAt := row.createdAt
  updatedAt := now

/-- `update_product`: a row that the body does not change is not written. -/
def updateProduct (productId : Nat) (payload : ProductCreate) (now : DateTime) :
    UpdateProduct → View Row → Action Row UpdateProduct
  | .start, v =>
    match v.rows .product productId with
    | none => .rollback (.done (notFound "Product"))
    | some product => .next (.loaded product)
  | .loaded product, v =>
    if unchanged payload product then .next .flushed
    else if !fitsInteger payload.stockQuantity || !fitsNumeric payload.unitPrice then
      .rollback (.done (.raised "DBAPIError"))
    else if payload.name ≠ product.name && nameTaken v payload.name productId then
      .rollback (.done (.raised "IntegrityError"))
    else update v .product productId (setChanged payload product now) .flushed (.done staleData)
  | .flushed, v =>
    match v.rows .product productId with
    | some product => .next (.refreshed product)
    | none => .rollback (.done notRefreshed)
  | .refreshed product, _ => .commit (.done (.product 200 productId product))
  | .done r, _ => .next (.done r)

/-! ### delete_product -/

/-- The point that a `delete_product` has come to. -/
inductive DeleteProduct where
  | start
  | loaded
  | flushed
  | done (r : Reply)

/-- `delete_product`: the order lines that name it refuse it by their foreign key. -/
def deleteProduct (productId : Nat) : DeleteProduct → View Row → Action Row DeleteProduct
  | .start, v =>
    match v.rows .product productId with
    | none => .rollback (.done (notFound "Product"))
    | some _ => .next .loaded
  | .loaded, v =>
    -- `fk_order_line_product` restricts.
    if (select v .orderLine).any fun l => l.2.productId = productId then .rollback (.done (.raised "IntegrityError"))
    else
      match v.rows .product productId with
      | some _ => .write [⟨.product, productId, none⟩] .flushed
      | none => .next .flushed
  | .flushed, _ => .commit (.done .noContent)
  | .done r, _ => .next (.done r)

end IrisService.Products
