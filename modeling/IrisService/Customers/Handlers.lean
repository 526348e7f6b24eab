import IrisService.Customers.Create
import IrisService.Orders.OrderHandlers

/-! `customer/router.py`: the handlers that write `customer`, as far as the database goes. -/

namespace IrisService.Customers
open ReadCommitted Orders

/-- What a call of these handlers is answered. -/
inductive CustomerReply where
  | customer (statusCode : Nat) (dto : CustomerResponse)
  | noContent
  | http (exc : HTTPException)
  /-- An exception that no handler catches, by its class. -/
  | raised (exc : String)
  deriving DecidableEq

/-- The text of `NoResultFound` from `find_by_id_or_raise`. -/
def customerNotFound (id : Nat) : CustomerReply := .http ⟨404, .text s!"Customer not found: id={id}"⟩

/-- The 409 for an email that another customer has. -/
def emailExists (email : String) : HTTPException := ⟨409, .text s!"Email already exists: {email}"⟩

/-! ### create_customer -/

/-- What `create_customer` and the end of its session do to the database while Redis and Kafka answer: the steps of
    `Customers.step` on the rows alone. -/
def createCustomer (body : CustomerCreate) (now : DateTime) : Create → View Row → Action Row Create
  | .start, v =>
    if emailTaken v body.email then .rollback (.done (.http (emailExists body.email)))
    else .insert .customer (fun _ => newCustomer body now) fun id => .flushed ⟨id, body.name, body.email⟩
  | .flushed dto, _ => .next (.pushed dto)
  | .pushed dto, _ => .next (.buffered dto)
  | .buffered dto, _ => .next (.published dto)
  | .published dto, _ => .commit (.done (.created dto))
  | .done a, _ => .next (.done a)

/-! ### update_customer and patch_customer -/

/-- Another customer than `id` already has the email. -/
def emailOfOther (v : View Row) (email : String) (id : Nat) : Bool :=
  (select v .customer).any fun c => c.2.email = email && c.1 ≠ id

/-- The `flush` of a changed customer sets only the attributes that differ from the loaded ones. -/
def flushCustomer {S : Type} (v : View Row) (id : Nat) (loaded : Customer) (name email : String) (flushed : S)
    (conflict stale : S) : Action Row S :=
  if name = loaded.name && email = loaded.email then .next flushed
  else if email ≠ loaded.email && emailOfOther v email id then .rollback conflict
  else
    update v .customer id
      (fun row =>
        { row with
          name := if name = loaded.name then row.name else name
          email := if email = loaded.email then row.email else email })
      flushed stale

/-- The point that an `update_customer` or `patch_customer` has come to. -/
inductive UpdateCustomer where
  | start
  | loaded (customer : Customer)
  | flushed (dto : CustomerResponse)
  | done (r : CustomerReply)

/-- `update_customer` -/
def updateCustomer (id : Nat) (body : CustomerCreate) : UpdateCustomer → View Row → Action Row UpdateCustomer
  | .start, v =>
    match v.rows .customer id with
    | none => .rollback (.done (customerNotFound id))
    | some customer => .next (.loaded customer)
  | .loaded customer, v =>
    flushCustomer v id customer body.name body.email (.flushed ⟨id, body.name, body.email⟩)
      (.done (.http (emailExists body.email))) (.done (.raised "StaleDataError"))
  | .flushed dto, _ => .commit (.done (.customer 200 dto))
  | .done r, _ => .next (.done r)

/-- The body of `PATCH`. -/
structure CustomerPatch where
  name : Option String
  email : Option String
  deriving DecidableEq

/-- `patch_customer`: a field that is `None` stays as it is. -/
def patchCustomer (id : Nat) (body : CustomerPatch) : UpdateCustomer → View Row → Action Row UpdateCustomer
  | .start, v =>
    match v.rows .customer id with
    | none => .rollback (.done (customerNotFound id))
    | some customer => .next (.loaded customer)
  | .loaded customer, v =>
    let name := body.name.getD customer.name
    let email := body.email.getD customer.email
    flushCustomer v id customer name email (.flushed ⟨id, name, email⟩)
      (.done (.http (emailExists (body.email.getD "None")))) (.done (.raised "StaleDataError"))
  | .flushed dto, _ => .commit (.done (.customer 200 dto))
  | .done r, _ => .next (.done r)

/-! ### delete_customer -/

/-- The point that a `delete_customer` has come to. -/
inductive DeleteCustomer where
  | start
  | loaded
  | flushed
  | done (r : CustomerReply)

/-- `delete_customer`: its orders refuse it by their foreign key. -/
def deleteCustomer (id : Nat) : DeleteCustomer → View Row → Action Row DeleteCustomer
  | .start, v =>
    match v.rows .customer id with
    | none => .rollback (.done (customerNotFound id))
    | some _ => .next .loaded
  | .loaded, v =>
    -- `fk_orders_customer` restricts.
    if (select v .orders).any fun o => o.2.customerId = id then .rollback (.done (.raised "IntegrityError"))
    else
      match v.rows .customer id with
      | some _ => .write [⟨.customer, id, none⟩] .flushed
      | none => .next .flushed
  | .flushed, _ => .commit (.done .noContent)
  | .done r, _ => .next (.done r)

end IrisService.Customers
