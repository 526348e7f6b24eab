import IrisService.Db.Schema

/-! What a REST handler or an MCP tool ends with. -/

namespace IrisService

/-- The `detail` of an `HTTPException`. -/
inductive Detail where
  | text (s : String)
  /-- `f"Product with name {payload.name!r} already exists"`. -/
  | productName (name : String)
  /-- The problem dictionary of a refused transition; only the order lines give a reason. -/
  | transition (type title detail currentStatus targetStatus : String) (reason : Option String)
  deriving DecidableEq, Repr

/-- `HTTPException` -/
structure HTTPException where
  statusCode : Nat
  detail : Detail
  deriving DecidableEq, Repr

/-- What a handler of the v1 routers answers. -/
inductive Reply where
  | order (statusCode id : Nat) (row : Order)
  | orderLines (rows : List (Nat × OrderLine))
  | orderLine (statusCode id : Nat) (row : OrderLine)
  | product (statusCode id : Nat) (row : Product)
  | noContent
  | http (exc : HTTPException)
  /-- An exception that no handler catches, by its class: a 500, or an error of the tool call. -/
  | raised (exc : String)
  | orderRef (id : Nat) (row : Order)
  | cancelResult (id : Nat) (cancelled : Bool) (previousStatus : OrderStatus)
  | toolNotFound (entity : String) (id : Nat)
  deriving DecidableEq, Repr

/-- The 404 of the handlers. -/
def notFound (what : String) : Reply := .http ⟨404, .text s!"{what} not found"⟩

end IrisService
