import IrisService.Library.Runs
import IrisService.Orders.OrderHandlers
import IrisService.Python.Dict

/-! `create_order_cached` of `mcp/tools.py`: any number of calls in one process, on the store and on the
cache of idempotency keys. Between two `await`s a call is alone on the event loop. -/

namespace IrisService.Mcp
open ReadCommitted Orders

/-- The arguments of a call. -/
structure Call where
  customerId : Nat
  idempotencyKey : Option String

/-- A call, with the point it has come to. -/
structure Session where
  call : Call
  at_ : McpCreateOrder

/-- The identity of an order with its row as the call read it. -/
abbrev OrderRef := Nat × Order

/-- `_IDEMPOTENCY_MAX` -/
def idempotencyMax : Nat := 1024

/-- `orders` lists the order rows committed so far with the keys of their calls; no code reads it. -/
structure World where
  db : Db Row Session
  cache : Dict String OrderRef
  orders : List (Option String × Nat)

/-- What can happen to a call. -/
inductive Event where
  | step (i : Nat) (clock : Clock)
  /-- A statement of the call fails, or the call is cancelled. -/
  | fail (i : Nat)
  /-- The commit of the call takes effect, and its reply is lost. -/
  | lost (i : Nat)

/-- `_evict_oldest_if_full` -/
def evictOldestIfFull (cache : Dict String OrderRef) : Dict String OrderRef :=
  if idempotencyMax < cache.length then cache.tail else cache

/-- The cached order under the key of the call. -/
def World.cached (w : World) (call : Call) : Option OrderRef := call.idempotencyKey.bind w.cache.get

/-- What the call does next; a key that is cached ends it at once. -/
def World.action (w : World) (i : Nat) (clock : Clock) : Action Row Session :=
  let session := (w.db.client i).state
  (mcpCreateOrder session.call.customerId clock (w.cached session.call) session.at_ (w.db.view i)).map fun st =>
    { session with at_ := st }

/-- The cache after a step of the session. A call that returns an order evicts before anything else runs. -/
def World.cacheAfter (w : World) (session : Session) : Dict String OrderRef :=
  match session.call.idempotencyKey, session.at_ with
  | some key, .start => if (w.cache.get key).isSome then evictOldestIfFull w.cache else w.cache
  | some key, .committed id order => evictOldestIfFull (w.cache.set key (id, order))
  | _, _ => w.cache

/-- The orders handed out, with the one that the step has refreshed. -/
def World.ordersAfter (w : World) (session : Session) : List (Option String × Nat) :=
  match session.at_ with
  | .refreshed id _ => w.orders ++ [(session.call.idempotencyKey, id)]
  | _ => w.orders

/-- One event: the database, the cache and the orders handed out move together. -/
def step (w : World) : Event → World
  | .step i clock =>
    let session := (w.db.client i).state
    { db := w.db.perform i (w.action i clock), cache := w.cacheAfter session, orders := w.ordersAfter session }
  | .fail i =>
    let session := (w.db.client i).state
    match session.at_ with
    | .done _ => w
    | _ => { w with db := w.db.perform i (.rollback { session with at_ := .done (.raised "DBAPIError") }) }
  | .lost i =>
    let session := (w.db.client i).state
    match session.at_ with
    | .refreshed _ _ =>
      { db := w.db.perform i (.commit { session with at_ := .done (.raised "DBAPIError") }), cache := w.cache
        orders := w.ordersAfter session }
    | _ => w

/-- A process that has just started, on the rows of a store at rest. -/
def serve (rows : Rows Row) (seq : Table → Nat) (calls : Nat → Call) : World where
  db := Db.start rows seq fun i => ⟨calls i, .start⟩
  cache := []
  orders := []

/-! ### Idempotency -/

/-- The key of a call. -/
def World.key (w : World) (i : Nat) : Option String := (w.db.client i).state.call.idempotencyKey

/-- The point that a call has come to. -/
def World.at_ (w : World) (i : Nat) : McpCreateOrder := (w.db.client i).state.at_

/-- The order that a call has returned. -/
def orderReturned : McpCreateOrder → Option OrderRef
  | .done (.orderRef id order) => some (id, order)
  | _ => none

/-- The order that the call has returned. -/
def World.returned (w : World) (i : Nat) : Option OrderRef := orderReturned (w.at_ i)

/-- The rows committed on behalf of the key. -/
def World.ordersFor (w : World) (key : String) : List Nat :=
  (w.orders.filter fun o => o.1 = some key).map Prod.snd

/-- All calls with the key that return an order return the same one, and at most one row is committed for it. -/
structure Idempotent (key : String) (w : World) : Prop where
  sameRef : ∀ i j ref ref', w.key i = some key → w.key j = some key → w.returned i = some ref → w.returned j = some ref' →
    ref = ref'
  oneRow : (w.ordersFor key).length ≤ 1

/-- The call is between its lookup, which missed, and its write to the cache. -/
def creating : McpCreateOrder → Bool
  | .missed | .flushed _ | .refreshed _ _ | .committed _ _ => true
  | _ => false

/-- A call with the key that misses is the only one creating, a write of another key does not evict this
    one, and no call with the key is broken off once its row is committed. -/
def Settled (key : String) (w : World) : Event → Prop
  | .step i _ =>
    (w.key i = some key → w.at_ i = .start → w.cache.get key = none →
      ∀ j, j ≠ i → w.key j = some key → creating (w.at_ j) = false) ∧
    ∀ key' id order, w.key i = some key' → w.at_ i = .committed id order → key' ∉ w.cache.keys →
      idempotencyMax ≤ w.cache.length → w.cache.keys.head? ≠ some key
  | .fail i => w.key i = some key → ∀ id order, w.at_ i ≠ .committed id order
  | .lost i => w.key i ≠ some key

end IrisService.Mcp
