import IrisService.Http
import IrisService.Library.Runs

/-! `POST /customers`: `create_customer` of `customer/router.py` inside `get_db_session`, with the Redis
buffer of recent customers and the Kafka topic `customer.created`. -/

namespace IrisService.Customers
open ReadCommitted

/-- The body of `POST` and of `PUT`. -/
structure CustomerCreate where
  name : String
  email : String
  deriving DecidableEq

/-- A customer as it is answered, and as the buffer has it. -/
structure CustomerResponse where
  id : Nat
  name : String
  email : String
  deriving DecidableEq

/-- A record of the topic. -/
structure CustomerCreatedEvent where
  id : Nat
  name : String
  email : String
  deriving DecidableEq

/-- How a request to a server ends: it takes effect, it is refused, or it takes effect and the reply is lost. -/
inductive Outcome where
  | ok
  | refused
  | lost
  deriving DecidableEq

/-- What the client is answered. -/
inductive Answer where
  | created (dto : CustomerResponse)
  | http (exc : HTTPException)
  /-- An exception that no handler catches, by its class. -/
  | raised (exc : String)
  deriving DecidableEq

/-- The `await` that `create_customer`, or the end of its session, has come to. -/
inductive Create where
  /-- `flush` of the new row -/
  | start
  /-- `LPUSH` -/
  | flushed (dto : CustomerResponse)
  /-- `LTRIM` -/
  | pushed (dto : CustomerResponse)
  /-- `send_and_wait` -/
  | buffered (dto : CustomerResponse)
  /-- the response, and `session.commit` after it -/
  | published (dto : CustomerResponse)
  | done (a : Answer)

/-- A request, with the point it has come to. -/
structure Session where
  body : CustomerCreate
  at_ : Create

/-- The database with the requests on it, the entries of the buffer (newest first), the records of the topic. -/
structure World where
  db : Db Row Session
  recent : List CustomerResponse
  created : List CustomerCreatedEvent

/-- What a step reads besides the stores; `producer` says whether `kafka_client._producer` is set. -/
structure Env where
  now : DateTime
  outcome : Outcome
  producer : Bool

/-- What happens next. -/
inductive Event where
  | step (i : Nat) (env : Env)
  /-- The request is cancelled, or its process dies, before it is answered: its session is rolled back. -/
  | abandon (i : Nat)

/-- The length that the buffer is trimmed to. -/
def maxSize : Nat := 10

/-- The row of a new customer. -/
def newCustomer (body : CustomerCreate) (now : DateTime) : Customer := ⟨body.name, body.email, now⟩

/-- A row that the transaction sees has the email (`customer.email` is UNIQUE). -/
def emailTaken (v : View Row) (email : String) : Bool := (select v .customer).any fun c => c.2.email = email

/-- Another transaction has the email on a row it has not committed; an INSERT waits for it. -/
def emailHeld (d : Db Row Session) (i : Nat) (email : String) : Bool :=
  (List.range (d.seq .customer)).any fun id =>
    match d.lock .customer id with
    | none => false
    | some j => j ≠ i && ((d.client j).writes .customer id).any fun row => row.any fun c => c.email = email

/-- `CustomerRepository.create` -/
def insertCustomer (d : Db Row Session) (i : Nat) (body : CustomerCreate) (env : Env) : Db Row Session :=
  if env.outcome ≠ .ok then d.perform i (.rollback ⟨body, .done (.raised "DBAPIError")⟩)
  else if emailTaken (d.view i) body.email then
    d.perform i (.rollback ⟨body, .done (.http ⟨409, .text s!"Email already exists: {body.email}"⟩)⟩)
  else if emailHeld d i body.email then d
  else
    d.perform i (.insert .customer (fun _ => newCustomer body env.now) fun id =>
      ⟨body, .flushed ⟨id, body.name, body.email⟩⟩)

/-- An event of the three stores. -/
def step (w : World) : Event → World
  | .abandon i =>
    let session := (w.db.client i).state
    match session.at_ with
    | .done _ => w
    | _ => { w with db := w.db.perform i (.rollback ⟨session.body, .done (.raised "CancelledError")⟩) }
  | .step i env =>
    let session := (w.db.client i).state
    match session.at_ with
    | .start => { w with db := insertCustomer w.db i session.body env }
    | .flushed dto =>
      match env.outcome with
      | .ok => { w with db := w.db.perform i (.next ⟨session.body, .pushed dto⟩), recent := dto :: w.recent }
      | .refused => { w with db := w.db.perform i (.next ⟨session.body, .buffered dto⟩) }
      | .lost => { w with db := w.db.perform i (.next ⟨session.body, .buffered dto⟩), recent := dto :: w.recent }
    | .pushed dto =>
      let recent := if env.outcome = .refused then w.recent else w.recent.take maxSize
      { w with db := w.db.perform i (.next ⟨session.body, .buffered dto⟩), recent := recent }
    | .buffered dto =>
      -- `publish_customer_created` catches every error, and does nothing without a producer.
      let sent := env.producer && env.outcome ≠ .refused
      let created := if sent then w.created ++ [⟨dto.id, dto.name, dto.email⟩] else w.created
      { w with db := w.db.perform i (.next ⟨session.body, .published dto⟩), created := created }
    | .published dto =>
      -- The client has its 201 whatever becomes of the commit, also when the process dies in it.
      if env.outcome = .refused then { w with db := w.db.perform i (.rollback ⟨session.body, .done (.created dto)⟩) }
      else { w with db := w.db.perform i (.commit ⟨session.body, .done (.created dto)⟩) }
    | .done _ => w

/-! ### What is announced -/

/-- Every entry of the buffer and every record of the topic is about a committed customer. -/
structure Announced (rows : Rows Row) (recent : List CustomerResponse) (created : List CustomerCreatedEvent) : Prop where
  recent : ∀ entry ∈ recent, rows .customer entry.id ≠ none
  created : ∀ record ∈ created, rows .customer record.id ≠ none

/-- The three stores at rest. -/
structure Stores where
  rows : Rows Row
  seq : Table → Nat
  recent : List CustomerResponse
  created : List CustomerCreatedEvent
  fresh : ∀ t id, seq t ≤ id → rows t id = none
  announced : Announced rows recent created

/-- The stores with one client for each body, none of them started. -/
def Stores.serve (stores : Stores) (bodies : Nat → CustomerCreate) : World where
  db := Db.start stores.rows stores.seq fun i => ⟨bodies i, .start⟩
  recent := stores.recent
  created := stores.created

/-- The announcements of the world are about committed customers. -/
def World.Announced (w : World) : Prop := Customers.Announced w.db.committed w.recent w.created

/-- The step neither pushes an entry nor appends a record. -/
def Silent (w : World) : Event → Prop
  | .abandon _ => True
  | .step i env => match (w.db.client i).state.at_ with
    | .flushed _ => env.outcome = .refused
    | .buffered _ => env.producer = false ∨ env.outcome = .refused
    | _ => True

end IrisService.Customers
