import IrisService.Messaging.Enrichment

/-! The round trip as a machine on one event loop: any number of calls of `request_reply`, the two consumer
loops, and a broker that may deliver what a producer was given at any time, any number of times or never. -/

namespace IrisService.Messaging

/-- A call of `request_reply`, between two points where another task may run. -/
inductive RequestReply where
  | start
  /-- In `send_and_wait`. -/
  | sending
  /-- In `wait_for`. -/
  | waiting
  /-- An exception is about to be thrown into it. -/
  | interrupted (e : PyError)
  | done (outcome : Except PyError CustomerEnrichReply)

/-- The call has registered and has neither returned nor raised. -/
def RequestReply.inFlight : RequestReply → Bool
  | .sending | .waiting | .interrupted _ => true
  | _ => false

/-- The reply loop. -/
inductive Loop where
  /-- In `async for`. -/
  | receiving
  /-- In the `send_and_wait` of `handle_request`. -/
  | sending
  | ended
  deriving DecidableEq, Repr

/-- `except Exception` keeps the loop going. -/
def Loop.raised (e : PyError) : Loop := if e.isException then .receiving else .ended

/-- `requests` and `replies` are the records that the producer was given for each topic. -/
structure World where
  calls : Nat → RequestReply
  futures : Nat → Future
  pending : Dict String Nat
  requests : List Record
  replies : List Record
  requestLoop : Loop
  replyLoop : Loop

/-- What happens on the loop of `asyncio`. -/
inductive Event where
  | call (i : Nat)
  /-- The send of call `i` is acknowledged. -/
  | sent (i : Nat)
  | sendFails (i : Nat) (e : PyError)
  /-- `wait_for` times out. -/
  | timeout (i : Nat)
  /-- The task of call `i` is cancelled. -/
  | cancel (i : Nat)
  /-- The task of call `i` runs again. -/
  | resume (i : Nat)
  /-- The request consumer receives a record. -/
  | request (msg : Record)
  /-- The send of `handle_request` is acknowledged. -/
  | replySent
  | replySendFails
  /-- The reply consumer receives a record. -/
  | reply (msg : Record)

namespace EnrichmentService
variable (service : EnrichmentService)

/-- `finally`, and the end of the call. -/
def leave (w : World) (i : Nat) (outcome : Except PyError CustomerEnrichReply) : World :=
  { w with calls := Function.update w.calls i (.done outcome), pending := w.pending.pop (service.uuid4 i) }

/-- The call is interrupted, and what it awaits is cancelled. -/
def interrupt (w : World) (i : Nat) (e : PyError) : World :=
  match w.calls i with
  | .sending => { w with calls := Function.update w.calls i (.interrupted e) }
  | .waiting =>
    { w with calls := Function.update w.calls i (.interrupted e)
             futures := Function.update w.futures i (w.futures i).cancel }
  | _ => w

/-- One event, up to the next `await`. -/
def step (w : World) : Event → World
  | .call i =>
    match w.calls i with
    | .start =>
      { w with calls := Function.update w.calls i .sending
               futures := Function.update w.futures i .pending
               pending := w.pending.set (service.uuid4 i) i
               requests := w.requests ++ [service.requestRecord i] }
    | _ => w
  | .sent i =>
    match w.calls i with
    | .sending =>
      match (w.futures i).outcome with
      | some outcome => service.leave w i outcome
      | none => { w with calls := Function.update w.calls i .waiting }
    | _ => w
  | .sendFails i e =>
    match w.calls i with
    | .sending => service.leave w i (.error e)
    | _ => w
  | .timeout i =>
    match w.calls i with
    | .waiting => interrupt w i .timeoutError
    | _ => w
  | .cancel i => interrupt w i .cancelledError
  | .resume i =>
    match w.calls i with
    | .waiting =>
      match (w.futures i).outcome with
      | some outcome => service.leave w i outcome
      | none => w
    | .interrupted e => service.leave w i (.error e)
    | _ => w
  | .request msg =>
    match w.requestLoop with
    | .receiving =>
      match service.consumeRequest msg with
      | .ok none => w
      | .ok (some record) => { w with replies := w.replies ++ [record], requestLoop := .sending }
      | .error e => { w with requestLoop := .raised e }
    | _ => w
  | .replySent =>
    match w.requestLoop with
    | .sending => { w with requestLoop := .receiving }
    | _ => w
  | .replySendFails =>
    match w.requestLoop with
    | .sending => { w with requestLoop := .raised .kafkaError }
    | _ => w
  | .reply msg =>
    match w.replyLoop with
    | .receiving =>
      match service.consumeReply w.pending w.futures msg with
      | .ok futures => { w with futures := futures }
      | .error e => { w with replyLoop := .raised e }
    | _ => w

/-- The service when its consumer loops have just started. -/
def start : World where
  calls _ := .start
  futures _ := .pending
  pending := []
  requests := []
  replies := []
  requestLoop := .receiving
  replyLoop := .receiving

/-- The record has no correlation id, or not one of a call of this service. -/
def Foreign (msg : Record) : Prop := ∀ i, header msg.headers "correlation-id" ≠ .ok (some (service.uuid4 i))

/-- What the broker may deliver: a record of the topic, a malformed one, or one of somebody else. -/
def Possible (w : World) : Event → Prop
  | .request msg => msg ∈ w.requests ∨ service.validateRequest msg.value = none ∨ service.Foreign msg
  | .reply msg => msg ∈ w.replies ∨ service.validateReply msg.value = none ∨ service.Foreign msg
  | _ => True

/-- Each call that returned got the enrichment of its own request, `_pending` holds the calls in flight, and
    no record makes `deliver_reply` raise or has ended a consumer loop. -/
structure Sound (w : World) : Prop where
  ownReply : ∀ i reply, w.calls i = .done (.ok reply) → reply = computeEnrichment (service.request i)
  pendingKeys : ∀ correlationId, correlationId ∈ w.pending.keys ↔
    ∃ i, (w.calls i).inFlight = true ∧ service.uuid4 i = correlationId
  oneEach : w.pending.keys.Nodup
  noneLeft : (∀ i, (w.calls i).inFlight = false) → w.pending = []
  delivers : ∀ correlationId reply e, deliverReply w.pending w.futures correlationId reply ≠ .error e
  requestLoopRuns : w.requestLoop ≠ .ended
  replyLoopRuns : w.replyLoop ≠ .ended

end EnrichmentService

end IrisService.Messaging
