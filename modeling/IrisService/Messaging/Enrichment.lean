import IrisService.Python.Dict
import IrisService.Python.JsonText

/-! `messaging/dtos.py` and `messaging/enrichment.py`, and the bodies of the two consumer loops of
`messaging/kafka_client.py`. -/

namespace IrisService.Messaging

/-- What the code of this package may raise. -/
inductive PyError where
  | validationError
  | attributeError
  | unicodeDecodeError
  | invalidStateError
  | kafkaError
  | timeoutError
  | cancelledError
  deriving DecidableEq, Repr

/-- `except Exception` catches it. -/
def PyError.isException : PyError → Bool
  | .cancelledError => false
  | _ => true

/-- The record of a request. -/
structure CustomerEnrichRequest where
  id : Int
  name : String
  email : String
  deriving DecidableEq, Repr

/-- The record of a reply. -/
structure CustomerEnrichReply where
  id : Int
  name : String
  email : String
  displayName : String
  deriving DecidableEq, Repr

/-- `compute_enrichment` -/
def computeEnrichment (request : CustomerEnrichRequest) : CustomerEnrichReply where
  id := request.id
  name := request.name
  email := request.email
  displayName := request.name ++ " <" ++ request.email ++ ">"

/-- pydantic's JSON of the two DTOs; `none` is a `ValidationError`. A record may have no value. -/
structure Dtos where
  dumpRequest : CustomerEnrichRequest → ByteArray
  dumpReply : CustomerEnrichReply → ByteArray
  validateRequest : Option ByteArray → Option CustomerEnrichRequest
  validateReply : Option ByteArray → Option CustomerEnrichReply
  request_survives : ∀ request, validateRequest (some (dumpRequest request)) = some request
  reply_survives : ∀ reply, validateReply (some (dumpReply reply)) = some reply

theorem fromUTF8_toUTF8 (s : String) : String.fromUTF8? s.toUTF8 = some s := dif_pos s.isValidUTF8

namespace CustomerEnrichRequest

/-- The fields of a request, in order. -/
def fields (request : CustomerEnrichRequest) : List (String × JsonText.Value) :=
  [("id", .num request.id), ("name", .str request.name), ("email", .str request.email)]

/-- A request read from its fields. -/
def ofFields (fields : List (String × JsonText.Value)) : Option CustomerEnrichRequest :=
  match fields.lookup "id", fields.lookup "name", fields.lookup "email" with
  | some (.num id), some (.str name), some (.str email) => some ⟨id, name, email⟩
  | _, _, _ => none

end CustomerEnrichRequest

namespace CustomerEnrichReply

/-- By alias. -/
def fields (reply : CustomerEnrichReply) : List (String × JsonText.Value) :=
  [("id", .num reply.id), ("name", .str reply.name), ("email", .str reply.email), ("displayName", .str reply.displayName)]

/-- A reply read from its fields. -/
def ofFields (fields : List (String × JsonText.Value)) : Option CustomerEnrichReply :=
  match fields.lookup "id", fields.lookup "name", fields.lookup "email", fields.lookup "displayName" with
  | some (.num id), some (.str name), some (.str email), some (.str displayName) => some ⟨id, name, email, displayName⟩
  | _, _, _, _ => none

end CustomerEnrichReply

/-- The DTOs in the compact JSON that `model_dump_json` writes. -/
def Dtos.compact : Dtos where
  dumpRequest request := (JsonText.write request.fields).toUTF8
  dumpReply reply := (JsonText.write reply.fields).toUTF8
  validateRequest value := ((value.bind String.fromUTF8?).bind JsonText.read).bind CustomerEnrichRequest.ofFields
  validateReply value := ((value.bind String.fromUTF8?).bind JsonText.read).bind CustomerEnrichReply.ofFields
  request_survives request := by
    rw [Option.bind_some, fromUTF8_toUTF8, Option.bind_some, JsonText.read_write]
    rfl
  reply_survives reply := by
    rw [Option.bind_some, fromUTF8_toUTF8, Option.bind_some, JsonText.read_write]
    rfl

/-- A record of a topic. -/
structure Record where
  key : Option ByteArray
  value : Option ByteArray
  headers : List (String × Option ByteArray)

/-- `v.decode()` -/
def decode : Option ByteArray → Except PyError String
  | none => .error .attributeError
  | some bytes =>
    match String.fromUTF8? bytes with
    | some s => .ok s
    | none => .error .unicodeDecodeError

theorem decode_toUTF8 (s : String) : decode (some s.toUTF8) = .ok s := by
  simp only [decode, fromUTF8_toUTF8]

/-- `_header` -/
def header : List (String × Option ByteArray) → String → Except PyError (Option String)
  | [], _ => .ok none
  | (k, v) :: headers, key => if k = key then some <$> decode v else header headers key

/-- One service: its reply topic, the `uuid4` of each call of `request_reply` and the request it is given. -/
structure EnrichmentService extends Dtos where
  replyTopic : String
  uuid4 : Nat → String
  request : Nat → CustomerEnrichRequest
  uuid4_injective : Function.Injective uuid4

namespace EnrichmentService
variable (service : EnrichmentService)

/-- What call `i` sends to the request topic. -/
def requestRecord (i : Nat) : Record where
  key := some (toString (service.request i).id).toUTF8
  value := some (service.dumpRequest (service.request i))
  headers := [("correlation-id", some (service.uuid4 i).toUTF8), ("reply-topic", some service.replyTopic.toUTF8)]

/-- What `handle_request` sends to the reply topic. -/
def replyRecord (request : CustomerEnrichRequest) (correlationId : String) : Record where
  key := some (toString (computeEnrichment request).id).toUTF8
  value := some (service.dumpReply (computeEnrichment request))
  headers := [("correlation-id", some correlationId.toUTF8)]

end EnrichmentService

/-- asyncio's `Future`, as a call waits for it. -/
inductive Future where
  | pending
  | result (reply : CustomerEnrichReply)
  | cancelled
  deriving DecidableEq, Repr

namespace Future

/-- `future.done()` -/
def done : Future → Bool
  | .pending => false
  | _ => true

/-- `future.set_result(reply)` -/
def setResult (reply : CustomerEnrichReply) : Future → Except PyError Future
  | .pending => .ok (.result reply)
  | _ => .error .invalidStateError

/-- `future.cancel()` -/
def cancel : Future → Future
  | .pending => .cancelled
  | f => f

/-- What `await` gives at once. -/
def outcome : Future → Option (Except PyError CustomerEnrichReply)
  | .pending => none
  | .result reply => some (.ok reply)
  | .cancelled => some (.error .cancelledError)

end Future

/-- `deliver_reply`, on the futures by the call that made them. -/
def deliverReply (pending : Dict String Nat) (futures : Nat → Future) (correlationId : String)
    (reply : CustomerEnrichReply) :
    Except PyError (Nat → Future) :=
  match pending.get correlationId with
  | none => .ok futures
  | some i => if (futures i).done then .ok futures else Function.update futures i <$> (futures i).setResult reply

namespace EnrichmentService
variable (service : EnrichmentService)

/-- `_consume_requests` for one record, up to the send of `handle_request`; `none` skips the record. -/
def consumeRequest (msg : Record) : Except PyError (Option Record) :=
  match service.validateRequest msg.value with
  | none => .error .validationError
  | some request =>
    match header msg.headers "correlation-id" with
    | .error e => .error e
    | .ok none => .ok none
    | .ok (some correlationId) => .ok (some (service.replyRecord request correlationId))

/-- `_consume_replies` for one record. -/
def consumeReply (pending : Dict String Nat) (futures : Nat → Future) (msg : Record) : Except PyError (Nat → Future) :=
  match service.validateReply msg.value with
  | none => .error .validationError
  | some reply =>
    match header msg.headers "correlation-id" with
    | .error e => .error e
    | .ok none => .ok futures
    | .ok (some correlationId) => deliverReply pending futures correlationId reply

end EnrichmentService

/-! ### Spec lemmas -/

section Spec
variable {service : EnrichmentService}

theorem header_requestRecord (i : Nat) :
    header (service.requestRecord i).headers "correlation-id" = .ok (some (service.uuid4 i)) := by
  rw [EnrichmentService.requestRecord, header, if_pos rfl, decode_toUTF8]
  rfl

theorem header_replyRecord (request : CustomerEnrichRequest) (correlationId : String) :
    header (service.replyRecord request correlationId).headers "correlation-id" = .ok (some correlationId) := by
  rw [EnrichmentService.replyRecord, header, if_pos rfl, decode_toUTF8]
  rfl

theorem decode_isException {v : Option ByteArray} {e : PyError} (h : decode v = .error e) : e.isException = true := by
  unfold decode at h
  split at h
  · cases h
    rfl
  · split at h
    · cases h
    · cases h
      rfl

theorem header_isException {headers : List (String × Option ByteArray)} {key : String} {e : PyError}
    (h : header headers key = .error e) : e.isException = true := by
  induction headers with
  | nil => cases h
  | cons kv headers ih =>
    simp only [header] at h
    split at h
    · cases hv : decode kv.2 with
      | error e' =>
        rw [hv] at h
        cases h
        exact decode_isException hv
      | ok s =>
        rw [hv] at h
        cases h
    · exact ih h

/-- The record of a call is answered under its correlation id. -/
theorem consumeRequest_requestRecord (i : Nat) : service.consumeRequest (service.requestRecord i) =
    .ok (some (service.replyRecord (service.request i) (service.uuid4 i))) := by
  have hv : service.validateRequest (service.requestRecord i).value = some (service.request i) := service.request_survives _
  simp only [EnrichmentService.consumeRequest, hv, header_requestRecord]

theorem consumeReply_replyRecord (pending : Dict String Nat) (futures : Nat → Future) (request : CustomerEnrichRequest)
    (correlationId : String) : service.consumeReply pending futures (service.replyRecord request correlationId) =
      deliverReply pending futures correlationId (computeEnrichment request) := by
  have hv : service.validateReply (service.replyRecord request correlationId).value = some (computeEnrichment request) :=
    service.reply_survives _
  simp only [EnrichmentService.consumeReply, hv, header_replyRecord]

/-- `deliver_reply` raises nothing, and completes at most the pending future it finds. -/
theorem deliverReply_ok (pending : Dict String Nat) (futures : Nat → Future) (correlationId : String)
    (reply : CustomerEnrichReply) :
    ∃ futures', deliverReply pending futures correlationId reply = .ok futures' ∧
      (futures' = futures ∨ ∃ i, pending.get correlationId = some i ∧ futures i = .pending ∧
        futures' = Function.update futures i (.result reply)) := by
  unfold deliverReply
  split
  · exact ⟨futures, rfl, Or.inl rfl⟩
  · rename_i i hget
    cases hf : futures i with
    | pending => exact ⟨_, rfl, Or.inr ⟨i, hget, hf, rfl⟩⟩
    | result r => exact ⟨futures, rfl, Or.inl rfl⟩
    | cancelled => exact ⟨futures, rfl, Or.inl rfl⟩

/-- What the request consumer does with a record. -/
theorem consumeRequest_cases (service : EnrichmentService) (msg : Record) :
    (∃ e, service.consumeRequest msg = .error e ∧ e.isException = true) ∨ service.consumeRequest msg = .ok none ∨
      ∃ request correlationId, service.validateRequest msg.value = some request ∧
        header msg.headers "correlation-id" = .ok (some correlationId) ∧
          service.consumeRequest msg = .ok (some (service.replyRecord request correlationId)) := by
  unfold EnrichmentService.consumeRequest
  cases hv : service.validateRequest msg.value with
  | none => exact Or.inl ⟨_, rfl, rfl⟩
  | some request =>
    cases hh : header msg.headers "correlation-id" with
    | error e => exact Or.inl ⟨e, rfl, header_isException hh⟩
    | ok correlationId =>
      cases correlationId with
      | none => exact Or.inr (Or.inl rfl)
      | some correlationId => exact Or.inr (Or.inr ⟨request, correlationId, rfl, rfl, rfl⟩)

/-- What the reply consumer does with a record. -/
theorem consumeReply_cases (service : EnrichmentService) (pending : Dict String Nat) (futures : Nat → Future)
    (msg : Record) :
    (∃ e, service.consumeReply pending futures msg = .error e ∧ e.isException = true) ∨
      service.consumeReply pending futures msg = .ok futures ∨
        ∃ reply correlationId i, service.validateReply msg.value = some reply ∧
          header msg.headers "correlation-id" = .ok (some correlationId) ∧ pending.get correlationId = some i ∧
            futures i = .pending ∧
              service.consumeReply pending futures msg = .ok (Function.update futures i (.result reply)) := by
  unfold EnrichmentService.consumeReply
  cases hv : service.validateReply msg.value with
  | none => exact Or.inl ⟨_, rfl, rfl⟩
  | some reply =>
    cases hh : header msg.headers "correlation-id" with
    | error e => exact Or.inl ⟨e, rfl, header_isException hh⟩
    | ok correlationId =>
      cases correlationId with
      | none => exact Or.inr (Or.inl rfl)
      | some correlationId =>
        obtain ⟨futures', hdeliver, rfl | ⟨i, hget, hpending, rfl⟩⟩ :=
          deliverReply_ok pending futures correlationId reply
        · exact Or.inr (Or.inl hdeliver)
        · exact Or.inr (Or.inr ⟨reply, correlationId, i, rfl, rfl, hget, hpending, hdeliver⟩)

end Spec

end IrisService.Messaging
