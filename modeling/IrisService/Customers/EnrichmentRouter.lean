import IrisService.Http
import IrisService.Integration.Upstreams
import IrisService.Messaging.RequestReplyRuns

/-! `customer/enrichment_router.py`: three GET endpoints of a customer that call out, and what they make of failures. -/

namespace IrisService.Customers.Enrichment
open Effects Program Integration Messaging

/-- What an endpoint answers. -/
inductive Answer (α : Type) where
  | ok (body : α)
  | http (exc : HTTPException)
  deriving DecidableEq, Repr

/-- `CustomerRepository.find_by_id_or_raise` -/
def findByIdOrRaise (id : Int) : Program Effect Exc Customer := do
  match ← effect (.getCustomer id) with
  | some customer => pure customer
  | none => raise ⟨.noResultFound, "Customer not found: id=" ++ toString id⟩

/-- `try: customer = await find_by_id_or_raise(db, id_)` `except NoResultFound`, and the rest of the handler. -/
def withCustomer {α : Type} (id : Int) (handler : Customer → Program Effect Exc (Answer α)) :
    Program Effect Exc (Answer α) := do
  let found ← (Except.ok <$> findByIdOrRaise id).tryCatch fun exc =>
    if exc.kind = .noResultFound then pure (.error ⟨404, .text exc.text⟩) else raise exc
  match found with
  | .ok customer => handler customer
  | .error exc => pure (.http exc)

section Rule
variable {α Q : Type} {id : Int} {handler : Customer → Program Effect Exc (Answer α)} {P : Protocol Effect Exc Q}
  {post : Except Exc (Answer α) → Q → Prop} {q : Q}

theorem wp_withCustomer (hmay : P.may q (.getCustomer id))
    (hmissing : post (.ok (.http ⟨404, .text ("Customer not found: id=" ++ toString id)⟩))
      (P.next q (.getCustomer id) (.ok none)))
    (hfailed : ∀ exc : Exc, post (if exc.kind = .noResultFound then .ok (.http ⟨404, .text exc.text⟩) else .error exc)
      (P.next q (.getCustomer id) (.error exc)))
    (hfound : ∀ customer, (handler customer).wp P post (P.next q (.getCustomer id) (.ok (some customer)))) :
    (withCustomer id handler).wp P post q := by
  rw [withCustomer, wp_bind, wp_tryCatch, wp_map, findByIdOrRaise, wp_bind, wp_effect]
  refine ⟨hmay, fun r => ?_⟩
  cases r with
  | error exc =>
    have hexc := hfailed exc
    show wp _ _ (if exc.kind = .noResultFound then _ else _) _
    by_cases hkind : exc.kind = .noResultFound
    · rw [if_pos hkind] at hexc ⊢
      exact hexc
    · rw [if_neg hkind] at hexc ⊢
      exact hexc
  | ok found =>
    cases found with
    | none => exact hmissing
    | some customer => exact hfound customer

end Rule

/-- `get_customer_todos` -/
def getCustomerTodos (deps : Deps) (todos : TodoService) (id : Int) : Program Effect Exc (Answer (List Todo)) :=
  withCustomer id fun _ => .ok <$> todos.getTodos deps id

/-- `get_customer_bio` -/
def getCustomerBio (deps : Deps) (bio : BioService) (id : Int) : Program Effect Exc (Answer String) :=
  withCustomer id fun customer => .ok <$> bio.generateBio deps customer.name customer.email

/-- `EnrichedCustomerResponse`: the reply, checked again. -/
structure EnrichedCustomerResponse where
  id : Int
  name : String
  email : String
  displayName : String
  deriving DecidableEq, Repr

/-- `emailStr` is pydantic's check of an address, which may normalise it. -/
def enrichCustomer (emailStr : String → Except Exc String) (timeoutSeconds : Nat) (id : Int) :
    Program Effect Exc (Answer EnrichedCustomerResponse) :=
  withCustomer id fun customer => do
    let request := ⟨id, customer.name, ← ofExcept (emailStr customer.email)⟩
    let reply ← (Except.ok <$> effect (.requestReply request timeoutSeconds)).tryCatch fun exc =>
      if exc.kind = .timeoutError then
        pure (.error ⟨504, .text
          ("Kafka enrichment did not reply within " ++ toString timeoutSeconds ++ "s for customer " ++
          toString id)⟩)
      else raise exc
    match reply with
    | .ok reply => pure (.ok ⟨reply.id, reply.name, ← ofExcept (emailStr reply.email), reply.displayName⟩)
    | .error exc => pure (.http exc)

/-! ### The enrichment over Kafka -/

section Enrich
open Runs

/-- In some run of the service, a call has returned the reply to the request. -/
def Returned (service : EnrichmentService) (request : CustomerEnrichRequest) (reply : CustomerEnrichReply) : Prop :=
  ∃ es i, Meets service.step service.Possible EnrichmentService.start es ∧ service.request i = request ∧
    (run service.step EnrichmentService.start es).calls i = .done (.ok reply)

theorem Returned.eq {service : EnrichmentService} {request : CustomerEnrichRequest} {reply : CustomerEnrichReply}
    (h : Returned service request reply) : reply = computeEnrichment request := by
  obtain ⟨es, i, hmeets, rfl, hdone⟩ := h
  have hinv : Inv service (run service.step EnrichmentService.start es) :=
    hmeets.run (Inv.start service) fun _ _ hinv hok => hinv.step hok
  exact hinv.returned i reply hdone

/-- What the lookup of the customer leads to. -/
theorem result_withCustomer {α : Type} (id : Int) (handler : Customer → Program Effect Exc (Answer α))
    (answers : Answers Effect Exc) : (withCustomer id handler).result answers 0 =
      match answers 0 _ (.getCustomer id) with
      | .ok (some customer) => (handler customer).result answers 1
      | .ok none => .ok (.http ⟨404, .text ("Customer not found: id=" ++ toString id)⟩)
      | .error exc => if exc.kind = .noResultFound then .ok (.http ⟨404, .text exc.text⟩) else .error exc := by
  show result answers 1 _ = _
  cases answers 0 _ (Effect.getCustomer id) with
  | error exc =>
    show result answers 1 (Program.bind (if exc.kind = .noResultFound then _ else _) _) =
      if exc.kind = .noResultFound then _ else _
    by_cases hkind : exc.kind = .noResultFound
    · rw [if_pos hkind, if_pos hkind]
      rfl
    · rw [if_neg hkind, if_neg hkind]
      rfl
  | ok found => cases found <;> rfl

variable {service : EnrichmentService} {emailStr : String → Except Exc String} {timeoutSeconds : Nat} {id : Int}
  {answers : Answers Effect Exc}

/-- What the enrichment of a customer who has been found leads to. -/
theorem result_enrichCustomer {customer : Customer} (hfound : answers 0 _ (.getCustomer id) = .ok (some customer)) :
    (enrichCustomer emailStr timeoutSeconds id).result answers 0 = (emailStr customer.email).bind fun email =>
      match answers 1 _ (.requestReply ⟨id, customer.name, email⟩ timeoutSeconds) with
      | .ok reply => (emailStr reply.email).map fun email => .ok ⟨reply.id, reply.name, email, reply.displayName⟩
      | .error exc =>
        if exc.kind = .timeoutError then
          .ok (.http ⟨504, .text
            ("Kafka enrichment did not reply within " ++ toString timeoutSeconds ++ "s for customer " ++
            toString id)⟩)
        else .error exc := by
  rw [enrichCustomer, result_withCustomer, hfound]
  dsimp only
  cases emailStr customer.email with
  | error exc => rfl
  | ok email =>
    show result answers 2 _ = _
    simp only [Except.bind]
    cases answers 1 _ (.requestReply ⟨id, customer.name, email⟩ timeoutSeconds) with
    | error exc =>
      show result answers 2 (Program.bind (if exc.kind = .timeoutError then _ else _) _) =
        if exc.kind = .timeoutError then _ else _
      by_cases hkind : exc.kind = .timeoutError
      · rw [if_pos hkind, if_pos hkind]
        rfl
      · rw [if_neg hkind, if_neg hkind]
        rfl
    | ok reply =>
      show result answers 2 (Program.bind (ofExcept (emailStr reply.email)) _) = Except.map _ (emailStr reply.email)
      cases emailStr reply.email <;> rfl

theorem enrich_missing (hmissing : answers 0 _ (.getCustomer id) = .ok none) :
    (enrichCustomer emailStr timeoutSeconds id).result answers 0 =
      .ok (.http ⟨404, .text ("Customer not found: id=" ++ toString id)⟩) := by
  rw [enrichCustomer, result_withCustomer, hmissing]

theorem enrich_unanswered {customer : Customer} {email : String} {exc : Exc}
    (hfound : answers 0 _ (.getCustomer id) = .ok (some customer)) (hemail : emailStr customer.email = .ok email)
    (hreply : answers 1 _ (.requestReply ⟨id, customer.name, email⟩ timeoutSeconds) = .error exc)
    (hkind : exc.kind = .timeoutError) : (enrichCustomer emailStr timeoutSeconds id).result answers 0 =
      .ok (.http ⟨504, .text ("Kafka enrichment did not reply within " ++ toString timeoutSeconds ++
        "s for customer " ++ toString id)⟩) := by
  rw [result_enrichCustomer hfound, hemail]
  simp only [Except.bind, hreply, hkind, if_true]

/-- GET /customers/ID/enrich over the calls of the service: a 200 tells the customer that was asked for and nobody else's
    reply, whatever runs beside it; a missing customer is a 404, a reply that does not come in time a 504, and a 504 is
    never about a customer who is missing. -/
theorem enriched_is_own (hbroker : ∀ request reply, answers 1 _ (.requestReply request timeoutSeconds) = .ok reply →
      Returned service request reply) :
    (∀ body, (enrichCustomer emailStr timeoutSeconds id).result answers 0 = .ok (.ok body) →
      ∃ customer email, answers 0 _ (.getCustomer id) = .ok (some customer) ∧ emailStr customer.email = .ok email ∧
        emailStr email = .ok body.email ∧ body.id = id ∧ body.name = customer.name ∧
          body.displayName = customer.name ++ " <" ++ email ++ ">") ∧
      (∀ exc, (enrichCustomer emailStr timeoutSeconds id).result answers 0 = .ok (.http exc) →
        (exc.statusCode = 504 ↔ ∃ customer, answers 0 _ (.getCustomer id) = .ok (some customer))) ∧
      (answers 0 _ (.getCustomer id) = .ok none → (enrichCustomer emailStr timeoutSeconds id).result answers 0 =
        .ok (.http ⟨404, .text ("Customer not found: id=" ++ toString id)⟩)) ∧
      ∀ customer email exc, answers 0 _ (.getCustomer id) = .ok (some customer) → emailStr customer.email = .ok email →
        answers 1 _ (.requestReply ⟨id, customer.name, email⟩ timeoutSeconds) = .error exc → exc.kind = .timeoutError →
          (enrichCustomer emailStr timeoutSeconds id).result answers 0 =
            .ok (.http ⟨504, .text ("Kafka enrichment did not reply within " ++ toString timeoutSeconds ++
              "s for customer " ++ toString id)⟩) := by
  rw [← and_assoc]
  refine ⟨?_, enrich_missing, fun customer email exc => enrich_unanswered⟩
  cases hget : answers 0 _ (.getCustomer id) with
  | error exc =>
    rw [enrichCustomer, result_withCustomer, hget]
    by_cases hkind : exc.kind = .noResultFound
    · simp [hkind]
    · simp [hkind]
  | ok found =>
    cases found with
    | none =>
      rw [enrichCustomer, result_withCustomer, hget]
      simp
    | some customer =>
      rw [result_enrichCustomer hget]
      cases hemail : emailStr customer.email with
      | error exc => simp [Except.bind]
      | ok email =>
        simp only [Except.bind]
        cases hreply : answers 1 _ (.requestReply ⟨id, customer.name, email⟩ timeoutSeconds) with
        | error exc =>
          by_cases hkind : exc.kind = .timeoutError
          · simp [hkind]
          · simp [hkind]
        | ok reply =>
          have hown := (hbroker _ reply hreply).eq
          subst hown
          cases hagain : emailStr email with
          | error exc => simp [computeEnrichment, hagain, Except.map]
          | ok email' =>
            refine ⟨fun body hbody => ?_, fun exc hexc => ?_⟩
            · simp only [computeEnrichment, hagain, Except.map, Except.ok.injEq, Answer.ok.injEq] at hbody
              subst hbody
              exact ⟨customer, email, rfl, hemail, hagain, rfl, rfl, rfl⟩
            · simp [computeEnrichment, hagain, Except.map] at hexc

/-- Ada's customer is found, and a request is answered with her enrichment. -/
def adaAnswers : Answers Effect Exc
  | _, _, .getCustomer _ => .ok (some ⟨"Ada", "ada@example.com", ⟨0, none⟩⟩)
  | _, _, .requestReply request _ =>
    if request = ada then .ok (computeEnrichment ada) else .error ⟨.timeoutError, ""⟩
  | _, _, .send _ => .error ⟨.httpError, ""⟩
  | _, _, .sleep _ => .ok ()

/-- The first customer is enriched; nobody replies about the second. -/
theorem ada_enriched : (∃ customer : Customer, adaAnswers 0 _ (.getCustomer 1) = .ok (some customer) ∧
      "Ada <ada@example.com>" = customer.name ++ " <" ++ customer.email ++ ">") ∧
    (enrichCustomer Except.ok 5 2).result adaAnswers 0 =
      .ok (.http ⟨504, .text "Kafka enrichment did not reply within 5s for customer 2"⟩) := by
  have hbroker : ∀ request reply, adaAnswers 1 _ (.requestReply request 5) = .ok reply →
      Returned adaService request reply := by
    intro request reply hreply
    by_cases hada : request = ada
    · subst hada
      have hsame : computeEnrichment ada = reply := by simpa [adaAnswers] using hreply
      obtain ⟨hpossible, hreturns⟩ := round_trip_returns adaService EnrichmentService.start 0 rfl rfl rfl
      exact ⟨adaService.roundTrip 0, 0, hpossible, rfl, hsame ▸ hreturns⟩
    · simp [adaAnswers, hada] at hreply
  have hanswer : (enrichCustomer Except.ok 5 1).result adaAnswers 0 =
      .ok (.ok ⟨1, "Ada", "ada@example.com", "Ada <ada@example.com>"⟩) := by
    rw [result_enrichCustomer rfl]
    rfl
  obtain ⟨customer, email, hfound, hemail, -, -, -, hname⟩ := (enriched_is_own hbroker).1 _ hanswer
  cases hemail
  exact ⟨⟨customer, hfound, hname⟩, (enriched_is_own hbroker).2.2.2 _ _ _ rfl rfl rfl rfl⟩

end Enrich

end IrisService.Customers.Enrichment
