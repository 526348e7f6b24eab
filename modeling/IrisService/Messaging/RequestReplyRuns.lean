import IrisService.Messaging.RequestReply
import IrisService.Library.Runs

/-! The round trip over whole runs: whatever the broker delivers and whichever calls are interrupted. -/

namespace IrisService.Messaging
open Runs

/-- The pending table lists the calls in flight, and the records and futures carry the enrichment of the
    request that their correlation id stands for. -/
structure Inv (service : EnrichmentService) (w : World) : Prop where
  entry : ∀ correlationId i, (correlationId, i) ∈ w.pending ↔
    (w.calls i).inFlight = true ∧ service.uuid4 i = correlationId
  nodup : w.pending.keys.Nodup
  request : ∀ msg ∈ w.requests, ∃ i, msg = service.requestRecord i
  reply : ∀ msg ∈ w.replies, ∃ request correlationId, msg = service.replyRecord request correlationId ∧
    ∀ i, service.uuid4 i = correlationId → request = service.request i
  future : ∀ i reply, w.futures i = .result reply → reply = computeEnrichment (service.request i)
  returned : ∀ i reply, w.calls i = .done (.ok reply) → reply = computeEnrichment (service.request i)
  loops : w.requestLoop ≠ .ended ∧ w.replyLoop ≠ .ended

namespace Inv
variable {service : EnrichmentService} {w : World} {i : Nat}

/-! ### The calls -/

/-- A call in flight moves on without leaving. -/
theorem moves (h : Inv service w) (hi : (w.calls i).inFlight = true) {call : RequestReply} (hcall : call.inFlight = true) :
    Inv service { w with calls := Function.update w.calls i call } where
  entry correlationId j := by
    rw [h.entry]
    by_cases hj : j = i
    · subst hj
      simp [hi, hcall]
    · simp [Function.update_of_ne hj]
  nodup := h.nodup
  request := h.request
  reply := h.reply
  future := h.future
  returned j reply hj := by
    by_cases hji : j = i
    · subst hji
      simp only [Function.update_self] at hj
      subst hj
      cases hcall
    · exact h.returned j reply (by simpa [Function.update_of_ne hji] using hj)
  loops := h.loops

/-- The future of a call changes to one that carries no foreign result. -/
theorem completes (h : Inv service w) {f : Future}
    (hf : ∀ reply, f = .result reply → reply = computeEnrichment (service.request i)) :
    Inv service { w with futures := Function.update w.futures i f } where
  entry := h.entry
  nodup := h.nodup
  request := h.request
  reply := h.reply
  future j reply hj := by
    by_cases hji : j = i
    · subst hji
      simp only [Function.update_self] at hj
      exact hf reply hj
    · exact h.future j reply (by simpa [Function.update_of_ne hji] using hj)
  returned := h.returned
  loops := h.loops

theorem leave (h : Inv service w) (hi : (w.calls i).inFlight = true) {outcome : Except PyError CustomerEnrichReply}
    (hown : ∀ reply, outcome = .ok reply → reply = computeEnrichment (service.request i)) :
    Inv service (service.leave w i outcome) where
  entry correlationId j := by
    simp only [EnrichmentService.leave, Dict.mem_pop h.nodup, h.entry]
    by_cases hj : j = i
    · subst hj
      simp only [Function.update_self, RequestReply.inFlight]
      constructor
      · rintro ⟨⟨-, heq⟩, hne⟩
        exact absurd heq.symm hne
      · rintro ⟨hfalse, -⟩
        cases hfalse
    · simp only [Function.update_of_ne hj, ne_eq, and_iff_left_iff_imp, and_imp]
      rintro - rfl heq
      exact hj (service.uuid4_injective heq)
  nodup := Dict.nodup_pop h.nodup
  request := h.request
  reply := h.reply
  future := h.future
  returned j reply hj := by
    simp only [EnrichmentService.leave] at hj
    by_cases hji : j = i
    · subst hji
      simp only [Function.update_self, RequestReply.done.injEq] at hj
      exact hown reply hj
    · exact h.returned j reply (by simpa [Function.update_of_ne hji] using hj)
  loops := h.loops

/-- A call whose future is done leaves with what it carries. -/
theorem leave_outcome (h : Inv service w) (hi : (w.calls i).inFlight = true) {outcome : Except PyError CustomerEnrichReply}
    (hdone : (w.futures i).outcome = some outcome) : Inv service (service.leave w i outcome) := by
  refine h.leave hi fun reply hok => ?_
  cases hf : w.futures i with
  | pending =>
    rw [hf] at hdone
    cases hdone
  | result r =>
    rw [hf, hok] at hdone
    cases hdone
    exact h.future i reply hf
  | cancelled =>
    rw [hf, hok] at hdone
    cases hdone

theorem interrupt (h : Inv service w) (e : PyError) : Inv service (EnrichmentService.interrupt w i e) := by
  unfold EnrichmentService.interrupt
  split
  · rename_i hi
    exact h.moves (by rw [hi]; rfl) rfl
  · rename_i hi
    refine (h.moves (by rw [hi]; rfl) rfl).completes fun reply hcancel => ?_
    cases hf : w.futures i with
    | result r =>
      rw [hf] at hcancel
      exact h.future i reply (hf.trans hcancel)
    | pending =>
      rw [hf] at hcancel
      cases hcancel
    | cancelled =>
      rw [hf] at hcancel
      cases hcancel
  · exact h

theorem call (h : Inv service w) (hi : w.calls i = .start) : Inv service (service.step w (.call i)) := by
  have hnew : service.uuid4 i ∉ w.pending.keys := by
    intro hmem
    obtain ⟨⟨c, j⟩, hentry, rfl⟩ := List.mem_map.mp hmem
    obtain ⟨hj, heq⟩ := (h.entry _ _).mp hentry
    obtain rfl := service.uuid4_injective heq
    rw [hi] at hj
    cases hj
  simp only [EnrichmentService.step, hi]
  refine ⟨fun correlationId j => ?_, Dict.nodup_set h.nodup, fun msg hmsg => ?_, h.reply, fun j reply hj => ?_,
    fun j reply hj => ?_, h.loops⟩
  · rw [Dict.set_of_notMem hnew, List.mem_append, List.mem_singleton, Prod.mk.injEq, h.entry]
    by_cases hj : j = i
    · subst hj
      simp [hi, RequestReply.inFlight, eq_comm]
    · simp [hj]
  · rcases List.mem_append.mp hmsg with hmsg | hmsg
    · exact h.request msg hmsg
    · exact ⟨i, List.mem_singleton.mp hmsg⟩
  · by_cases hji : j = i
    · subst hji
      simp at hj
    · exact h.future j reply (by simpa [Function.update_of_ne hji] using hj)
  · by_cases hji : j = i
    · subst hji
      simp at hj
    · exact h.returned j reply (by simpa [Function.update_of_ne hji] using hj)

/-! ### The consumer loops -/

/-- The reply that the service computes for a record of one of its calls is the enrichment of its request. -/
theorem consumed (h : Inv service w) {msg : Record} (hpossible : service.Possible w (.request msg))
    {request : CustomerEnrichRequest} {correlationId : String} (hv : service.validateRequest msg.value = some request)
    (hh : header msg.headers "correlation-id" = .ok (some correlationId)) :
    ∀ i, service.uuid4 i = correlationId → request = service.request i := by
  rintro i rfl
  rcases hpossible with hmem | hbad | hforeign
  · obtain ⟨j, rfl⟩ := h.request msg hmem
    rw [header_requestRecord, Except.ok.injEq, Option.some.injEq] at hh
    obtain rfl := service.uuid4_injective hh
    rw [EnrichmentService.requestRecord, service.request_survives] at hv
    exact (Option.some.inj hv).symm
  · rw [hv] at hbad
    cases hbad
  · exact absurd hh (hforeign i)

/-- A reply that is delivered to a call of the service is the enrichment of its request. -/
theorem delivered (h : Inv service w) {msg : Record} (hpossible : service.Possible w (.reply msg))
    {reply : CustomerEnrichReply} (hv : service.validateReply msg.value = some reply)
    (hh : header msg.headers "correlation-id" = .ok (some (service.uuid4 i))) :
    reply = computeEnrichment (service.request i) := by
  rcases hpossible with hmem | hbad | hforeign
  · obtain ⟨request, correlationId, rfl, hrequest⟩ := h.reply msg hmem
    rw [header_replyRecord, Except.ok.injEq, Option.some.injEq] at hh
    rw [EnrichmentService.replyRecord, service.reply_survives, Option.some.injEq] at hv
    rw [← hv, hrequest i hh.symm]
  · rw [hv] at hbad
    cases hbad
  · exact absurd hh (hforeign i)

theorem request_step (h : Inv service w) {msg : Record} (hpossible : service.Possible w (.request msg)) :
    Inv service (service.step w (.request msg)) := by
  simp only [EnrichmentService.step]
  split
  · rcases consumeRequest_cases service msg with ⟨e, hc, he⟩ | hc | ⟨request, correlationId, hv, hh, hc⟩
    · rw [hc]
      exact { h with loops := ⟨by simp [Loop.raised, he], h.loops.2⟩ }
    · rw [hc]
      exact h
    · rw [hc]
      refine { h with reply := fun msg' hmem => ?_, loops := ⟨by simp, h.loops.2⟩ }
      rcases List.mem_append.mp hmem with hmem | hmem
      · exact h.reply msg' hmem
      · exact ⟨request, correlationId, List.mem_singleton.mp hmem, h.consumed hpossible hv hh⟩
  · exact h

theorem reply_step (h : Inv service w) {msg : Record} (hpossible : service.Possible w (.reply msg)) :
    Inv service (service.step w (.reply msg)) := by
  simp only [EnrichmentService.step]
  split
  · rcases consumeReply_cases service w.pending w.futures msg with
      ⟨e, hc, he⟩ | hc | ⟨reply, correlationId, i, hv, hh, hget, -, hc⟩
    · rw [hc]
      exact { h with loops := ⟨h.loops.1, by simp [Loop.raised, he]⟩ }
    · rw [hc]
      exact h
    · rw [hc]
      obtain ⟨-, rfl⟩ := (h.entry correlationId i).mp (Dict.mem_of_get hget)
      refine h.completes fun reply' heq => ?_
      cases heq
      exact h.delivered hpossible hv hh
  · exact h

theorem step (h : Inv service w) {e : Event} (hpossible : service.Possible w e) : Inv service (service.step w e) := by
  cases e with
  | call i =>
    cases hi : w.calls i with
    | start => exact h.call hi
    | _ => simpa only [EnrichmentService.step, hi] using h
  | sent i =>
    cases hi : w.calls i with
    | sending =>
      simp only [EnrichmentService.step, hi]
      split
      · rename_i outcome hdone
        exact h.leave_outcome (by rw [hi]; rfl) hdone
      · exact h.moves (by rw [hi]; rfl) rfl
    | _ => simpa only [EnrichmentService.step, hi] using h
  | sendFails i e =>
    cases hi : w.calls i with
    | sending =>
      simp only [EnrichmentService.step, hi]
      exact h.leave (by rw [hi]; rfl) fun reply herr => by cases herr
    | _ => simpa only [EnrichmentService.step, hi] using h
  | timeout i =>
    cases hi : w.calls i with
    | waiting =>
      simp only [EnrichmentService.step, hi]
      exact h.interrupt .timeoutError
    | _ => simpa only [EnrichmentService.step, hi] using h
  | cancel i => exact h.interrupt .cancelledError
  | resume i =>
    cases hi : w.calls i with
    | waiting =>
      simp only [EnrichmentService.step, hi]
      split
      · rename_i outcome hdone
        exact h.leave_outcome (by rw [hi]; rfl) hdone
      · exact h
    | interrupted e =>
      simp only [EnrichmentService.step, hi]
      exact h.leave (by rw [hi]; rfl) fun reply herr => by cases herr
    | _ => simpa only [EnrichmentService.step, hi] using h
  | request msg => exact h.request_step hpossible
  | replySent =>
    simp only [EnrichmentService.step]
    split
    · exact { h with loops := ⟨by simp, h.loops.2⟩ }
    · exact h
  | replySendFails =>
    simp only [EnrichmentService.step]
    split
    · exact { h with loops := ⟨by simp [Loop.raised, PyError.isException], h.loops.2⟩ }
    · exact h
  | reply msg => exact h.reply_step hpossible

theorem start (service : EnrichmentService) : Inv service EnrichmentService.start where
  entry correlationId i := by simp [EnrichmentService.start, RequestReply.inFlight]
  nodup := List.nodup_nil
  request msg hmem := by cases hmem
  reply msg hmem := by cases hmem
  future i reply hf := by cases hf
  returned i reply hdone := by cases hdone
  loops := ⟨by simp [EnrichmentService.start], by simp [EnrichmentService.start]⟩

theorem sound (h : Inv service w) : service.Sound w where
  ownReply := h.returned
  pendingKeys correlationId := by
    constructor
    · intro hmem
      obtain ⟨⟨c, i⟩, hentry, rfl⟩ := List.mem_map.mp hmem
      exact ⟨i, (h.entry c i).mp hentry⟩
    · rintro ⟨i, hi⟩
      exact Dict.mem_keys ((h.entry correlationId i).mpr hi)
  oneEach := h.nodup
  noneLeft hidle := by
    refine List.eq_nil_iff_forall_not_mem.mpr fun ⟨c, i⟩ hentry => ?_
    have hi := ((h.entry c i).mp hentry).1
    rw [hidle i] at hi
    cases hi
  delivers correlationId reply e herr := by
    obtain ⟨futures', hok, -⟩ := deliverReply_ok w.pending w.futures correlationId reply
    rw [hok] at herr
    cases herr
  requestLoopRuns := h.loops.1
  replyLoopRuns := h.loops.2

end Inv

/-- Whatever the broker delivers and whichever calls time out, fail or are cancelled. -/
theorem round_trip_sound (service : EnrichmentService) {es : List Event}
    (h : Meets service.step service.Possible EnrichmentService.start es) :
    ∀ w ∈ states service.step EnrichmentService.start es, service.Sound w :=
  fun w hw => (h.states (P := Inv service) (Inv.start service) (fun _ _ hinv hok => hinv.step hok) w hw).sound

/-- The events of a call that nothing disturbs. -/
def EnrichmentService.roundTrip (service : EnrichmentService) (i : Nat) : List Event :=
  [.call i, .request (service.requestRecord i), .sent i, .replySent,
    .reply (service.replyRecord (service.request i) (service.uuid4 i)), .resume i]

/-- A call whose records are delivered before it is interrupted returns. -/
theorem round_trip_returns (service : EnrichmentService) (w : World) (i : Nat) (hi : w.calls i = .start)
    (hrequest : w.requestLoop = .receiving) (hreply : w.replyLoop = .receiving) :
    Meets service.step service.Possible w (service.roundTrip i) ∧
      (run service.step w (service.roundTrip i)).calls i = .done (.ok (computeEnrichment (service.request i))) := by
  simp [EnrichmentService.roundTrip, Meets, run, EnrichmentService.Possible, EnrichmentService.step, hi, hrequest, hreply,
    consumeRequest_requestRecord, consumeReply_replyRecord, Future.outcome, deliverReply, Future.done, Future.setResult,
    EnrichmentService.leave]

def ada : CustomerEnrichRequest := ⟨1, "Ada", "ada@example.com"⟩

/-- Every call asks for Ada; the `uuid4` of call `i` is made of `i` letters. -/
def adaService : EnrichmentService where
  toDtos := .compact
  replyTopic := "customer.enrich.reply"
  uuid4 i := String.ofList (List.replicate i 'a')
  request _ := ada
  uuid4_injective i j h := by
    have hlist := congrArg String.toList h
    simpa using congrArg List.length hlist

theorem ada_round_trip : adaService.Sound (run adaService.step EnrichmentService.start (adaService.roundTrip 0)) ∧
    (run adaService.step EnrichmentService.start (adaService.roundTrip 0)).calls 0 =
      .done (.ok ⟨1, "Ada", "ada@example.com", "Ada <ada@example.com>"⟩) := by
  obtain ⟨hpossible, hreturns⟩ := round_trip_returns adaService EnrichmentService.start 0 rfl rfl rfl
  exact ⟨round_trip_sound adaService hpossible _ (run_mem_states _ _), hreturns⟩

end IrisService.Messaging
