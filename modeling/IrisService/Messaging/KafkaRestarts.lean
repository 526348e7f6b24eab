import IrisService.Http
import IrisService.Messaging.KafkaClient

/-! What is left of a `start_kafka` that raised: the service that `get_enrichment_service` hands out, and the
next `start_kafka`, over every order of starts and stops of one process. -/

namespace IrisService.Messaging
open Runs

/-- `get_enrichment_service` -/
def getEnrichmentService (c : KafkaClient) : Except HTTPException Nat :=
  match c.enrichmentService with
  | none => .error ⟨503, .text "Kafka enrichment is not available — broker may be down"⟩
  | some service => .ok service

/-- The call gets as far as the `await` that fails. -/
def StartRaises (c : KafkaClient) (fails : Option Await) : Prop := c.producer = none ∧ fails ≠ none

instance (c : KafkaClient) (fails : Option Await) : Decidable (StartRaises c fails) := inferInstanceAs (Decidable (_ ∧ _))

/-- The `await` that fails is reached. -/
def StopRaises (c : KafkaClient) : Option Await → Prop
  | none => False
  | some .requestConsumer => c.requestConsumer ≠ none
  | some .replyConsumer => c.replyConsumer ≠ none
  | some .producer => c.producer ≠ none

/-- Between `c` and `c'` the producer, both consumers and both tasks were made. -/
structure Started (c c' : KafkaClient) : Prop where
  producer : ∃ object, c'.producer = some object ∧ c.objects ≤ object
  requestConsumer : ∃ consumer, c'.requestConsumer = some consumer ∧ c.objects ≤ consumer.object
  replyConsumer : ∃ consumer, c'.replyConsumer = some consumer ∧ c.objects ≤ consumer.object
  consumerTasks : c'.consumerTasks = c.consumerTasks + 2

/-- The four globals are `None` and the task list is empty. -/
structure Cleared (c : KafkaClient) : Prop where
  producer : c.producer = none
  requestConsumer : c.requestConsumer = none
  replyConsumer : c.replyConsumer = none
  enrichmentService : c.enrichmentService = none
  consumerTasks : c.consumerTasks = 0

/-- The process under observation: `down` says that a `start_kafka` has raised and none has succeeded since. -/
structure Watched where
  client : KafkaClient
  down : Bool

/-- The module has been imported. -/
def Watched.imported : Watched := ⟨.imported, false⟩

namespace Process
variable (process : Process) (settings : KafkaSettings)

/-- One half of a lifespan, watched. -/
def watch (w : Watched) (e : Lifespan) : Watched where
  client := process.lifespan settings w.client e
  down := match e with
    | .start fails => if StartRaises w.client fails then true else w.down && fails.isSome
    | .stop _ => w.down

/-- What the callers of the three functions count on at one call. -/
structure Dependable (w : Watched) (e : Lifespan) : Prop where
  unavailable : (process.watch settings w e).down = true →
    ∃ exc, getEnrichmentService (process.watch settings w e).client = .error exc ∧ exc.statusCode = 503
  restarts : w.down = true → e = .start none → Started w.client (process.lifespan settings w.client e)
  cleared : ∀ fails, e = .stop fails → ¬ StopRaises w.client fails → Cleared (process.lifespan settings w.client e)

end Process

/-- A startup fails at its first `await` or not at all, and while Kafka is down a reachable broker is not tried
    before a `stop_kafka` has taken the producer away. -/
def Recoverable (w : Watched) : Lifespan → Prop
  | .start fails =>
    (w.client.producer = none → fails = none ∨ fails = some .producer) ∧
      (w.down = true → fails = none → w.client.producer = none)
  | .stop _ => True

namespace Process
variable {process : Process} {settings : KafkaSettings} {c : KafkaClient} {w : Watched} {fails : Option Await}

/-! ### What one call does -/

theorem getEnrichmentService_none (h : c.enrichmentService = none) :
    ∃ exc, getEnrichmentService c = .error exc ∧ exc.statusCode = 503 := by
  refine ⟨⟨503, .text "Kafka enrichment is not available — broker may be down"⟩, ?_, rfl⟩
  rw [getEnrichmentService, h]

theorem enrichmentService_of_unavailable {exc : HTTPException} (h : getEnrichmentService c = .error exc) :
    c.enrichmentService = none := by
  cases hservice : c.enrichmentService with
  | none => rfl
  | some service =>
    rw [getEnrichmentService, hservice] at h
    cases h

theorem startKafka_of_producer (h : c.producer ≠ none) : process.startKafka settings fails c = c :=
  if_pos (Option.isSome_iff_ne_none.mpr h)

theorem startKafka_producer (h : c.producer = none) :
    process.startKafka settings (some .producer) c = { c with producer := some c.objects, objects := c.objects + 1 } := by
  simp [startKafka, h]

/-- A startup that gets past the producer leaves the enrichment service behind, whatever its consumers do. -/
theorem startKafka_enrichmentService (process : Process) (settings : KafkaSettings) (h : c.producer = none)
    (hfails : fails ≠ some .producer) :
    (process.startKafka settings fails c).enrichmentService = some (c.objects + 1) := by
  have hproducer : ¬ c.producer.isSome := by simp [h]
  unfold startKafka
  rw [if_neg hproducer]
  dsimp only
  rw [if_neg hfails]
  split
  · rfl
  · split <;> rfl

theorem startKafka_started (process : Process) (settings : KafkaSettings) (h : c.producer = none) :
    Started c (process.startKafka settings none c) := by
  have hproducer : ¬ c.producer.isSome := by simp [h]
  simp only [startKafka, if_neg hproducer, reduceCtorEq, ↓reduceIte]
  exact ⟨⟨_, rfl, Nat.le_refl _⟩, ⟨_, rfl, Nat.le_add_right _ 2⟩, ⟨_, rfl, Nat.le_add_right _ (1 + 2)⟩, rfl⟩

theorem stopKafka_cleared (h : ¬ StopRaises c fails) : Cleared (stopKafka fails c) := by
  have hrequest : ¬ (c.requestConsumer.isSome ∧ fails = some .requestConsumer) := by
    rintro ⟨hsome, rfl⟩
    exact h (Option.isSome_iff_ne_none.mp hsome)
  have hreply : ¬ (c.replyConsumer.isSome ∧ fails = some .replyConsumer) := by
    rintro ⟨hsome, rfl⟩
    exact h (Option.isSome_iff_ne_none.mp hsome)
  have hproducer : ¬ (c.producer.isSome ∧ fails = some .producer) := by
    rintro ⟨hsome, rfl⟩
    exact h (Option.isSome_iff_ne_none.mp hsome)
  simp only [stopKafka, if_neg hrequest, if_neg hreply, if_neg hproducer]
  exact ⟨rfl, rfl, rfl, rfl, rfl⟩

/-- A `stop_kafka` that raises has not come to the producer. -/
theorem stopKafka_raises (h : StopRaises c fails) :
    (stopKafka fails c).producer = c.producer ∧ (stopKafka fails c).enrichmentService = c.enrichmentService := by
  cases fails with
  | none => exact h.elim
  | some await =>
    cases await with
    | producer =>
      have hproducer : c.producer.isSome := Option.isSome_iff_ne_none.mpr h
      simp [stopKafka, hproducer]
    | requestConsumer =>
      have hrequest : c.requestConsumer.isSome := Option.isSome_iff_ne_none.mpr h
      simp [stopKafka, hrequest]
    | replyConsumer =>
      have hreply : c.replyConsumer.isSome := Option.isSome_iff_ne_none.mpr h
      simp [stopKafka, hreply]

/-! ### Runs -/

/-- Without a producer, or while Kafka is down, there is no enrichment service. -/
structure Withdrawn (w : Watched) : Prop where
  idle : w.client.producer = none → w.client.enrichmentService = none
  down : w.down = true → w.client.enrichmentService = none

theorem Withdrawn.imported : Withdrawn .imported := ⟨fun _ => rfl, nofun⟩

/-- A startup that finds a producer changes nothing, and against a reachable broker it counts as a success. -/
theorem down_of_idle_start (h : w.client.producer ≠ none) (hdown : (process.watch settings w (.start fails)).down = true) :
    w.down = true ∧ fails ≠ none := by
  have hquiet : ¬ StartRaises w.client fails := fun hraises => h hraises.1
  simp only [watch, if_neg hquiet, Bool.and_eq_true] at hdown
  exact ⟨hdown.1, Option.isSome_iff_ne_none.mp hdown.2⟩

theorem withdrawn_stop (h : Withdrawn w) : Withdrawn (process.watch settings w (.stop fails)) := by
  by_cases hraises : StopRaises w.client fails
  · obtain ⟨hproducer, hservice⟩ := stopKafka_raises hraises
    constructor
    · intro hnone
      exact hservice.trans (h.idle (hproducer.symm.trans hnone))
    · intro hdown
      exact hservice.trans (h.down hdown)
  · have hcleared := stopKafka_cleared hraises
    exact ⟨fun _ => hcleared.enrichmentService, fun _ => hcleared.enrichmentService⟩

theorem withdrawn_start (h : Withdrawn w) (hok : Recoverable w (.start fails)) :
    Withdrawn (process.watch settings w (.start fails)) := by
  by_cases hproducer : w.client.producer = none
  · rcases hok.1 hproducer with rfl | rfl
    · obtain ⟨object, hsome, -⟩ := (startKafka_started process settings hproducer).producer
      constructor
      · intro hnone
        cases hnone.symm.trans hsome
      · intro hdown
        simp [watch, StartRaises] at hdown
    · have hservice : (process.startKafka settings (some .producer) w.client).enrichmentService = none := by
        rw [startKafka_producer hproducer]
        exact h.idle hproducer
      exact ⟨fun _ => hservice, fun _ => hservice⟩
  · have hsame : process.startKafka settings fails w.client = w.client := startKafka_of_producer hproducer
    constructor
    · intro hnone
      exact absurd ((congrArg KafkaClient.producer hsame).symm.trans hnone) hproducer
    · intro hdown
      exact (congrArg KafkaClient.enrichmentService hsame).trans (h.down (down_of_idle_start hproducer hdown).1)

theorem withdrawn_step (h : Withdrawn w) (e : Lifespan) (hok : Recoverable w e) :
    Withdrawn (process.watch settings w e) := by
  cases e with
  | start fails => exact withdrawn_start h hok
  | stop fails => exact withdrawn_stop h

theorem dependable_of_recoverable (h : Withdrawn w) (e : Lifespan) (hok : Recoverable w e) :
    Dependable process settings w e where
  unavailable hdown := getEnrichmentService_none ((withdrawn_step h e hok).down hdown)
  restarts hdown he := by
    subst he
    exact startKafka_started process settings (hok.2 hdown rfl)
  cleared fails he hquiet := by
    subst he
    exact stopKafka_cleared hquiet

theorem recoverable_of_dependable {e : Lifespan} (h : Dependable process settings w e) : Recoverable w e := by
  cases e with
  | stop fails => trivial
  | start fails =>
    constructor
    · intro hproducer
      by_contra hfails
      obtain ⟨hnone, hfirst⟩ := not_or.mp hfails
      have hraises : StartRaises w.client fails := ⟨hproducer, hnone⟩
      have hdown : (process.watch settings w (.start fails)).down = true := by simp [watch, hraises]
      obtain ⟨exc, herror, -⟩ := h.unavailable hdown
      have hservice := startKafka_enrichmentService process settings hproducer hfirst
      cases (enrichmentService_of_unavailable herror).symm.trans hservice
    · intro hdown hfails
      subst hfails
      by_contra hproducer
      have hstarted := (h.restarts hdown rfl).consumerTasks
      rw [lifespan, startKafka_of_producer hproducer] at hstarted
      omega

/-- The callers can count on the three functions exactly in the runs whose calls are all recoverable. -/
theorem dependable_iff_recoverable (process : Process) (settings : KafkaSettings) (es : List Lifespan) :
    Meets (process.watch settings) (Dependable process settings) .imported es ↔
      Meets (process.watch settings) Recoverable .imported es := by
  constructor
  · intro h
    exact h.mono fun w e => recoverable_of_dependable
  · intro h
    exact h.mono_of_inv (P := Withdrawn) Withdrawn.imported (fun _ e hw hok => withdrawn_step hw e hok)
      fun _ e hw hok => dependable_of_recoverable hw e hok

/-- The broker is away when the consumer of the requests starts: no reply consumer, no task, and a service all the same. -/
theorem not_dependable_request_consumer :
    ¬ ∀ (process : Process) (settings : KafkaSettings) (es : List Lifespan),
      Meets (process.watch settings) (Dependable process settings) .imported es := by
  intro h
  have hrun := h ⟨fun object => object.elim 0 (· + 1), fun object => Nat.succ_ne_zero object⟩
    ⟨"customer.enrich.request", "customer.enrich.reply"⟩ [.start (some .requestConsumer)]
  obtain ⟨exc, herror, -⟩ := hrun.1.unavailable rfl
  cases herror

end Process

end IrisService.Messaging
