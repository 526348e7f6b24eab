import IrisService.Library.Runs

/-! `start_kafka` and `stop_kafka` of `messaging/kafka_client.py`: the globals of one process, over every order
of starts and stops and every failure of one of their `await`s. -/

namespace IrisService.Messaging
open Runs

/-- The fields of `Settings` that are read here. -/
structure KafkaSettings where
  customerRequestTopic : String
  customerReplyTopic : String

/-- `object` says which object of the process it is. -/
structure AIOKafkaConsumer where
  object : Nat
  topic : String
  groupId : String
  autoOffsetReset : String

/-- `id` in one process, of `None` and of the objects it makes, while `None` is alive throughout. The ids of
    two processes have nothing to do with each other. -/
structure Process where
  id : Option Nat → Nat
  distinct : ∀ object, id (some object) ≠ id none

/-- The globals of the module; `objects` counts the objects made so far. -/
structure KafkaClient where
  producer : Option Nat
  requestConsumer : Option AIOKafkaConsumer
  replyConsumer : Option AIOKafkaConsumer
  consumerTasks : Nat
  enrichmentService : Option Nat
  objects : Nat

/-- The `start` or `stop` of a client that fails. -/
inductive Await where
  | producer
  | requestConsumer
  | replyConsumer
  deriving DecidableEq

/-- The `group_id` of the reply consumer, built from `id(_reply_consumer)`. -/
def replyGroup (id : Nat) : String := "iris-enrich-reply-" ++ toString id

namespace Process
variable (process : Process) (settings : KafkaSettings)

/-- `start_kafka`; `fails` is the `await` that raises. -/
def startKafka (fails : Option Await) (c : KafkaClient) : KafkaClient :=
  if c.producer.isSome then c
  else
    let c := { c with producer := some c.objects, objects := c.objects + 1 }
    if fails = some .producer then c
    else
      let c := { c with
        enrichmentService := some c.objects
        requestConsumer := some ⟨c.objects + 1, settings.customerRequestTopic, "iris-enrich-handler", "earliest"⟩
        objects := c.objects + 2 }
      if fails = some .requestConsumer then c
      else
        -- `_reply_consumer` is read before it is assigned.
        let groupId := replyGroup (process.id (c.replyConsumer.map AIOKafkaConsumer.object))
        let c := { c with
          replyConsumer := some ⟨c.objects, settings.customerReplyTopic, groupId, "latest"⟩
          objects := c.objects + 1 }
        if fails = some .replyConsumer then c else { c with consumerTasks := c.consumerTasks + 2 }

end Process

/-- `stop_kafka`; `fails` is the `await` that raises. -/
def stopKafka (fails : Option Await) (c : KafkaClient) : KafkaClient :=
  let c := { c with consumerTasks := 0 }
  if c.requestConsumer.isSome ∧ fails = some .requestConsumer then c
  else
    let c := { c with requestConsumer := none }
    if c.replyConsumer.isSome ∧ fails = some .replyConsumer then c
    else
      let c := { c with replyConsumer := none }
      if c.producer.isSome ∧ fails = some .producer then c
      else { c with producer := none, enrichmentService := none }

/-- The module when it is imported. -/
def KafkaClient.imported : KafkaClient := ⟨none, none, none, 0, none, 0⟩

/-- The two halves of the application's lifespan. -/
inductive Lifespan where
  | start (fails : Option Await)
  | stop (fails : Option Await)

namespace Process

/-- One half of a lifespan. -/
def lifespan (process : Process) (settings : KafkaSettings) (c : KafkaClient) : Lifespan → KafkaClient
  | .start fails => process.startKafka settings fails c
  | .stop fails => stopKafka fails c

/-- There is no reply consumer without a producer, and its group is named after `None`. -/
structure NamedAfterNone (process : Process) (c : KafkaClient) : Prop where
  idle : c.producer = none → c.replyConsumer = none
  group : ∀ consumer, c.replyConsumer = some consumer → consumer.groupId = replyGroup (process.id none)

variable {process : Process} {settings : KafkaSettings} {c : KafkaClient}

theorem namedAfterNone_start (h : NamedAfterNone process c) (fails : Option Await) :
    NamedAfterNone process (process.startKafka settings fails c) := by
  unfold startKafka
  by_cases hproducer : c.producer.isSome
  · rw [if_pos hproducer]
    exact h
  · rw [if_neg hproducer]
    have hnone : c.replyConsumer = none := h.idle (by simpa using hproducer)
    simp only [hnone, Option.map_none]
    split
    · exact ⟨nofun, nofun⟩
    · split
      · exact ⟨nofun, nofun⟩
      · split
        · refine ⟨nofun, fun consumer heq => ?_⟩
          cases heq
          rfl
        · refine ⟨nofun, fun consumer heq => ?_⟩
          cases heq
          rfl

theorem namedAfterNone_stop (h : NamedAfterNone process c) (fails : Option Await) :
    NamedAfterNone process (stopKafka fails c) := by
  unfold stopKafka
  dsimp only
  split
  · exact ⟨h.idle, h.group⟩
  · split
    · exact ⟨h.idle, h.group⟩
    · split
      · exact ⟨fun _ => rfl, nofun⟩
      · exact ⟨fun _ => rfl, nofun⟩

/-- Whatever the process has been through, the group of its reply consumer is named after the id of `None`. -/
theorem reply_group (process : Process) (settings : KafkaSettings) (es : List Lifespan) {consumer : AIOKafkaConsumer}
    (h : (run (process.lifespan settings) .imported es).replyConsumer = some consumer) :
    consumer.groupId = replyGroup (process.id none) := by
  have hstart : NamedAfterNone process .imported := ⟨fun _ => rfl, nofun⟩
  have hmeets : Meets (process.lifespan settings) (fun _ _ => True) .imported es := meets_true _ _
  have hrun : NamedAfterNone process (run (process.lifespan settings) .imported es) := by
    refine hmeets.run hstart fun c e hc _ => ?_
    cases e with
    | start fails => exact namedAfterNone_start hc fails
    | stop fails => exact namedAfterNone_stop hc fails
  exact hrun.group consumer h

end Process

theorem numbered_injective (stem : String) {a b : Nat} (h : stem ++ toString a = stem ++ toString b) : a = b := by
  have hlist := congrArg String.toList h
  rw [String.toList_append, String.toList_append, List.append_right_inj] at hlist
  have hdigits : Nat.toDigits 10 a = Nat.toDigits 10 b := by
    simpa only [Nat.toString_eq_ofList_toDigits, String.toList_ofList] using hlist
  have hvalue := congrArg (fun ds => Nat.ofDigitChars 10 ds 0) hdigits
  simpa only [Nat.ofDigitChars_ten_toDigits] using hvalue

theorem replyGroup_injective : Function.Injective replyGroup := fun _ _ h => numbered_injective _ h

end IrisService.Messaging
