import IrisService.Library.ConsumerGroups
import IrisService.Messaging.KafkaClient
import IrisService.Messaging.RequestReplyRuns

/-! Several instances of the service on one broker: requests are shared among them, replies go to every
consumer group of the reply topic. -/

namespace IrisService.Messaging
open Runs ConsumerGroups

/-- A process whose `start_kafka` has run to its end, and its enrichment service. -/
structure Instance (settings : KafkaSettings) where
  process : Process
  service : EnrichmentService
  life : List Lifespan
  client : KafkaClient
  requestConsumer : AIOKafkaConsumer
  replyConsumer : AIOKafkaConsumer
  lived : run (process.lifespan settings) .imported life = client
  consumesRequests : client.requestConsumer = some requestConsumer
  consumesReplies : client.replyConsumer = some replyConsumer

/-- The replicas of one deployment. -/
abbrev Fleet (settings : KafkaSettings) (n : Nat) := Fin n → Instance settings

namespace Fleet

/-- The two topics. -/
structure World (n : Nat) where
  requests : Topic (Fin n) Record
  replies : Topic (Fin n) Record

/-- What happens in the deployment. -/
inductive Event (n : Nat) where
  /-- Call `i` of `request_reply` at instance `a` sends its record. -/
  | request (a : Fin n) (i : Nat)
  | deliverRequest (offset : Nat) (b : Fin n)
  /-- The request consumer of instance `b` handles a record it has received. -/
  | handle (offset : Nat) (b : Fin n)
  | deliverReply (offset : Nat) (b : Fin n)

variable {settings : KafkaSettings} {n : Nat} (fleet : Fleet settings n)

/-- The group under which a replica reads the requests. -/
def requestGroup (a : Fin n) : String := (fleet a).requestConsumer.groupId

/-- The group under which a replica reads the replies. -/
def replyGroup (a : Fin n) : String := (fleet a).replyConsumer.groupId

/-- One event: the broker hands each record to one member of each group. -/
def step (w : World n) : Event n → World n
  | .request a i => { w with requests := w.requests.append ((fleet a).service.requestRecord i) }
  | .deliverRequest offset b => { w with requests := w.requests.deliver fleet.requestGroup offset b }
  | .handle offset b =>
    if (offset, b) ∈ w.requests.received then
      match w.requests.log[offset]?.map (fleet b).service.consumeRequest with
      | some (.ok (some reply)) => { w with replies := w.replies.append reply }
      | _ => w
    else w
  | .deliverReply offset b => { w with replies := w.replies.deliver fleet.replyGroup offset b }

def start (n : Nat) : World n := ⟨.empty, .empty⟩

/-- Every reply to a request of an instance has been delivered to that instance. -/
def RepliesArrive (w : World n) : Prop :=
  ∀ (offset : Nat) (reply : Record), w.replies.log[offset]? = some reply → ∀ (a : Fin n) (i : Nat),
    header reply.headers "correlation-id" = .ok (some ((fleet a).service.uuid4 i)) → (offset, a) ∈ w.replies.received

/-! ### Groups -/

theorem replyGroup_eq (a : Fin n) : fleet.replyGroup a = Messaging.replyGroup ((fleet a).process.id none) := by
  refine Process.reply_group (fleet a).process settings (fleet a).life ?_
  rw [(fleet a).lived]
  exact (fleet a).consumesReplies

/-- The groups are distinct exactly when the ids of `None` are. -/
theorem replyGroup_injective_iff :
    Function.Injective fleet.replyGroup ↔ Function.Injective fun a => (fleet a).process.id none := by
  constructor
  · intro h a b hid
    refine h ?_
    rw [replyGroup_eq, replyGroup_eq]
    exact congrArg Messaging.replyGroup hid
  · intro h a b hgroup
    rw [replyGroup_eq, replyGroup_eq] at hgroup
    exact h (replyGroup_injective hgroup)

/-! ### Runs -/

variable {fleet}

theorem once_step {w : World n} (h : w.replies.Once fleet.replyGroup) (e : Event n) :
    (fleet.step w e).replies.Once fleet.replyGroup := by
  cases e with
  | request a i => exact h
  | deliverRequest offset b => exact h
  | handle offset b =>
    simp only [step]
    split
    · split
      · exact Topic.once_append h _
      · exact h
    · exact h
  | deliverReply offset b => exact Topic.once_deliver h

theorem once_run (es : List (Event n)) : (run fleet.step (start n) es).replies.Once fleet.replyGroup := by
  have hmeets : Meets fleet.step (fun _ _ => True) (start n) es := meets_true _ _
  exact hmeets.run (P := fun w => w.replies.Once fleet.replyGroup) Topic.once_empty fun _ e h _ => once_step h e

/-- Replies delivered to each of the members in turn. -/
def deliverAll (offset : Nat) (members : List (Fin n)) : List (Event n) := members.map (.deliverReply offset)

theorem deliverAll_log {w : World n} {offset : Nat} {members : List (Fin n)} :
    (run fleet.step w (deliverAll offset members)).replies.log = w.replies.log := by
  refine run_eq (f := fun w : World n => w.replies.log) fun e he w => ?_
  obtain ⟨b, -, rfl⟩ := List.mem_map.mp he
  exact Topic.log_deliver

theorem deliverAll_received {w : World n} {offset : Nat} {members : List (Fin n)} {d : Nat × Fin n}
    (h : d ∈ w.replies.received) : d ∈ (run fleet.step w (deliverAll offset members)).replies.received := by
  induction members generalizing w with
  | nil => exact h
  | cons b members ih => exact ih (Topic.received_deliver h)

theorem deliverAll_covers {w : World n} {offset : Nat} {members : List (Fin n)} (hoffset : offset < w.replies.log.length)
    {a : Fin n} (ha : a ∈ members) : ∃ m, fleet.replyGroup m = fleet.replyGroup a ∧
      (offset, m) ∈ (run fleet.step w (deliverAll offset members)).replies.received := by
  induction members generalizing w with
  | nil => cases ha
  | cons b members ih =>
    rcases List.mem_cons.mp ha with rfl | ha
    · obtain ⟨m, hgroup, hm⟩ := Topic.deliver_covers fleet.replyGroup a hoffset
      exact ⟨m, hgroup, deliverAll_received (w := fleet.step w (.deliverReply offset a)) hm⟩
    · refine ih ?_ ha
      show offset < (w.replies.deliver fleet.replyGroup offset b).log.length
      rw [Topic.log_deliver]
      exact hoffset

/-! ### Every reply arrives -/

theorem repliesArrive_of_injective {w : World n} (hinj : Function.Injective fleet.replyGroup)
    (hcomplete : w.replies.Complete fleet.replyGroup) : fleet.RepliesArrive w := by
  intro offset reply hreply a i _
  obtain ⟨hoffset, -⟩ := List.getElem?_eq_some_iff.mp hreply
  exact hcomplete.received hinj hoffset a

/-- Instance `a` sends a request and answers it, and the broker gives the reply of its group to `b`. -/
def misrouted (a b : Fin n) : List (Event n) :=
  [.request a 0, .deliverRequest 0 a, .handle 0 a, .deliverReply 0 b] ++ deliverAll 0 (List.finRange n)

variable (fleet) in
theorem misrouted_log (a b : Fin n) : (run fleet.step (start n) (misrouted a b)).replies.log =
    [(fleet a).service.replyRecord ((fleet a).service.request 0) ((fleet a).service.uuid4 0)] := by
  rw [misrouted, run_append, deliverAll_log]
  simp [run, step, start, Topic.append, Topic.empty, Topic.deliver, Topic.Due, consumeRequest_requestRecord]

variable (fleet) in
theorem misrouted_received (a b : Fin n) : (0, b) ∈ (run fleet.step (start n) (misrouted a b)).replies.received := by
  rw [misrouted, run_append]
  refine deliverAll_received ?_
  simp [run, step, start, Topic.append, Topic.empty, Topic.deliver, Topic.Due, consumeRequest_requestRecord]

variable (fleet) in
theorem misrouted_complete (a b : Fin n) :
    (run fleet.step (start n) (misrouted a b)).replies.Complete fleet.replyGroup := by
  intro offset hoffset m
  rw [misrouted_log, List.length_singleton, Nat.lt_one_iff] at hoffset
  subst hoffset
  have hlog := misrouted_log fleet a b
  rw [misrouted, run_append] at hlog ⊢
  refine deliverAll_covers ?_ (List.mem_finRange m)
  rw [deliverAll_log] at hlog
  rw [hlog]
  exact Nat.one_pos

/-- Where two instances share a group, the reply to the one may go to the other. -/
theorem misrouted_lost {a b : Fin n} (hgroup : fleet.replyGroup a = fleet.replyGroup b) (hne : a ≠ b) :
    ¬fleet.RepliesArrive (run fleet.step (start n) (misrouted a b)) := by
  intro harrive
  have ha := harrive 0 _ (by rw [misrouted_log]; rfl) a 0 (header_replyRecord _ _)
  exact (once_run (misrouted a b)).not_received (misrouted_received fleet a b) hgroup.symm (Ne.symm hne) ha

/-- In every run of a fleet, once every group has every reply, each reply is at the instance that sent its
    request, exactly when `None` has another id in each of the processes. -/
theorem replies_arrive_iff (settings : KafkaSettings) (n : Nat) (fleet : Fleet settings n) :
    (∀ es : List (Event n), (run fleet.step (start n) es).replies.Complete fleet.replyGroup →
      fleet.RepliesArrive (run fleet.step (start n) es)) ↔ Function.Injective fun a => (fleet a).process.id none := by
  rw [← fleet.replyGroup_injective_iff]
  constructor
  · intro h a b hgroup
    by_contra hne
    exact misrouted_lost hgroup hne (h (misrouted a b) (misrouted_complete fleet a b))
  · intro hinj es hcomplete
    exact repliesArrive_of_injective hinj hcomplete

/-- The topics of the settings. -/
def defaultSettings : KafkaSettings := ⟨"customer.enrich.request", "customer.enrich.reply"⟩

/-- `None` comes first in the memory of the process. -/
def staticProcess : Process := ⟨fun object => object.elim 0 (· + 1), fun _ => Nat.succ_ne_zero _⟩

/-- Two replicas of one image, each in its own process; their `uuid4`s start with different letters. -/
def replicas : Fleet defaultSettings 2 := fun a =>
  { process := staticProcess
    service :=
      { adaService with
        uuid4 i := String.ofList ((if a = 0 then 'x' else 'y') :: List.replicate i 'a')
        uuid4_injective i j h := by
          have hlist := congrArg String.toList h
          simpa using congrArg List.length hlist }
    life := [.start none]
    client := staticProcess.startKafka defaultSettings none .imported
    requestConsumer := ⟨2, "customer.enrich.request", "iris-enrich-handler", "earliest"⟩
    replyConsumer := ⟨3, "customer.enrich.reply", Messaging.replyGroup 0, "latest"⟩
    lived := rfl
    consumesRequests := rfl
    consumesReplies := rfl }

theorem reply_to_the_other_replica :
    ¬∀ (settings : KafkaSettings) (n : Nat) (fleet : Fleet settings n) (es : List (Event n)),
    (run fleet.step (start n) es).replies.Complete fleet.replyGroup →
      fleet.RepliesArrive (run fleet.step (start n) es) := by
  intro h
  have hne : (0 : Fin 2) ≠ 1 := by decide
  have hgroup : replicas.replyGroup 0 = replicas.replyGroup 1 := rfl
  have harrive := h defaultSettings 2 replicas (misrouted 0 1) (misrouted_complete replicas 0 1)
  exact misrouted_lost hgroup hne harrive

end Fleet

end IrisService.Messaging
