import IrisService.Customers.Create
import IrisService.Library.Stuttering

/-! `POST /customers` while Redis and Kafka are down: the buffer and the topic are best effort, and the rows and the
answers are those of a service that has neither. -/

namespace IrisService.Customers
open ReadCommitted Runs

/-! ### Without Redis and Kafka -/

/-- After the `flush` there is only the commit to come. -/
def Create.bare : Create → Create
  | .pushed dto | .buffered dto | .published dto => .flushed dto
  | st => st

/-- The session as that service has it. -/
def Session.bare (session : Session) : Session := ⟨session.body, session.at_.bare⟩

/-- The end of the session of a request that has inserted its row, after the response. -/
def endSession (d : Db Row Session) (i : Nat) (body : CustomerCreate) (dto : CustomerResponse) : Outcome → Db Row Session
  | .refused => d.perform i (.rollback ⟨body, .done (.created dto)⟩)
  | .ok | .lost => d.perform i (.commit ⟨body, .done (.created dto)⟩)

/-- `create_customer` inside `get_db_session` with nothing between the `flush` and the commit. -/
def bareStep (d : Db Row Session) : Event → Db Row Session
  | .abandon i =>
    let session := (d.client i).state
    match session.at_ with
    | .done _ => d
    | _ => d.perform i (.rollback ⟨session.body, .done (.raised "CancelledError")⟩)
  | .step i env =>
    let session := (d.client i).state
    match session.at_ with
    | .start => insertCustomer d i session.body env
    | .flushed dto | .pushed dto | .buffered dto | .published dto => endSession d i session.body dto env.outcome
    | .done _ => d

/-- How many answers of Redis and Kafka the request may still wait for. -/
def Create.announcements : Create → Nat
  | .flushed _ => 3
  | .pushed _ => 2
  | .buffered _ => 1
  | _ => 0

/-- The step waits for Redis or for Kafka. -/
def announces (w : World) : Event → Bool
  | .abandon _ => false
  | .step i _ => (w.db.client i).state.at_.announcements != 0

/-! ### Steps -/

section Steps
variable {d : Db Row Session} {w : World} {i : Nat} {env : Env}

theorem see_insertCustomer (body : CustomerCreate) :
    (insertCustomer d i body env).see Session.bare = insertCustomer (d.see Session.bare) i body env := by
  have hheld : emailHeld (d.see Session.bare) i body.email = emailHeld d i body.email := rfl
  simp only [insertCustomer, hheld, Db.see_view]
  split
  · exact Db.see_perform _
  · split
    · exact Db.see_perform _
    · split
      · rfl
      · exact Db.see_perform _

theorem see_endSession (body : CustomerCreate) (dto : CustomerResponse) (outcome : Outcome) :
    (endSession d i body dto outcome).see Session.bare = endSession (d.see Session.bare) i body dto outcome := by
  cases outcome <;> exact Db.see_perform _

/-- A step between the `flush` and the commit changes nothing but where the request stands. -/
theorem see_next {session : Session} (h : session.bare = (d.client i).state.bare) :
    (d.perform i (.next session)).see Session.bare = d.see Session.bare := by
  rw [Db.see_perform]
  simp only [Action.map, Db.perform, h]
  have hclient : Function.update (d.see Session.bare).client i
      ⟨(d.client i).state.bare, ((d.see Session.bare).client i).writes⟩ = (d.see Session.bare).client :=
    Function.update_eq_self i _
  rw [hclient]

theorem step_published {dto : CustomerResponse} (hat : (w.db.client i).state.at_ = .published dto) :
    (step w (.step i env)).db = endSession w.db i (w.db.client i).state.body dto env.outcome := by
  simp only [step, hat]
  cases env.outcome <;> rfl

end Steps

theorem step_hides : Hides step bareStep (fun w => w.db.see Session.bare) announces where
  rests w e h := by
    cases e with
    | abandon i => cases h
    | step i env =>
      cases hat : (w.db.client i).state.at_ with
      | flushed dto =>
        have hbare : ∀ st : Create, st.bare = .flushed dto →
            Session.bare ⟨(w.db.client i).state.body, st⟩ = (w.db.client i).state.bare := fun st hst => by
          simp only [Session.bare, hst, hat]
          rfl
        cases houtcome : env.outcome with
        | ok =>
          simp only [step, hat, houtcome]
          exact see_next (hbare (.pushed dto) rfl)
        | refused =>
          simp only [step, hat, houtcome]
          exact see_next (hbare (.buffered dto) rfl)
        | lost =>
          simp only [step, hat, houtcome]
          exact see_next (hbare (.buffered dto) rfl)
      | pushed dto =>
        simp only [step, hat]
        exact see_next (by simp only [Session.bare, hat]; rfl)
      | buffered dto =>
        simp only [step, hat]
        exact see_next (by simp only [Session.bare, hat]; rfl)
      | _ => simp [announces, hat, Create.announcements] at h
  moves w e h := by
    cases e with
    | abandon i =>
      cases hat : (w.db.client i).state.at_ with
      | done a =>
        have hbare : ((w.db.see Session.bare).client i).state.at_ = .done a := congrArg Create.bare hat
        simp only [step, hat, bareStep, hbare]
      | start =>
        have hbare : ((w.db.see Session.bare).client i).state.at_ = .start := congrArg Create.bare hat
        simp only [step, hat, bareStep, hbare]
        exact Db.see_perform _
      | flushed dto | pushed dto | buffered dto | published dto =>
        have hbare : ((w.db.see Session.bare).client i).state.at_ = .flushed dto := congrArg Create.bare hat
        simp only [step, hat, bareStep, hbare]
        exact Db.see_perform _
    | step i env =>
      cases hat : (w.db.client i).state.at_ with
      | start =>
        have hbare : ((w.db.see Session.bare).client i).state.at_ = .start := congrArg Create.bare hat
        simp only [step, hat, bareStep, hbare]
        exact see_insertCustomer _
      | published dto =>
        have hbare : ((w.db.see Session.bare).client i).state.at_ = .flushed dto := congrArg Create.bare hat
        rw [step_published hat]
        simp only [bareStep, hbare]
        exact see_endSession _ _ _
      | done a =>
        have hbare : ((w.db.see Session.bare).client i).state.at_ = .done a := congrArg Create.bare hat
        simp only [step, hat, bareStep, hbare]
      | _ => simp [announces, hat, Create.announcements] at h

/-! ### Getting over an announcement -/

/-- Redis and Kafka answer each request at each `await` as `servers` says. -/
def AnsweredBy (servers : Nat → Create → Env) (w : World) (e : Event) : Prop :=
  announces w e = true → ∃ i, e = .step i (servers i (w.db.client i).state.at_)

section Announcements
variable {servers : Nat → Create → Env} {w : World} {i : Nat} {env : Env}

theorem announcements_step (h : (w.db.client i).state.at_.announcements ≠ 0) :
    ((step w (.step i env)).db.client i).state.at_.announcements < (w.db.client i).state.at_.announcements := by
  cases hat : (w.db.client i).state.at_ with
  | flushed dto => cases houtcome : env.outcome <;> simp [step, hat, houtcome, Db.perform, Create.announcements]
  | pushed dto => simp [step, hat, Db.perform, Create.announcements]
  | buffered dto => simp [step, hat, Db.perform, Create.announcements]
  | _ => exact absurd (by rw [hat]; rfl) h

/-- Whatever Redis and Kafka answer, a request gets over them. -/
theorem exists_announced (servers : Nat → Create → Env) (w : World) (i : Nat) :
    ∃ es, Meets step (AnsweredBy servers) w es ∧ shown step announces w es = [] ∧
      ((run step w es).db.client i).state.at_.announcements = 0 := by
  induction hn : (w.db.client i).state.at_.announcements using Nat.strong_induction_on generalizing w with
  | _ n ih =>
    subst hn
    by_cases h : (w.db.client i).state.at_.announcements = 0
    · exact ⟨[], trivial, rfl, h⟩
    · let e : Event := .step i (servers i (w.db.client i).state.at_)
      have hhidden : announces w e = true := bne_iff_ne.mpr h
      obtain ⟨es, hmeets, hshown, hdone⟩ := ih _ (announcements_step h) (step w e) rfl
      refine ⟨e :: es, ⟨fun _ => ⟨i, rfl⟩, hmeets⟩, ?_, hdone⟩
      rw [shown, if_pos hhidden, hshown]

theorem exists_announcing (servers : Nat → Create → Env) (w : World) (e : Event) :
    ∃ es, Meets step (AnsweredBy servers) w es ∧ shown step announces w es = [e] := by
  cases e with
  | abandon i => exact ⟨[.abandon i], ⟨fun h => absurd h Bool.false_ne_true, trivial⟩, rfl⟩
  | step i env =>
    obtain ⟨es, hmeets, hshown, hdone⟩ := exists_announced servers w i
    have hvisible : announces (run step w es) (.step i env) = false := bne_eq_false_iff_eq.mpr hdone
    refine ⟨es ++ [.step i env], meets_append.mpr ⟨hmeets, fun h => ?_, trivial⟩, ?_⟩
    · rw [hvisible] at h
      cases h
    · rw [shown_append, hshown, shown, hvisible]
      rfl

end Announcements

/-- An outage of Redis or of Kafka cannot break the creation of a customer. Whatever they answer, the rows, the locks and
    the answers of a run are those of a service that has neither and takes the same other steps; and each run of that
    service is one of this service, whatever Redis and Kafka answer to it. -/
theorem create_survives_outages (stores : Stores) (bodies : Nat → CustomerCreate) :
    (∀ es, ∃ ds, ds.Sublist es ∧
      (run step (stores.serve bodies) es).db.see Session.bare = run bareStep (stores.serve bodies).db ds) ∧
    ∀ (servers : Nat → Create → Env) (ds : List Event), ∃ es, ds.Sublist es ∧
      Meets step (AnsweredBy servers) (stores.serve bodies) es ∧
        (run step (stores.serve bodies) es).db.see Session.bare = run bareStep (stores.serve bodies).db ds := by
  have hstart : (stores.serve bodies).db.see Session.bare = (stores.serve bodies).db := rfl
  have hrun : ∀ es, (run step (stores.serve bodies) es).db.see Session.bare =
      run bareStep (stores.serve bodies).db (shown step announces (stores.serve bodies) es) := fun es => by
    rw [← hstart]
    exact step_hides.see_run _ es
  refine ⟨fun es => ⟨_, shown_sublist _ es, hrun es⟩, fun servers ds => ?_⟩
  obtain ⟨es, hmeets, hshown⟩ := exists_shown (exists_announcing servers) (stores.serve bodies) ds
  refine ⟨es, ?_, hmeets, ?_⟩
  · rw [← hshown]
    exact shown_sublist _ es
  · rw [hrun, hshown]

end IrisService.Customers
