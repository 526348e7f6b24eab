import IrisService.Library.CommitLog
import IrisService.Rest.Conflicts

/-! Requests under load: any number of them on one store, in any order of steps, with the driver or the store refusing
statements and losing connections at any point. A request is answered when its handler returns, and committed after it:
what is committed has been answered 2xx, and what has been answered 2xx is committed unless its commit is refused.

A statement that meets the UNIQUE value of an uncommitted row waits or is refused, as the schedule has it. -/

namespace IrisService.Rest
open ReadCommitted Runs

/-- The store with one client for each request, none of them started. -/
def Store.load (store : Store) (requests : Nat → Request) : State :=
  Db.start store.rows store.seq fun i => (requests i).open

/-- The transactions that have committed in a run, in their order. -/
def Store.log (store : Store) (requests : Nat → Request) (es : List (Event Clock)) : List (Commit Row) :=
  (store.load requests).log program es

/-- The request is answered, and its commit is still to come. -/
def Session.ready (s : Session) : Bool := s.answer?.isSome && s.response?.isNone

/-- The requests whose commits a run refuses, in their order. -/
def Store.refusals (store : Store) (requests : Nat → Request) (es : List (Event Clock)) : List Nat :=
  (store.load requests).refusals program Session.ready es

/-- The request was answered 2xx, and its commit is over. -/
def Session.settled (s : Session) : Bool := s.response?.any Response.succeeded

/-! ### Answers -/

section Answers
variable {v : View Row} {clock : Clock} {s s' : Session} {a : Action Row Session} {r : Response}

/-- A handler that returns has succeeded. -/
theorem succeeded_of_ready (hs : s.request? ≠ none) (hopen : s.response? = none) (h : s.answer? = some r) :
    r.succeeded = true := by
  cases s with
  | other session =>
    cases session with
    | listLines orderId st => exact absurd rfl hs
    | mcpCreateOrder customerId st => exact absurd rfl hs
    | cancelOrder orderId st => exact absurd rfl hs
    | _ =>
      rename_i st
      cases st <;> cases h <;> first | rfl | cases hopen
  | _ =>
    rename_i st
    cases st <;> cases h <;> first | rfl | cases hopen

/-- What is left after the answer is the commit. -/
theorem handle_ready (hs : s.request? ≠ none) (hopen : s.response? = none) (h : s.answer? = some r) :
    ∃ s', handle clock s v = .commit s' ∧ s'.response? = some r := by
  cases s with
  | other session =>
    cases session with
    | listLines orderId st => exact absurd rfl hs
    | mcpCreateOrder customerId st => exact absurd rfl hs
    | cancelOrder orderId st => exact absurd rfl hs
    | _ =>
      rename_i st
      cases st <;> cases h <;> first | exact ⟨_, rfl, rfl⟩ | cases hopen
  | _ =>
    rename_i st
    cases st <;> cases h <;> first | exact ⟨_, rfl, rfl⟩ | cases hopen

/-- An answer that is sent is not taken back by the steps after it. -/
theorem act_keeps_answer (hs : s.request? ≠ none) (h : s.answer? = some r) :
    (act clock s v).All fun s' => s'.answer? = some r := by
  rw [act_of_binds (by rw [binds_of_answered h, Option.all_none])]
  cases hr : s.response? with
  | none =>
    obtain ⟨s', hcommit, hr'⟩ : ∃ s', handle clock s v = .commit s' ∧ s'.response? = some r := handle_ready hs hr h
    rw [hcommit]
    exact answer_of_response hr'
  | some r' =>
    rw [handle_of_answered clock v hs hr]
    exact h

/-- A request whose statement is refused: an answer that is sent stays, and there is none but the exception else. -/
theorem refused_cases (hs : s.request? ≠ none) :
    s.refused.request? = s.request? ∧
      (s.response? ≠ none ∧ s.refused = s ∨
        s.response? = none ∧ (∃ r, s.answer? = some r ∧ s.refused.response? = some r) ∨
        s.answer? = none ∧ ∃ r, s.refused.response? = some r ∧ r.succeeded = false ∧ r.escaped = some "DBAPIError") := by
  cases s with
  | other session =>
    cases session with
    | listLines orderId st => exact absurd rfl hs
    | mcpCreateOrder customerId st => exact absurd rfl hs
    | cancelOrder orderId st => exact absurd rfl hs
    | _ =>
      rename_i st
      cases st <;> first
        | exact ⟨rfl, Or.inl ⟨by simp [Session.response?, Orders.Session.reply?], rfl⟩⟩
        | exact ⟨rfl, Or.inr (Or.inl ⟨rfl, _, rfl, rfl⟩)⟩
        | exact ⟨rfl, Or.inr (Or.inr ⟨rfl, _, rfl, rfl, rfl⟩)⟩
  | _ =>
    rename_i st
    cases st <;> first
      | exact ⟨rfl, Or.inl ⟨by simp [Session.response?], rfl⟩⟩
      | exact ⟨rfl, Or.inr (Or.inl ⟨rfl, _, rfl, rfl⟩)⟩
      | exact ⟨rfl, Or.inr (Or.inr ⟨rfl, _, rfl, rfl, rfl⟩)⟩

theorem refused_request (hs : s.request? ≠ none) : s.refused.request? = s.request? := (refused_cases hs).1

theorem refused_keeps_answer (hs : s.request? ≠ none) (h : s.answer? = some r) : s.refused.answer? = some r := by
  rcases (refused_cases hs).2 with ⟨-, hsame⟩ | ⟨-, r', hr', hrefused⟩ | ⟨hnone, -⟩
  · rw [hsame]
    exact h
  · rw [h] at hr'
    cases hr'
    exact answer_of_response hrefused
  · rw [h] at hnone
    cases hnone

end Answers

/-! ### Commits -/

section Over
variable {v : View Row} {s s' : Session} {a : Action Row Session}

theorem settled_of_unanswered (h : s.response? = none) : s.settled = false := by
  rw [Session.settled, h]
  rfl

theorem Session.settled_iff : s.settled = true ↔ ∃ r, s.response? = some r ∧ r.succeeded = true := by
  rw [Session.settled, Option.any_eq_true]

theorem Session.ready_iff : s.ready = true ↔ s.answer? ≠ none ∧ s.response? = none := by
  rw [Session.ready, Bool.and_eq_true, Option.isSome_iff_ne_none, Option.isNone_iff_eq_none]

theorem Session.Ends.settled {r : Response} (h : s.Ends s' r) : s'.settled = r.succeeded := by
  rw [Session.settled, h.response]
  rfl

theorem Session.Moves.settled (h : s.Moves s') : s'.settled = s.settled := by
  rw [settled_of_unanswered h.unanswered, settled_of_unanswered h.unanswered_before]

theorem Proceeds.settles (h : Proceeds v s a) : a.Settles Session.settled s := by
  cases a with
  | next s' =>
    rcases h with ⟨-, rfl⟩ | hmoves
    · rfl
    · exact hmoves.settled
  | insert t row s' => exact fun id => (h id).1.settled
  | write cs s' => exact h.2.1.settled
  | commit s' =>
    obtain ⟨r, hends, hsucceeded, -⟩ := h
    exact ⟨settled_of_unanswered hends.unanswered, by rw [hends.settled, hsucceeded]⟩
  | rollback s' =>
    obtain ⟨r, hends, hfailed, -⟩ := h
    rw [Action.Settles, hends.settled, hfailed, settled_of_unanswered hends.unanswered]

theorem refused_settled (hs : s.request? ≠ none) : s.refused.settled = (s.settled || s.ready) := by
  rcases (refused_cases hs).2 with ⟨hanswered, hsame⟩ | ⟨hopen, r, hr, hrefused⟩ | ⟨hnone, r, hr, hfailed, -⟩
  · have hready : s.ready = false := by
      rw [← Bool.not_eq_true, Session.ready_iff]
      exact fun h => hanswered h.2
    rw [hsame, hready, Bool.or_false]
  · rw [Session.settled, hrefused, Option.any_some, succeeded_of_ready hs hopen hr, Session.ready, hr, hopen]
    exact (Bool.or_true _).symm
  · have hopen : s.response? = none := by
      rw [Option.eq_none_iff_forall_not_mem]
      intro r' hr'
      rw [answer_of_response hr'] at hnone
      cases hnone
    rw [Session.settled, hr, Option.any_some, hfailed, settled_of_unanswered hopen, Session.ready, hnone]
    rfl

end Over

/-! ### Runs -/

theorem program_settles : program.Settles (fun s => s.request? ≠ none) Session.ready Session.settled where
  act _ _ _ hs := (act_proceeds hs).settles
  act_keeps _ s _ hs := (act_proceeds hs).request.imp fun s' hs' => by rwa [hs']
  ready_open _ _ h := settled_of_unanswered (Session.ready_iff.mp h).2
  fail _ hs := refused_settled hs
  fail_keeps s hs := by
    show s.refused.request? ≠ none
    rwa [refused_request hs]

section Load
variable (store : Store) (requests : Nat → Request) (es : List (Event Clock))

/-- The session of a request after the events. -/
def Store.loaded (i : Nat) : Session := ((run (Db.step program) (store.load requests) es).client i).state

theorem load_settled :
    (run (Db.step program) (store.load requests) es).Settled Session.settled
        ((store.log requests es).map Commit.client ++ store.refusals requests es) ∧
      ∀ i, (store.loaded requests es i).request? ≠ none :=
  program_settles.settled_run (d := store.load requests) (fun i => by simp [Store.load, Db.start])
    (fun i => settled_of_unanswered (requests i).response?_open) es

/-- An answer is not taken back. -/
theorem loaded_answer {i : Nat} {r : Response} (h : (store.loaded requests es i).answer? = some r)
    (es' : List (Event Clock)) : (store.loaded requests (es ++ es') i).answer? = some r := by
  induction es' using List.reverseRecOn with
  | nil => rwa [List.append_nil]
  | append_singleton es' e ih =>
    have hs := (load_settled store requests (es ++ es')).2 i
    rw [Store.loaded, ← List.append_assoc, run_concat]
    by_cases hne : i = e.client
    · subst hne
      cases e with
      | fail i =>
        exact Db.perform_state (P := fun s : Session => s.answer? = some r) (a := .rollback _) ih
          (refused_keeps_answer hs ih)
      | step i clock => exact Db.perform_state (P := fun s : Session => s.answer? = some r) ih (act_keeps_answer hs ih)
    · rw [Db.step_client_of_ne hne]
      exact ih

end Load

/-- However the requests interleave, whatever the store refuses and whatever connections are lost: the committed rows
    are the first ones with the changes of the committed requests made one after the other, each of them once; they are
    requests that have been answered 2xx; and a request that has been answered 2xx is committed, still to commit or one
    whose commit was refused, which leaves nothing behind. An answer is not taken back. -/
theorem load_atomic (store : Store) (requests : Nat → Request) (es : List (Event Clock)) :
    (run (Db.step program) (store.load requests) es).committed = replay store.rows (store.log requests es) ∧
      ((store.log requests es).map Commit.client).Nodup ∧
      (∀ i ∈ (store.log requests es).map Commit.client,
        i ∉ store.refusals requests es ∧
          ∃ r, (store.loaded requests es i).answer? = some r ∧ r.succeeded = true) ∧
      (∀ i r, (store.loaded requests es i).answer? = some r → r.succeeded = true →
        i ∈ (store.log requests es).map Commit.client ∨ i ∈ store.refusals requests es ∨
          (store.loaded requests es i).ready = true) ∧
      ∀ i r, (store.loaded requests es i).answer? = some r →
        ∀ es', (store.loaded requests (es ++ es') i).answer? = some r := by
  obtain ⟨hsettled, -⟩ := load_settled store requests es
  obtain ⟨hlog, -, happart⟩ := List.nodup_append.mp hsettled.once
  refine ⟨Db.committed_run _ es, hlog,
    fun i hi => ⟨fun hrefused => happart i hi i hrefused rfl, ?_⟩, fun i r hr hsucceeded => ?_,
    fun i r hr => loaded_answer store requests es hr⟩
  · obtain ⟨r, hr, hsucceeded⟩ := Session.settled_iff.mp ((hsettled.mem i).mp (List.mem_append_left _ hi))
    exact ⟨r, answer_of_response hr, hsucceeded⟩
  · cases hopen : (store.loaded requests es i).response? with
    | none =>
      refine Or.inr (Or.inr (Session.ready_iff.mpr ⟨?_, hopen⟩))
      rw [hr]
      exact Option.some_ne_none r
    | some r' =>
      have hsame : some r' = some r := (answer_of_response hopen).symm.trans hr
      cases hsame
      have hmem := (hsettled.mem i).mpr (Session.settled_iff.mpr ⟨r, hopen, hsucceeded⟩)
      rw [List.mem_append] at hmem
      rcases hmem with hi | hi
      · exact Or.inl hi
      · exact Or.inr (Or.inl hi)

end IrisService.Rest
