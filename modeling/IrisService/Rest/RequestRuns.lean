import IrisService.Library.Runs
import IrisService.Rest.Asked
import IrisService.Rest.Statements
import IrisService.Rest.Steps

/-! A request that a store serves alone: it is answered, nothing but a 2xx answer comes with a commit, and the
    store keeps its constraints. -/

namespace IrisService.Rest
open ReadCommitted Runs

/-- The store after the first `n` steps of a request that it serves alone; `clock` is read at each step. -/
def Store.serve (store : Store) (request : Request) (clock : Nat → Clock) (n : Nat) : State :=
  run (Db.step program) (Db.start store.rows store.seq fun _ => request.open)
    ((List.range n).map fun k => .step 0 (clock k))

/-- The session of the request after `n` steps. -/
def Store.session (store : Store) (request : Request) (clock : Nat → Clock) (n : Nat) : Session :=
  ((store.serve request clock n).client 0).state

theorem serve_succ (store : Store) (request : Request) (clock : Nat → Clock) (n : Nat) :
    store.serve request clock (n + 1) = (store.serve request clock n).perform 0
      (act (clock n) (store.session request clock n) ((store.serve request clock n).view 0)) := by
  rw [Store.serve, List.range_succ, List.map_append, List.map_singleton, run_concat]
  rfl

/-! ### Answers -/

theorem Request.left_open (request : Request) : request.open.left ≤ 7 := by
  cases request <;> simp [Request.open, Session.left]

theorem Request.response?_open (request : Request) : request.open.response? = none := by
  cases request <;> rfl

section Proceeds
variable {v : View Row} {s s' : Session} {a : Action Row Session}

theorem Session.Moves.unanswered_before (h : s.Moves s') : s.response? = none := by
  rw [Option.eq_none_iff_forall_not_mem]
  intro r hr
  have hleft := h.left
  rw [left_eq_zero hr] at hleft
  exact Nat.not_lt_zero _ hleft

theorem Session.Ends.left_le {r : Response} (h : s.Ends s' r) (n : Nat) : s'.left ≤ n := by
  rw [h.left]
  exact Nat.zero_le n

theorem Session.Ends.answered {r : Response} (h : s.Ends s' r) : s'.response? ≠ none := by
  rw [h.response]
  exact Option.some_ne_none r

theorem Proceeds.visible (h : Proceeds v s a) : a.Visible v := by
  cases a with
  | write cs s' => exact h.1
  | _ => trivial

theorem Proceeds.request (h : Proceeds v s a) : a.All fun s' => s'.request? = s.request? := by
  cases a with
  | next s' =>
    rcases h with ⟨-, rfl⟩ | hmoves
    · rfl
    · exact hmoves.request
  | insert t row s' => exact fun id => (h id).1.request
  | write cs s' => exact h.2.1.request
  | commit s' =>
    obtain ⟨r, hends, -⟩ := h
    exact hends.request
  | rollback s' =>
    obtain ⟨r, hends, -⟩ := h
    exact hends.request

theorem Proceeds.left (h : Proceeds v s a) : a.All fun s' => s'.left ≤ s.left - 1 := by
  cases a with
  | next s' =>
    rcases h with ⟨hanswered, rfl⟩ | hmoves
    · obtain ⟨r, hr⟩ := Option.ne_none_iff_exists'.mp hanswered
      show s'.left ≤ s'.left - 1
      rw [left_eq_zero hr]
    · exact Nat.le_sub_one_of_lt hmoves.left
  | insert t row s' => exact fun id => Nat.le_sub_one_of_lt (h id).1.left
  | write cs s' => exact Nat.le_sub_one_of_lt h.2.1.left
  | commit s' =>
    obtain ⟨r, hends, -⟩ := h
    exact hends.left_le _
  | rollback s' =>
    obtain ⟨r, hends, -⟩ := h
    exact hends.left_le _

end Proceeds

/-! ### The store under the request -/

/-- Before the request is flushed or answered, its transaction sees the store it was called on. -/
def Session.Reads (store : Store) (v : View Row) (s : Session) : Prop :=
  s.response? = none → s.flushed = false → v = store.view

/-- Until the request is flushed its transaction sees the store, and until it is answered 2xx nothing is committed. -/
structure Serving (store : Store) (request : Request) (d : State) : Prop where
  alone : d.Alone 0
  request : (d.client 0).state.request? = some request
  reads : (d.client 0).state.Reads store (d.view 0)
  unchanged : (∀ r, (d.client 0).state.response? = some r → r.succeeded = false) → d.committed = store.rows
  committed : Migrated d.committed
  seen : Migrated (d.view 0).rows

namespace Serving
variable {store : Store} {request : Request} {d : State}

theorem start (store : Store) (request : Request) :
    Serving store request (Db.start store.rows store.seq fun _ => request.open) where
  alone := Db.Alone.start store.fresh
  request := request.request?_open
  reads _ _ := rfl
  unchanged _ := rfl
  committed := store.migrated
  seen := store.migrated

theorem request_ne_none (h : Serving store request d) : (d.client 0).state.request? ≠ none := by
  rw [h.request]
  simp

theorem seen_perform (h : Serving store request d) {a : Action Row Session} (ha : KeepsConstraints (d.view 0) a) :
    Migrated (d.perform 0 a).committed ∧ Migrated ((d.perform 0 a).view 0).rows := by
  cases a with
  | next s =>
    refine ⟨h.committed, ?_⟩
    simp only [Db.perform, Db.view_rows, Function.update_self]
    exact h.seen
  | insert t row s =>
    refine ⟨h.committed, ?_⟩
    simp only [Db.perform, Db.put, Db.view_rows, Function.update_self]
    rw [Writes.setAll_onto]
    exact ha
  | write cs s =>
    simp only [Db.perform]
    split
    · refine ⟨h.committed, ?_⟩
      simp only [Db.put, Db.view_rows, Function.update_self]
      rw [Writes.setAll_onto]
      exact ha
    · exact ⟨h.committed, h.seen⟩
  | commit s =>
    refine ⟨h.seen, ?_⟩
    simp only [Db.perform, Db.finish, Db.view_rows, Function.update_self]
    exact h.seen
  | rollback s =>
    refine ⟨h.committed, ?_⟩
    simp only [Db.perform, Db.finish, Db.view_rows, Function.update_self]
    exact h.committed

/-- Nothing is committed by a step that does not commit, if the request was not answered before. -/
theorem committed_perform (h : Serving store request d) {a : Action Row Session}
    (hopen : (d.client 0).state.response? = none) (ha : ∀ s, a ≠ .commit s) : (d.perform 0 a).committed = store.rows := by
  rw [Db.perform_committed ha]
  exact h.unchanged fun r hr => by
    rw [hopen] at hr
    cases hr

theorem unchanged_perform (h : Serving store request d) {a : Action Row Session}
    (ha : Proceeds (d.view 0) (d.client 0).state a)
    (hfail : ∀ r, ((d.perform 0 a).client 0).state.response? = some r → r.succeeded = false) :
    (d.perform 0 a).committed = store.rows := by
  cases a with
  | next s =>
    rcases ha with ⟨-, rfl⟩ | hmoves
    · simp only [Db.perform, Function.update_self] at hfail ⊢
      exact h.unchanged hfail
    · exact h.committed_perform hmoves.unanswered_before (by simp)
  | insert t row s => exact h.committed_perform (ha 0).1.unanswered_before (by simp)
  | write cs s => exact h.committed_perform ha.2.1.unanswered_before (by simp)
  | commit s =>
    obtain ⟨r, hends, hsucceeded, -⟩ := ha
    have hfailed := hfail r (by simp only [Db.perform, Db.finish, Function.update_self]; exact hends.response)
    rw [hsucceeded] at hfailed
    cases hfailed
  | rollback s =>
    obtain ⟨r, hends, -⟩ := ha
    exact h.committed_perform hends.unanswered (by simp)

theorem reads_perform (h : Serving store request d) {a : Action Row Session}
    (ha : Proceeds (d.view 0) (d.client 0).state a) :
    ((d.perform 0 a).client 0).state.Reads store ((d.perform 0 a).view 0) := by
  intro hopen hread
  cases a with
  | next s =>
    simp only [Db.perform, Function.update_self] at hopen hread
    have hview : (d.perform 0 (.next s)).view 0 = d.view 0 := by
      simp only [Db.perform, Db.view, Function.update_self]
    rw [hview]
    rcases ha with ⟨-, rfl⟩ | hmoves
    · exact h.reads hopen hread
    · refine h.reads hmoves.unanswered_before ?_
      rw [← Bool.not_eq_true]
      intro hflushed
      rw [hmoves.flushed hflushed] at hread
      cases hread
  | insert t row s =>
    simp only [Db.perform, Db.put, Function.update_self] at hread
    rw [(ha _).2] at hread
    cases hread
  | write cs s =>
    simp only [Db.perform, h.alone.all_writable (s := s) ha.visible, if_true, Db.put, Function.update_self] at hread
    rw [ha.2.2] at hread
    cases hread
  | commit s =>
    obtain ⟨r, hends, -⟩ := ha
    simp only [Db.perform, Db.finish, Function.update_self] at hopen
    exact absurd hopen hends.answered
  | rollback s =>
    obtain ⟨r, hends, -⟩ := ha
    simp only [Db.perform, Db.finish, Function.update_self] at hopen
    exact absurd hopen hends.answered

theorem perform (h : Serving store request d) (clock : Clock) :
    Serving store request (d.perform 0 (act clock (d.client 0).state (d.view 0))) := by
  have ha : Proceeds (d.view 0) (d.client 0).state (act clock (d.client 0).state (d.view 0)) :=
    act_proceeds h.request_ne_none
  have hkeeps := h.seen_perform (act_keepsConstraints clock h.seen (h.alone.wf.used 0) h.request_ne_none)
  exact {
    alone := h.alone.perform _
    request := (h.alone.perform_lands ha.visible ha.request).trans h.request
    reads := h.reads_perform ha
    unchanged := h.unchanged_perform ha
    committed := hkeeps.1
    seen := hkeeps.2 }

end Serving

section Served
variable (store : Store) (request : Request) (clock : Nat → Clock)

theorem serving (n : Nat) : Serving store request (store.serve request clock n) := by
  induction n with
  | zero => exact Serving.start store request
  | succ n ih =>
    rw [serve_succ]
    exact ih.perform (clock n)

/-- A property of where the handler stands that each of its steps keeps. -/
theorem session_induction {P : Session → Prop} (h0 : P request.open)
    (hstep : ∀ n, P (store.session request clock n) →
      (act (clock n) (store.session request clock n) ((store.serve request clock n).view 0)).All P) (n : Nat) :
    P (store.session request clock n) := by
  induction n with
  | zero => exact h0
  | succ n ih =>
    have h := serving store request clock n
    rw [Store.session, serve_succ]
    exact h.alone.perform_lands (act_proceeds h.request_ne_none).visible (hstep n ih)

theorem session_left (n : Nat) : (store.session request clock n).left ≤ 7 - n := by
  induction n with
  | zero => exact request.left_open
  | succ n ih =>
    have h := serving store request clock n
    have ha : Proceeds _ _ (act (clock n) (store.session request clock n) ((store.serve request clock n).view 0)) :=
      act_proceeds h.request_ne_none
    have hleft : (store.session request clock (n + 1)).left ≤ (store.session request clock n).left - 1 := by
      rw [Store.session, serve_succ]
      exact h.alone.perform_lands ha.visible ha.left
    omega

/-- Every request is answered, in seven steps at most. -/
theorem answered {n : Nat} (hn : 7 ≤ n) : ∃ r, (store.session request clock n).response? = some r := by
  have hleft := session_left store request clock n
  rw [Nat.sub_eq_zero_of_le hn, Nat.le_zero] at hleft
  exact Option.ne_none_iff_exists'.mp (answered_of_left (serving store request clock n).request_ne_none hleft)

end Served

/-- The store after the request. -/
def Store.after (store : Store) (request : Request) (clock : Nat → Clock) : Store where
  rows := (store.serve request clock 7).committed
  seq := (store.serve request clock 7).seq
  fresh t id hid := ((serving store request clock 7).alone.wf.fresh t id hid).1
  migrated := (serving store request clock 7).committed

end IrisService.Rest
