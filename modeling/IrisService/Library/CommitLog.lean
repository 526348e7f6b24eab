import IrisService.Library.CommitHistory

/-! The log of a run: the transactions that have committed, each with its changes.

The committed rows are the first ones with the log replayed on them. What a transaction does to the rows it sees may
be bounded by a footprint; as it has locked what it has changed, the footprint then bounds what its commit does. -/

namespace ReadCommitted
open Runs

variable {T : Type} {Row : T → Type} {S ε : Type}

/-- A transaction that has committed, with its changes. -/
structure Commit (Row : T → Type) where
  client : Nat
  writes : Writes Row

/-- The rows after the transactions of the log, one after the other. -/
def replay (rows : Rows Row) (log : List (Commit Row)) : Rows Row := log.foldl (fun rows c => c.writes.onto rows) rows

namespace Db

/-- The transaction that the event commits. -/
def commit? (p : Program Row S ε) (d : Db Row S) : Event ε → Option (Commit Row)
  | .step i e => match p.act e (d.client i).state (d.view i) with
    | .commit _ => some ⟨i, (d.client i).writes⟩
    | _ => none
  | .fail _ => none

theorem commit?_cases (p : Program Row S ε) (d : Db Row S) (e : Event ε) :
    d.commit? p e = none ∧ (∀ i ε, e = .step i ε → ∀ s, p.act ε (d.client i).state (d.view i) ≠ .commit s) ∨
      ∃ i ε s, e = .step i ε ∧ p.act ε (d.client i).state (d.view i) = .commit s ∧
        d.commit? p e = some ⟨i, (d.client i).writes⟩ := by
  cases e with
  | fail i => exact Or.inl ⟨rfl, fun j ε h => by cases h⟩
  | step i ε =>
    cases ha : p.act ε (d.client i).state (d.view i) with
    | commit s => exact Or.inr ⟨i, ε, s, rfl, ha, by simp only [commit?, ha]⟩
    | _ =>
      refine Or.inl ⟨by simp only [commit?, ha], fun j ε' h s => ?_⟩
      cases h
      rw [ha]
      simp

variable [DecidableEq T]

/-- The log of the run. -/
def log (p : Program Row S ε) : Db Row S → List (Event ε) → List (Commit Row)
  | _, [] => []
  | d, e :: es => (d.commit? p e).toList ++ log p (d.step p e) es

variable {p : Program Row S ε} {d : Db Row S} {es : List (Event ε)}

theorem log_concat (d : Db Row S) (es : List (Event ε)) (e : Event ε) :
    d.log p (es ++ [e]) = d.log p es ++ ((run (Db.step p) d es).commit? p e).toList := by
  induction es generalizing d with
  | nil => simp [log, run]
  | cons e' es ih => simp [log, run, ih]

theorem committed_step (d : Db Row S) (e : Event ε) :
    (d.step p e).committed = replay d.committed (d.commit? p e).toList := by
  rcases d.commit?_cases p e with ⟨hnone, hact⟩ | ⟨i, ε, s, rfl, hact, hsome⟩
  · rw [hnone]
    cases e with
    | fail i => rfl
    | step i ε => exact perform_committed (hact i ε rfl)
  · rw [hsome]
    simp only [Db.step, hact]
    rfl

/-- The committed rows are the first ones with the log replayed on them. -/
theorem committed_run (d : Db Row S) (es : List (Event ε)) :
    (run (Db.step p) d es).committed = replay d.committed (d.log p es) := by
  induction es generalizing d with
  | nil => rfl
  | cons e es ih =>
    rw [run, ih, log, replay, replay, List.foldl_append, committed_step]
    rfl

end Db

/-! ### Transactions that end once

`ready` tells the states of a client that has nothing left but its commit, and `settled` those in which that commit is
over: the transaction is in the log, or the store has refused it. -/

namespace Db

/-- The client whose commit the event refuses. -/
def refusal? (ready : S → Bool) (d : Db Row S) : Event ε → Option Nat
  | .step _ _ => none
  | .fail i => if ready (d.client i).state then some i else none

/-- The clients whose commits a run refuses. -/
def refusals [DecidableEq T] (p : Program Row S ε) (ready : S → Bool) : Db Row S → List (Event ε) → List Nat
  | _, [] => []
  | d, e :: es => (d.refusal? ready e).toList ++ refusals p ready (d.step p e) es

theorem refusals_concat [DecidableEq T] {p : Program Row S ε} {ready : S → Bool} (d : Db Row S) (es : List (Event ε))
    (e : Event ε) :
    d.refusals p ready (es ++ [e]) = d.refusals p ready es ++ ((run (Db.step p) d es).refusal? ready e).toList := by
  induction es generalizing d with
  | nil => simp [refusals, run]
  | cons e' es ih => simp [refusals, run, ih]

end Db

/-- Only a commit makes the transaction be over. -/
def Action.Settles (settled : S → Bool) (s : S) : Action Row S → Prop
  | .commit s' => settled s = false ∧ settled s' = true
  | .next s' | .write _ s' | .rollback s' => settled s' = settled s
  | .insert _ _ s' => ∀ id, settled (s' id) = settled s

/-- In the states that meet `I` the commit of a client is over once it is made or refused. -/
structure Program.Settles (p : Program Row S ε) (I : S → Prop) (ready settled : S → Bool) : Prop where
  act : ∀ e s v, I s → (p.act e s v).Settles settled s
  act_keeps : ∀ e s v, I s → (p.act e s v).All I
  ready_open : ∀ s, I s → ready s = true → settled s = false
  fail : ∀ s, I s → settled (p.fail s) = (settled s || ready s)
  fail_keeps : ∀ s, I s → I (p.fail s)

/-- The clients whose commit is over, each once. -/
structure Db.Settled (settled : S → Bool) (ended : List Nat) (d : Db Row S) : Prop where
  once : ended.Nodup
  mem : ∀ i, i ∈ ended ↔ settled (d.client i).state = true

section Settled
variable [DecidableEq T] {p : Program Row S ε} {I : S → Prop} {ready settled : S → Bool} {d : Db Row S} {ended : List Nat}
  {i : Nat} {a : Action Row S}

theorem Db.perform_settled (ha : a.Settles settled (d.client i).state) (hcommit : ∀ s, a ≠ .commit s) :
    settled ((d.perform i a).client i).state = settled (d.client i).state := by
  cases a with
  | commit s => exact absurd rfl (hcommit s)
  | insert t row s =>
    simp only [perform, put, Function.update_self]
    exact ha (d.seq t)
  | write cs s =>
    simp only [perform]
    split
    · simp only [put, Function.update_self]
      exact ha
    · rfl
  | _ =>
    simp only [perform, finish, Function.update_self]
    exact ha

theorem Db.Settled.perform_of_ne (h : d.Settled settled ended)
    (hsettled : settled ((d.perform i a).client i).state = settled (d.client i).state) :
    (d.perform i a).Settled settled ended where
  once := h.once
  mem j := by
    rw [h.mem]
    by_cases hne : j = i
    · rw [hne, hsettled]
    · rw [perform_client_of_ne hne]

theorem Db.Settled.end (h : d.Settled settled ended) (hs : settled (d.client i).state = false)
    (hs' : settled ((d.perform i a).client i).state = true) : (d.perform i a).Settled settled (i :: ended) := by
  refine ⟨List.nodup_cons.mpr ⟨fun hi => ?_, h.once⟩, fun j => ?_⟩
  · rw [h.mem, hs] at hi
    cases hi
  · rw [List.mem_cons, h.mem]
    by_cases hne : j = i
    · subst hne
      simp [hs']
    · rw [perform_client_of_ne hne]
      simp [hne]

omit [DecidableEq T] in
theorem Db.Settled.perm {ended' : List Nat} (h : d.Settled settled ended) (hperm : ended.Perm ended') :
    d.Settled settled ended' where
  once := hperm.nodup_iff.mp h.once
  mem i := by
    rw [← hperm.mem_iff]
    exact h.mem i

/-- Every refused commit and every one that is in the log is over, and there are no others. -/
theorem Program.Settles.step (hp : p.Settles I ready settled) (hI : ∀ i, I (d.client i).state) {log refused : List Nat}
    (h : d.Settled settled (log ++ refused)) (e : Event ε) :
    (d.step p e).Settled settled ((log ++ ((d.commit? p e).map Commit.client).toList) ++
      (refused ++ (d.refusal? ready e).toList)) := by
  cases e with
  | fail i =>
    have hfail := hp.fail _ (hI i)
    have hstate : settled ((d.perform i (.rollback (p.fail (d.client i).state))).client i).state =
        settled (p.fail (d.client i).state) := by simp only [Db.perform, Db.finish, Function.update_self]
    cases hready : ready (d.client i).state with
    | false =>
      rw [hready, Bool.or_false] at hfail
      simp only [Db.commit?, Db.refusal?, hready, Bool.false_eq_true, if_false, Option.map_none, Option.toList_none,
        List.append_nil]
      exact h.perform_of_ne (hstate.trans hfail)
    | true =>
      have hopen := hp.ready_open _ (hI i) hready
      rw [hready, Bool.or_true] at hfail
      refine (h.end (a := .rollback _) hopen (hstate.trans hfail)).perm ?_
      simp only [Db.commit?, Db.refusal?, hready, if_true, Option.map_none, Option.toList_none, Option.toList_some,
        List.append_nil]
      rw [← List.append_assoc]
      exact List.perm_append_singleton i _ |>.symm
  | step i ε =>
    have ha := hp.act ε _ (d.view i) (hI i)
    rcases Db.commit?_cases p d (.step i ε) with ⟨hnone, hact⟩ | ⟨j, ε', s, he, hact, hsome⟩
    · rw [hnone]
      simp only [Db.refusal?, Option.map_none, Option.toList_none, List.append_nil]
      exact h.perform_of_ne (Db.perform_settled ha (hact i ε rfl))
    · cases he
      rw [hact] at ha
      rw [hsome]
      simp only [Db.step, hact]
      refine (h.end (a := .commit s) ha.1 ?_).perm ?_
      · simp only [Db.perform, Db.finish, Function.update_self]
        exact ha.2
      · simp only [Db.refusal?, Option.map_some, Option.toList_none, Option.toList_some, List.append_nil]
        rw [List.append_assoc, List.singleton_append]
        exact List.perm_middle.symm

/-- In every run the transactions of the log and the refused commits are those that are over, each of them once. -/
theorem Program.Settles.settled_run (hp : p.Settles I ready settled) (hI : ∀ i, I (d.client i).state)
    (hstart : ∀ i, settled (d.client i).state = false) (es : List (Event ε)) :
    (run (Db.step p) d es).Settled settled ((d.log p es).map Commit.client ++ d.refusals p ready es) ∧
      ∀ i, I ((run (Db.step p) d es).client i).state := by
  refine run_induction (P := fun es (d' : Db Row S) =>
      d'.Settled settled ((d.log p es).map Commit.client ++ d.refusals p ready es) ∧ ∀ i, I (d'.client i).state)
    ⟨⟨List.nodup_nil, fun i => ?_⟩, hI⟩ (fun es e ih => ?_) es
  · simp [Db.log, Db.refusals, hstart i]
  · obtain ⟨hsettled, hkeeps⟩ := ih
    refine ⟨?_, fun j => ?_⟩
    · rw [Db.log_concat, Db.refusals_concat, List.map_append, ← Option.toList_map]
      exact hp.step hkeeps hsettled e
    · by_cases hne : j = e.client
      · subst hne
        cases e with
        | fail i => exact Db.perform_state (a := .rollback _) (hkeeps i) (hp.fail_keeps _ (hkeeps i))
        | step i ε => exact Db.perform_state (hkeeps i) (hp.act_keeps ε _ _ (hkeeps i))
      · rw [Db.step_client_of_ne hne]
        exact hkeeps j

end Settled

/-! ### Footprints -/

/-- The rows that a transaction may insert, the changes that it may make to a row, and the rows that it may delete. -/
structure Footprint (Row : T → Type) where
  inserts : (t : T) → Row t → Prop
  updates : (t : T) → Nat → Row t → Row t → Prop
  deletes : (t : T) → Nat → Row t → Prop
  insert_update : ∀ t id r r', inserts t r → updates t id r r' → inserts t r'
  update_update : ∀ t id r r' r'', updates t id r r' → updates t id r' r'' → updates t id r r''
  update_delete : ∀ t id r r', updates t id r r' → deletes t id r' → deletes t id r

/-- From the one version of a row to the other. -/
inductive Footprint.Allows (F : Footprint Row) (t : T) (id : Nat) : Option (Row t) → Option (Row t) → Prop
  | same (x) : Allows F t id x x
  | insert {r} (h : F.inserts t r) : Allows F t id none (some r)
  | update {r r'} (h : F.updates t id r r') : Allows F t id (some r) (some r')
  | delete {r} (h : F.deletes t id r) : Allows F t id (some r) none

def Footprint.none : Footprint Row where
  inserts _ _ := False
  updates _ _ _ _ := False
  deletes _ _ _ := False
  insert_update _ _ _ _ h := h.elim
  update_update _ _ _ _ _ h := h.elim
  update_delete _ _ _ _ h := h.elim

/-- The statement leaves each row in a version that the footprint allows. -/
def Action.Within (F : Footprint Row) (v : View Row) : Action Row S → Prop
  | .insert t row _ => ∀ id, F.inserts t (row id)
  | .write cs _ => ∀ c ∈ cs, F.Allows c.table c.id (v.rows c.table c.id) c.row
  | _ => True

theorem Action.within_map {S' : Type} {f : S → S'} {F : Footprint Row} {v : View Row} {a : Action Row S} :
    (a.map f).Within F v ↔ a.Within F v := by
  cases a <;> rfl

/-- Versions of a visible row are allowed one after the other. -/
theorem Footprint.Allows.trans {F : Footprint Row} {t : T} {id : Nat} {x z : Option (Row t)} {r : Row t}
    (h : F.Allows t id x (some r)) (h' : F.Allows t id (some r) z) : F.Allows t id x z := by
  cases h' with
  | same => exact h
  | update hr' => cases h with
    | same => exact .update hr'
    | insert hr => exact .insert (F.insert_update _ _ _ _ hr hr')
    | update hr => exact .update (F.update_update _ _ _ _ _ hr hr')
  | delete hr' => cases h with
    | same => exact .delete hr'
    | insert hr => exact .same Option.none
    | update hr => exact .delete (F.update_delete _ _ _ _ hr hr')

/-- The change that a row holds is one of those made to it. -/
theorem Writes.change_of_setAll [DecidableEq T] {w : Writes Row} {cs : List (Change Row)} {t : T} {id : Nat}
    {x : Option (Row t)} (h : w.setAll cs t id = some x) : ⟨t, id, x⟩ ∈ cs ∨ w t id = some x := by
  induction cs generalizing w with
  | nil => exact Or.inr h
  | cons c cs ih =>
    rcases ih h with hmem | hset
    · exact Or.inl (List.mem_cons_of_mem c hmem)
    · by_cases hat : c.At t id
      · obtain ⟨t', id', row⟩ := c
        obtain ⟨rfl, rfl⟩ := hat
        rw [set_self, Option.some.injEq] at hset
        exact Or.inl (by rw [hset]; exact List.mem_cons_self)
      · exact Or.inr (by rwa [set_of_not_at hat] at hset)

namespace Db

/-- What each client sees of a row differs from what is committed as its footprint allows. -/
structure Confined (F : S → Footprint Row) (d : Db Row S) : Prop where
  wf : d.Wf
  allows : ∀ i t id, (F (d.client i).state).Allows t id (d.committed t id) ((d.view i).rows t id)

namespace Confined
variable {F : S → Footprint Row} {d : Db Row S} {i : Nat} {a : Action Row S}

theorem start {committed : Rows Row} {seq : T → Nat} {state : Nat → S}
    (h : ∀ t id, seq t ≤ id → committed t id = Option.none) :
    (Db.start committed seq state).Confined F :=
  ⟨Wf.start h, fun _ _ _ => .same _⟩

variable [DecidableEq T]

/-- The versions that a statement leaves. -/
theorem allows_put (h : d.Confined F) {G : Footprint Row} (hG : F (d.client i).state = G) {cs : List (Change Row)}
    (hcs : ∀ c ∈ cs, G.Allows c.table c.id ((d.view i).rows c.table c.id) c.row ∧
      ((d.view i).rows c.table c.id).isSome = true) (t : T) (id : Nat) :
    G.Allows t id (d.committed t id) (((d.client i).writes.setAll cs).onto d.committed t id) := by
  have hbefore := h.allows i t id
  rw [hG] at hbefore
  rw [Writes.setAll_onto]
  cases hw : (Writes.empty : Writes Row).setAll cs t id with
  | none =>
    rw [Writes.onto_of_none hw]
    exact hbefore
  | some x =>
    rw [Writes.onto_of_some hw]
    rcases Writes.change_of_setAll hw with hmem | hempty
    · obtain ⟨hallows, hsome⟩ := hcs _ hmem
      obtain ⟨r, hr⟩ := Option.isSome_iff_exists.mp hsome
      simp only at hr hallows
      rw [hr] at hallows
      simp only [view_rows] at hr
      simp only [view_rows, hr] at hbefore
      exact hbefore.trans hallows
    · cases hempty

/-- What the other clients have changed is theirs, and what they have not changed they see committed. -/
theorem perform_of_ne (h : d.Confined F) {j : Nat} (hne : j ≠ i) (t : T) (id : Nat) :
    (F ((d.perform i a).client j).state).Allows t id ((d.perform i a).committed t id)
    (((d.perform i a).view j).rows t id) := by
  have hallows := h.allows j t id
  simp only [view_rows, perform_client_of_ne hne] at hallows ⊢
  cases hw : (d.client j).writes t id with
  | none =>
    rw [Writes.onto_of_none hw]
    exact .same _
  | some x =>
    rw [h.wf.committed_of_writes (by rw [hw]; simp) hne, Writes.onto_of_some hw]
    rw [Writes.onto_of_some hw] at hallows
    exact hallows

theorem perform_self (h : d.Confined F) {G : Footprint Row} (hG : F (d.client i).state = G) (ha : a.Within G (d.view i))
    (t : T) (id : Nat) :
    G.Allows t id ((d.perform i a).committed t id) (((d.perform i a).view i).rows t id) := by
  have hbefore := h.allows i t id
  rw [hG] at hbefore
  cases a with
  | next s => simpa only [Db.perform, view_rows, Function.update_self] using hbefore
  | insert t' row s =>
    simp only [Db.perform, view_rows, Db.put, Function.update_self, Writes.setAll_cons, Writes.setAll_nil]
    by_cases hat : (⟨t', d.seq t', some (row (d.seq t'))⟩ : Change Row).At t id
    · obtain ⟨rfl, rfl⟩ := hat
      rw [Writes.onto_of_some Writes.set_self, (h.wf.fresh _ _ (Nat.le_refl _)).1]
      exact .insert (ha _)
    · have hkeep : ∀ rows : Rows Row, ((d.client i).writes.set ⟨t', d.seq t', some (row (d.seq t'))⟩).onto rows t id =
          (d.client i).writes.onto rows t id := fun rows => by
        simp only [Writes.onto, Writes.set_of_not_at hat]
      rw [hkeep]
      exact hbefore
  | write cs s =>
    simp only [Db.perform]
    split
    · rename_i hall
      simp only [view_rows, Db.put, Function.update_self]
      refine allows_put h hG (fun c hc => ⟨ha c hc, ?_⟩) t id
      have hwritable := List.all_eq_true.mp hall c hc
      simp only [writable, Bool.and_eq_true] at hwritable
      exact hwritable.1
    · exact hbefore
  | commit s =>
    simp only [Db.perform, view_rows, Db.finish, Function.update_self, Writes.onto_empty]
    exact .same _
  | rollback s =>
    simp only [Db.perform, view_rows, Db.finish, Function.update_self, Writes.onto_empty]
    exact .same _

theorem perform (h : d.Confined F) (ha : a.Within (F (d.client i).state) (d.view i))
    (hkeep : a.All fun s => F s = F (d.client i).state) : (d.perform i a).Confined F where
  wf := h.wf.perform a
  allows j t id := by
    by_cases hne : j = i
    · subst hne
      have hstate : F ((d.perform j a).client j).state = F (d.client j).state :=
        perform_state (P := fun s => F s = F (d.client j).state) rfl hkeep
      rw [hstate]
      exact h.perform_self rfl ha t id
    · exact h.perform_of_ne hne t id

end Confined

/-- A step changes committed rows only within the footprint of its client. -/
theorem Confined.committed_step [DecidableEq T] {F : S → Footprint Row} {d : Db Row S} (h : d.Confined F)
    (p : Program Row S ε) (e : Event ε) (t : T) (id : Nat) :
    (F (d.client e.client).state).Allows t id (d.committed t id) ((d.step p e).committed t id) := by
  rcases step_committed_cases p d e with hsame | ⟨i, ε, s, rfl, -, hcommit⟩
  · rw [hsame]
    exact .same _
  · rw [hcommit]
    exact h.allows i t id

end Db

/-- In the states that meet `I` each statement keeps within the footprint of its client, which stays as it is. -/
structure Program.Confines (p : Program Row S ε) (I : S → Prop) (F : S → Footprint Row) : Prop where
  within : ∀ e s v, I s → (p.act e s v).Within (F s) v
  act_keeps : ∀ e s v, I s → (p.act e s v).All fun s' => I s' ∧ F s' = F s
  fail_keeps : ∀ s, I s → I (p.fail s) ∧ F (p.fail s) = F s

section Confines
variable [DecidableEq T] {p : Program Row S ε} {I : S → Prop} {F : S → Footprint Row} {d : Db Row S}

theorem Db.Confined.step (h : d.Confined F) (hp : p.Confines I F) (hI : ∀ i, I (d.client i).state) (e : Event ε) :
    (d.step p e).Confined F ∧ (∀ i, I ((d.step p e).client i).state) ∧
      ∀ i, F ((d.step p e).client i).state = F (d.client i).state := by
  have hstate : ∀ i, I ((d.step p e).client i).state ∧ F ((d.step p e).client i).state = F (d.client i).state := by
    intro i
    by_cases hne : i = e.client
    · subst hne
      cases e with
      | step i e =>
        exact Db.perform_state (P := fun s => I s ∧ F s = F (d.client i).state) ⟨hI i, rfl⟩ (hp.act_keeps e _ _ (hI i))
      | fail i =>
        exact Db.perform_state (P := fun s => I s ∧ F s = F (d.client i).state) (a := .rollback _) ⟨hI i, rfl⟩
          (hp.fail_keeps _ (hI i))
    · rw [Db.step_client_of_ne hne]
      exact ⟨hI i, rfl⟩
  refine ⟨?_, fun i => (hstate i).1, fun i => (hstate i).2⟩
  cases e with
  | step i e => exact h.perform (hp.within e _ _ (hI i)) ((hp.act_keeps e _ _ (hI i)).imp fun s hs => hs.2)
  | fail i => exact h.perform (a := .rollback _) trivial (hp.fail_keeps _ (hI i)).2

/-- In every run each step changes committed rows only within the footprint that its client had at the start. -/
theorem Program.Confines.meets (hp : p.Confines I F) (h : d.Confined F) (hI : ∀ i, I (d.client i).state)
    (es : List (Event ε)) :
    Meets (Db.step p) (fun d' e => ∀ t id, (F (d.client e.client).state).Allows t id (d'.committed t id)
      ((d'.step p e).committed t id)) d es := by
  refine (meets_true d es).mono_of_inv
    (P := fun d' => d'.Confined F ∧ (∀ i, I (d'.client i).state) ∧ ∀ i, F (d'.client i).state = F (d.client i).state)
    ⟨h, hI, fun _ => rfl⟩ (fun d' e hd _ => ?_) (fun d' e hd _ t id => ?_)
  · obtain ⟨hconf, hI', hF⟩ := hd
    obtain ⟨hconf', hI'', hF'⟩ := hconf.step hp hI' e
    exact ⟨hconf', hI'', fun i => (hF' i).trans (hF i)⟩
  · rw [← hd.2.2 e.client]
    exact hd.1.committed_step p e t id

/-- A column that no client may change keeps its value in every row for as long as the row is there. -/
theorem Program.Confines.isChain_column {α : Type} (hp : p.Confines I F) (h : d.Confined F) (hI : ∀ i, I (d.client i).state)
    {t : T} {f : Row t → α} (hf : ∀ i id r r', (F (d.client i).state).updates t id r r' → f r' = f r) (id : Nat)
    (es : List (Event ε)) : (Db.column p t f id d es).IsChain (· = ·) := by
  refine (Db.isChain_column_iff (fun _ => rfl) h.wf es).mpr ((hp.meets h hI es).mono fun d' e hallows => ?_)
  cases e with
  | fail i => trivial
  | step i e =>
    intro s ha r r' hr hr'
    have hrow := hallows t id
    simp only [Db.step, ha, Db.perform, Db.finish] at hrow
    rw [hr, hr'] at hrow
    cases hrow with
    | same => rfl
    | update hupd => exact (hf _ _ _ _ hupd).symm

/-- A committed row that no client may update or delete stays as it is. -/
theorem Program.Confines.states_committed (hp : p.Confines I F) (h : d.Confined F) (hI : ∀ i, I (d.client i).state)
    {t : T} {id : Nat} {r : Row t} (hr : d.committed t id = some r)
    (hquiet : ∀ i, (∀ r', ¬(F (d.client i).state).updates t id r r') ∧ ¬(F (d.client i).state).deletes t id r)
    (es : List (Event ε)) : ∀ d' ∈ states (Db.step p) d es, d'.committed t id = some r := by
  refine (hp.meets h hI es).states hr fun d' e hd hallows => ?_
  have hrow := hallows t id
  rw [hd] at hrow
  generalize (d'.step p e).committed t id = x at hrow
  cases hrow with
  | same => rfl
  | update hupd => exact absurd hupd ((hquiet _).1 _)
  | delete hdel => exact absurd hdel (hquiet _).2

end Confines

end ReadCommitted
