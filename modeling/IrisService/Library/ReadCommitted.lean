import Mathlib.Logic.Function.Basic

/-! Transactions on a relational store under READ COMMITTED isolation.

A statement reads the last committed rows with the transaction's own changes on top. It locks the rows it
writes until the transaction ends, and a statement that needs a row another transaction has locked waits.
Row identities come from one sequence for each table; a rollback does not give them back, and a sequence does
not run out. -/

namespace ReadCommitted

variable {T : Type} {Row : T → Type} {S ε : Type}

/-- The rows of every table by identity. -/
abbrev Rows (Row : T → Type) := (t : T) → Nat → Option (Row t)

/-- A row that a statement writes; `none` deletes it. -/
structure Change (Row : T → Type) where
  table : T
  id : Nat
  row : Option (Row table)

/-- The change writes the row `id` of `t`. -/
def Change.At (c : Change Row) (t : T) (id : Nat) : Prop := c.table = t ∧ c.id = id

instance [DecidableEq T] (c : Change Row) (t : T) (id : Nat) : Decidable (c.At t id) := inferInstanceAs (Decidable (_ ∧ _))

/-- The changes a transaction has not committed; `none` where it has made none. -/
abbrev Writes (Row : T → Type) := (t : T) → Nat → Option (Option (Row t))

namespace Writes

def empty : Writes Row := fun _ _ => none

/-- The rows `rows` with the changes on top. -/
def onto (w : Writes Row) (rows : Rows Row) : Rows Row := fun t id => (w t id).getD (rows t id)

variable [DecidableEq T]

def set (w : Writes Row) (c : Change Row) : Writes Row := fun t id =>
  if h : c.table = t then if c.id = id then some (h ▸ c.row) else w t id else w t id

def setAll (w : Writes Row) (cs : List (Change Row)) : Writes Row := cs.foldl set w

end Writes

/-- What a statement of a transaction reads: the rows it sees and the next identity of each table. -/
structure View (Row : T → Type) where
  rows : Rows Row
  seq : T → Nat

/-- The rows seen have identities that the sequences have given out. -/
def View.Used (v : View Row) : Prop := ∀ t id row, v.rows t id = some row → id < v.seq t

/-- What the code does between two points where another transaction may run. -/
inductive Action (Row : T → Type) (S : Type) where
  /-- A SELECT, or a step that does not touch the store. -/
  | next (s : S)
  /-- An INSERT; the row and the next state may use the new identity. -/
  | insert (t : T) (row : Nat → Row t) (s : Nat → S)
  /-- An UPDATE or DELETE of rows it sees. -/
  | write (changes : List (Change Row)) (s : S)
  | commit (s : S)
  | rollback (s : S)

/-- The same action under another client state. -/
def Action.map {S' : Type} (f : S → S') : Action Row S → Action Row S'
  | .next s => .next (f s)
  | .insert t row s => .insert t row fun id => f (s id)
  | .write changes s => .write changes (f s)
  | .commit s => .commit (f s)
  | .rollback s => .rollback (f s)

/-- Every state the action may lead to satisfies `P`. -/
def Action.All (P : S → Prop) : Action Row S → Prop
  | .next s | .write _ s | .commit s | .rollback s => P s
  | .insert _ _ s => ∀ id, P (s id)

/-- The code of the clients. `fail` is where a client goes when the store refuses its statement. -/
structure Program (Row : T → Type) (S ε : Type) where
  act : ε → S → View Row → Action Row S
  fail : S → S

/-- A client: where its code stands and what its transaction has written. -/
structure Client (Row : T → Type) (S : Type) where
  state : S
  writes : Writes Row

/-- The store and its clients. `lock` names the client whose transaction holds a row. -/
structure Db (Row : T → Type) (S : Type) where
  committed : Rows Row
  seq : T → Nat
  lock : T → Nat → Option Nat
  client : Nat → Client Row S

/-- A client takes its step, or is refused. -/
inductive Event (ε : Type) where
  /-- Client `i` takes its next step. -/
  | step (i : Nat) (e : ε)
  /-- The store refuses the statement of client `i`, or loses its connection. -/
  | fail (i : Nat)

/-- The client whose transaction the event belongs to. -/
def Event.client : Event ε → Nat
  | .step i _ => i
  | .fail i => i

namespace Db

/-- A store at rest: no transaction is open. -/
def start (committed : Rows Row) (seq : T → Nat) (state : Nat → S) : Db Row S where
  committed := committed
  seq := seq
  lock := fun _ _ => none
  client := fun i => ⟨state i, .empty⟩

/-- What client `i` sees. -/
def view (d : Db Row S) (i : Nat) : View Row := ⟨(d.client i).writes.onto d.committed, d.seq⟩

/-- Client `i` may write the row of `c`: it sees the row and no other transaction holds it. -/
def writable (d : Db Row S) (i : Nat) (c : Change Row) : Bool :=
  ((d.view i).rows c.table c.id).isSome && (d.lock c.table c.id).all (· == i)

variable [DecidableEq T]

/-- Client `i` takes the locks of the rows that it changes. -/
def lockAll (lock : T → Nat → Option Nat) (i : Nat) (cs : List (Change Row)) : T → Nat → Option Nat :=
  fun t id => if ∃ c ∈ cs, c.At t id then some i else lock t id

/-- Client `i` writes and locks the rows of `cs`. -/
def put (d : Db Row S) (i : Nat) (cs : List (Change Row)) (s : S) : Db Row S where
  committed := d.committed
  seq := d.seq
  lock := lockAll d.lock i cs
  client := Function.update d.client i ⟨s, (d.client i).writes.setAll cs⟩

/-- The transaction of client `i` ends, leaving `rows` committed. -/
def finish (d : Db Row S) (i : Nat) (rows : Rows Row) (s : S) : Db Row S where
  committed := rows
  seq := d.seq
  lock := fun t id => if d.lock t id = some i then none else d.lock t id
  client := Function.update d.client i ⟨s, .empty⟩

/-- Client `i` takes an action. A write that has to wait changes nothing. -/
def perform (d : Db Row S) (i : Nat) : Action Row S → Db Row S
  | .next s => { d with client := Function.update d.client i ⟨s, (d.client i).writes⟩ }
  | .insert t row s =>
    { d.put i [⟨t, d.seq t, some (row (d.seq t))⟩] (s (d.seq t)) with
      seq := Function.update d.seq t (d.seq t + 1) }
  | .write cs s => if cs.all (d.writable i) then d.put i cs s else d
  | .commit s => d.finish i (d.view i).rows s
  | .rollback s => d.finish i d.committed s

def step (p : Program Row S ε) (d : Db Row S) : Event ε → Db Row S
  | .step i e => d.perform i (p.act e (d.client i).state (d.view i))
  | .fail i => d.perform i (.rollback (p.fail (d.client i).state))

end Db

/-! ### Changes -/

section Changes
variable {w : Writes Row} {c : Change Row} {cs : List (Change Row)} {t : T} {id : Nat}

@[simp] theorem Writes.empty_apply : (Writes.empty : Writes Row) t id = none := rfl

@[simp] theorem Writes.onto_empty {rows : Rows Row} : (Writes.empty : Writes Row).onto rows = rows := rfl

theorem Writes.onto_of_none {rows : Rows Row} (h : w t id = none) : w.onto rows t id = rows t id := by
  simp [Writes.onto, h]

theorem Writes.onto_of_some {rows : Rows Row} {r : Option (Row t)} (h : w t id = some r) : w.onto rows t id = r := by
  simp [Writes.onto, h]

variable [DecidableEq T]

@[simp] theorem Writes.setAll_nil : w.setAll [] = w := rfl

@[simp] theorem Writes.setAll_cons : w.setAll (c :: cs) = (w.set c).setAll cs := rfl

@[simp] theorem Writes.set_self {r : Option (Row t)} : w.set ⟨t, id, r⟩ t id = some r := by
  simp [Writes.set]

theorem Writes.set_of_not_at (h : ¬c.At t id) : w.set c t id = w t id := by
  unfold Writes.set
  split
  · rename_i ht
    rw [if_neg fun hid => h ⟨ht, hid⟩]
  · rfl

@[simp] theorem Writes.set_of_id_ne {r : Option (Row t)} {id' : Nat} (h : id' ≠ id) :
    w.set ⟨t, id, r⟩ t id' = w t id' :=
  set_of_not_at fun hat => h hat.2.symm

@[simp] theorem Writes.set_of_table_ne {t' : T} {id' : Nat} {r : Option (Row t)} (h : t' ≠ t) :
    w.set ⟨t, id, r⟩ t' id' = w t' id' :=
  set_of_not_at fun hat => h hat.1.symm

theorem Writes.set_ne_none_iff : w.set c t id ≠ none ↔ c.At t id ∨ w t id ≠ none := by
  by_cases h : c.At t id
  · obtain ⟨rfl, rfl⟩ := h
    simp [Writes.set, Change.At]
  · simp [set_of_not_at h, h]

theorem Writes.setAll_ne_none_iff : w.setAll cs t id ≠ none ↔ (∃ c ∈ cs, c.At t id) ∨ w t id ≠ none := by
  induction cs generalizing w with
  | nil => simp
  | cons c cs ih =>
    simp only [setAll_cons, ih, set_ne_none_iff, List.mem_cons, or_and_right, exists_or, exists_eq_left]
    exact or_assoc.symm.trans (or_congr or_comm Iff.rfl)

theorem Writes.set_onto {rows : Rows Row} : (w.set c).onto rows = ((empty : Writes Row).set c).onto (w.onto rows) := by
  funext t id
  by_cases h : c.At t id
  · obtain ⟨t', id', r⟩ := c
    obtain ⟨rfl, rfl⟩ := h
    rw [onto_of_some set_self, onto_of_some set_self]
  · simp [onto, set_of_not_at h]

/-- The changes of a statement go on top of the rows it sees. -/
theorem Writes.setAll_onto {rows : Rows Row} :
    (w.setAll cs).onto rows = ((empty : Writes Row).setAll cs).onto (w.onto rows) := by
  induction cs generalizing w rows with
  | nil => rfl
  | cons c cs ih =>
    rw [setAll_cons, setAll_cons, ih, set_onto, ← ih]

end Changes

/-! ### What one step leaves alone -/

section Frame
variable {d : Db Row S} {i j : Nat} {a : Action Row S} {t : T} {id : Nat} {P : S → Prop}

@[simp] theorem Db.view_rows : (d.view i).rows = (d.client i).writes.onto d.committed := rfl

theorem Action.all_of_forall (h : ∀ s, P s) : a.All P := by
  cases a <;> first | exact h _ | exact fun id => h _

theorem Action.All.imp {P' : S → Prop} (h : a.All P) (himp : ∀ s, P s → P' s) : a.All P' := by
  cases a <;> first | exact himp _ h | exact fun id => himp _ (h id)

theorem Action.map_map {S' S'' : Type} {f : S → S'} {g : S' → S''} : (a.map f).map g = a.map fun s => g (f s) := by
  cases a <;> rfl

theorem Action.all_map {S' : Type} {f : S → S'} {P : S' → Prop} : (a.map f).All P ↔ a.All fun s => P (f s) := by
  cases a <;> rfl

theorem Action.map_ne_write {S' : Type} {f : S → S'} (h : ∀ cs s, a ≠ .write cs s) (cs : List (Change Row)) (s : S') :
    a.map f ≠ .write cs s := by
  cases a with
  | write cs s => exact absurd rfl (h cs s)
  | _ => exact fun h => by cases h

variable [DecidableEq T]

/-- A client's step leaves the other clients where they are. -/
theorem Db.perform_client_of_ne (h : j ≠ i) : (d.perform i a).client j = d.client j := by
  cases a with
  | write cs s =>
    simp only [perform]
    split
    · exact Function.update_of_ne h _ _
    · rfl
  | _ => exact Function.update_of_ne h _ _

theorem Db.step_client_of_ne {p : Program Row S ε} {e : Event ε} (h : j ≠ e.client) :
    (d.step p e).client j = d.client j := by
  cases e with
  | step i e => exact perform_client_of_ne (i := i) h
  | fail i => exact perform_client_of_ne (i := i) (a := .rollback _) h

/-- A client either gets to where its action leads or waits where it is. -/
theorem Db.perform_client (ha : a.All P) : P ((d.perform i a).client i).state ∨ (d.perform i a).client i = d.client i := by
  cases a with
  | insert t row s =>
    simp only [perform, put, Function.update_self]
    exact Or.inl (ha _)
  | write cs s =>
    simp only [perform]
    split
    · simp only [put, Function.update_self]
      exact Or.inl ha
    · exact Or.inr rfl
  | _ =>
    simp only [perform, finish, Function.update_self]
    exact Or.inl ha

/-- An action that writes no row that exists does not wait. -/
theorem Db.perform_lands (hw : ∀ cs s, a ≠ .write cs s) (ha : a.All P) : P ((d.perform i a).client i).state := by
  cases a with
  | write cs s => exact absurd rfl (hw cs s)
  | insert t row s =>
    simp only [perform, put, Function.update_self]
    exact ha _
  | _ =>
    simp only [perform, finish, Function.update_self]
    exact ha

/-- A property of the client's state that the action leads to, or that the client has while it waits. -/
theorem Db.perform_state (h : P (d.client i).state) (ha : a.All P) : P ((d.perform i a).client i).state := by
  rcases perform_client ha with hp | hsame
  · exact hp
  · rw [hsame]
    exact h

/-- Only a commit changes what is committed. -/
theorem Db.perform_committed (h : ∀ s, a ≠ .commit s) : (d.perform i a).committed = d.committed := by
  cases a with
  | commit s => exact absurd rfl (h s)
  | write cs s =>
    simp only [perform]
    split <;> rfl
  | _ => rfl

theorem Db.perform_seq (h : ∀ t row s, a ≠ .insert t row s) : (d.perform i a).seq = d.seq := by
  cases a with
  | insert t row s => exact absurd rfl (h t row s)
  | write cs s =>
    simp only [perform]
    split <;> rfl
  | _ => rfl

theorem Db.seq_le_perform : d.seq t ≤ (d.perform i a).seq t := by
  cases a with
  | insert t' row s =>
    by_cases h : t = t'
    · subst h
      simp [perform]
    · simp [perform, Function.update_of_ne h, put]
  | _ => exact Nat.le_of_eq (by rw [perform_seq (by simp)])

end Frame

/-! ### Versions of a row -/

section Versions
variable {d : Db Row S} {i j : Nat} {a : Action Row S} {t : T} {id : Nat} {r : Row t}

/-- A version of the row: the committed one, or one that a transaction has written. -/
def Db.Version (d : Db Row S) (t : T) (id : Nat) (r : Row t) : Prop :=
  d.committed t id = some r ∨ ∃ i, (d.client i).writes t id = some (some r)

theorem Db.version_of_view (h : (d.view i).rows t id = some r) : d.Version t id r := by
  cases hw : (d.client i).writes t id with
  | none => exact Or.inl (by rwa [view_rows, Writes.onto_of_none hw] at h)
  | some r' =>
    rw [view_rows, Writes.onto_of_some hw] at h
    exact Or.inr ⟨i, by rw [hw, h]⟩

variable [DecidableEq T]

theorem Writes.mem_of_setAll {w : Writes Row} {cs : List (Change Row)} (h : w.setAll cs t id = some (some r)) :
    ⟨t, id, some r⟩ ∈ cs ∨ w t id = some (some r) := by
  induction cs generalizing w with
  | nil => exact Or.inr h
  | cons c cs ih =>
    rcases ih h with hmem | hset
    · exact Or.inl (List.mem_cons_of_mem c hmem)
    · by_cases hat : c.At t id
      · obtain ⟨t', id', r'⟩ := c
        obtain ⟨rfl, rfl⟩ := hat
        rw [set_self, Option.some.injEq] at hset
        exact Or.inl (by rw [hset]; exact List.mem_cons_self)
      · exact Or.inr (by rwa [set_of_not_at hat] at hset)

/-- Deletions leave the rows that none of them is on. -/
theorem Writes.onto_deletes {rows : Rows Row} {cs : List (Change Row)} (h : ∀ c ∈ cs, c.row = none) :
    ((empty : Writes Row).setAll cs).onto rows t id = some r ↔ rows t id = some r ∧ ∀ c ∈ cs, ¬c.At t id := by
  by_cases hat : ∃ c ∈ cs, c.At t id
  · obtain ⟨x, hx⟩ := Option.ne_none_iff_exists'.mp (setAll_ne_none_iff (w := (empty : Writes Row)).mpr (Or.inl hat))
    rw [onto_of_some hx]
    refine ⟨fun hr => ?_, fun hr => ?_⟩
    · subst hr
      rcases mem_of_setAll hx with hmem | hnone
      · cases h _ hmem
      · cases hnone
    · obtain ⟨c, hc, hcat⟩ := hat
      exact absurd hcat (hr.2 c hc)
  · have hnone : (empty : Writes Row).setAll cs t id = none := by
      by_contra hw
      rcases setAll_ne_none_iff.mp hw with hex | hempty
      · exact hat hex
      · exact hempty rfl
    rw [onto_of_none hnone]
    exact ⟨fun hr => ⟨hr, fun c hc hcat => hat ⟨c, hc, hcat⟩⟩, fun hr => hr.1⟩

/-- A row version that a client holds after a step was its own before, or the step writes it. -/
theorem Db.perform_writes (h : ((d.perform i a).client j).writes t id = some (some r)) :
    (d.client j).writes t id = some (some r) ∨ j = i ∧ ((∃ row s, a = .insert t row s ∧ id = d.seq t ∧ r = row id) ∨
      ∃ cs s, a = .write cs s ∧ ⟨t, id, some r⟩ ∈ cs) := by
  by_cases hne : j = i
  · subst hne
    cases a with
    | next s =>
      simp only [perform, Function.update_self] at h
      exact Or.inl h
    | insert t' row s =>
      simp only [perform, put, Function.update_self] at h
      rcases Writes.mem_of_setAll h with hmem | hw
      · obtain rfl : t = t' := congrArg Change.table (List.mem_singleton.mp hmem)
        simp only [List.mem_singleton, Change.mk.injEq, true_and, heq_eq_eq, Option.some.injEq] at hmem
        obtain ⟨rfl, rfl⟩ := hmem
        exact Or.inr ⟨rfl, Or.inl ⟨row, s, rfl, rfl, rfl⟩⟩
      · exact Or.inl hw
    | write cs s =>
      simp only [perform] at h
      split at h
      · simp only [put, Function.update_self] at h
        rcases Writes.mem_of_setAll h with hmem | hw
        · exact Or.inr ⟨rfl, Or.inr ⟨cs, s, rfl, hmem⟩⟩
        · exact Or.inl hw
      · exact Or.inl h
    | _ => simp [perform, finish] at h
  · rw [perform_client_of_ne hne] at h
    exact Or.inl h

/-- A row that no action of the step is on is left out of the changes. -/
theorem Db.perform_writes_none (h : (d.client j).writes t id = none) (hinsert : ∀ row s, a ≠ .insert t row s)
    (hwrite : ∀ cs s, a = .write cs s → ∀ c ∈ cs, ¬ c.At t id) : ((d.perform i a).client j).writes t id = none := by
  by_cases hne : j = i
  · subst hne
    by_contra hw
    cases a with
    | next s =>
      simp only [perform, Function.update_self] at hw
      exact hw h
    | insert t' row s =>
      simp only [perform, put, Function.update_self] at hw
      rcases Writes.setAll_ne_none_iff.mp hw with ⟨c, hc, hat⟩ | hw
      · obtain rfl := List.mem_singleton.mp hc
        obtain ⟨rfl, -⟩ := hat
        exact hinsert row s rfl
      · exact hw h
    | write cs s =>
      simp only [perform] at hw
      split at hw
      · simp only [put, Function.update_self] at hw
        rcases Writes.setAll_ne_none_iff.mp hw with ⟨c, hc, hat⟩ | hw
        · exact hwrite cs s rfl c hc hat
        · exact hw h
      · exact hw h
    | _ => simp [perform, finish] at hw
  · rw [perform_client_of_ne hne]
    exact h

/-- The versions after a step were there before it, or the step writes them. -/
theorem Db.perform_version (h : (d.perform i a).Version t id r) : d.Version t id r ∨
    (∃ row s, a = .insert t row s ∧ id = d.seq t ∧ r = row id) ∨ ∃ cs s, a = .write cs s ∧ ⟨t, id, some r⟩ ∈ cs := by
  rcases h with hc | ⟨j, hj⟩
  · cases a with
    | commit s => exact Or.inl (version_of_view (i := i) hc)
    | _ =>
      rw [perform_committed (by simp)] at hc
      exact Or.inl (Or.inl hc)
  · rcases perform_writes hj with hj | ⟨-, hnew⟩
    · exact Or.inl (Or.inr ⟨j, hj⟩)
    · exact Or.inr hnew

end Versions

/-! ### Locks -/

/-- Every uncommitted change is on a row its client has locked, and identities that the sequence has not
    given out are used nowhere. -/
structure Db.Wf (d : Db Row S) : Prop where
  owner : ∀ i t id, (d.client i).writes t id ≠ none ↔ d.lock t id = some i
  fresh : ∀ t id, d.seq t ≤ id → d.committed t id = none ∧ d.lock t id = none

namespace Db.Wf
variable {d : Db Row S} {i j : Nat} {t : T} {id : Nat}

theorem start {committed : Rows Row} {seq : T → Nat} {state : Nat → S}
    (h : ∀ t id, seq t ≤ id → committed t id = none) : (Db.start committed seq state).Wf where
  owner _ _ _ := by simp [Db.start]
  fresh t id hid := ⟨h t id hid, rfl⟩

theorem writes_fresh (h : d.Wf) (hid : d.seq t ≤ id) : (d.client i).writes t id = none := by
  by_contra hw
  have := (h.owner i t id).mp hw
  rw [(h.fresh t id hid).2] at this
  cases this

/-- Two transactions never hold changes of one row. -/
theorem writes_unique (h : d.Wf) (hi : (d.client i).writes t id ≠ none) (hj : (d.client j).writes t id ≠ none) :
    i = j :=
  Option.some.inj (((h.owner i t id).mp hi).symm.trans ((h.owner j t id).mp hj))

theorem used (h : d.Wf) (i : Nat) : (d.view i).Used := by
  intro t id row hrow
  by_contra hid
  rw [view_rows, Writes.onto_of_none (h.writes_fresh (Nat.not_lt.mp hid)), (h.fresh t id (Nat.not_lt.mp hid)).1] at hrow
  cases hrow

/-- A client that is alone with its changes waits for no row that it sees. -/
theorem writable_of_alone (h : d.Wf) (halone : ∀ j, j ≠ i → (d.client j).writes = .empty) {c : Change Row} :
    d.writable i c = ((d.view i).rows c.table c.id).isSome := by
  cases hlock : d.lock c.table c.id with
  | none => simp [writable, hlock]
  | some j =>
    have hj : j = i := by
      by_contra hne
      exact (h.owner j c.table c.id).mpr hlock (by rw [halone j hne]; rfl)
    simp [writable, hlock, hj]

/-- A row that another transaction has changed keeps its committed version. -/
theorem committed_of_writes [DecidableEq T] (h : d.Wf) {a : Action Row S} (hj : (d.client j).writes t id ≠ none)
    (hne : j ≠ i) : (d.perform i a).committed t id = d.committed t id := by
  cases a with
  | commit s =>
    refine Writes.onto_of_none ?_
    by_contra hi
    exact hne (h.writes_unique hj hi)
  | _ => rw [perform_committed (by simp)]

theorem finish (h : d.Wf) {rows : Rows Row} {s : S} (hrows : ∀ t id, d.seq t ≤ id → rows t id = none) :
    (d.finish i rows s).Wf where
  owner j t id := by
    by_cases hj : j = i
    · subst hj
      simp only [Db.finish, Function.update_self, Writes.empty_apply, ne_eq, not_true_eq_false, false_iff]
      split
      · simp
      · assumption
    · simp only [Db.finish, Function.update_of_ne hj, h.owner]
      split
      · rename_i hi
        simp [hi, Ne.symm hj]
      · rfl
  fresh t id hlt := by
    refine ⟨hrows t id hlt, ?_⟩
    simp [Db.finish, (h.fresh t id hlt).2]

variable [DecidableEq T]

theorem put (h : d.Wf) {cs : List (Change Row)} {s : S}
    (hfree : ∀ c ∈ cs, d.lock c.table c.id = none ∨ d.lock c.table c.id = some i)
    (hid : ∀ c ∈ cs, c.id < d.seq c.table) : (d.put i cs s).Wf where
  owner j t id := by
    by_cases hat : ∃ c ∈ cs, c.At t id
    · have hlock : (d.put i cs s).lock t id = some i := if_pos hat
      rw [hlock]
      by_cases hj : j = i
      · subst hj
        simp [Db.put, Writes.setAll_ne_none_iff, hat]
      · simp only [Db.put, Function.update_of_ne hj]
        refine ⟨fun hw => ?_, fun he => absurd (Option.some.inj he).symm hj⟩
        have hown := (h.owner j t id).mp hw
        obtain ⟨c, hc, rfl, rfl⟩ := hat
        rcases hfree c hc with hf | hf
        · rw [hf] at hown
          cases hown
        · rw [← hown, hf]
    · have hlock : (d.put i cs s).lock t id = d.lock t id := if_neg hat
      rw [hlock, ← h.owner]
      by_cases hj : j = i
      · subst hj
        simp [Db.put, Writes.setAll_ne_none_iff, hat]
      · simp only [Db.put, Function.update_of_ne hj]
  fresh t id hlt := by
    refine ⟨(h.fresh t id hlt).1, ?_⟩
    have hat : ¬∃ c ∈ cs, c.At t id := by
      rintro ⟨c, hc, rfl, rfl⟩
      exact absurd (hid c hc) (Nat.not_lt.mpr hlt)
    have hlock : (d.put i cs s).lock t id = d.lock t id := if_neg hat
    rw [hlock]
    exact (h.fresh t id hlt).2

theorem perform (h : d.Wf) (a : Action Row S) : (d.perform i a).Wf := by
  cases a with
  | next s =>
    refine ⟨fun j t id => ?_, h.fresh⟩
    by_cases hj : j = i
    · subst hj
      simpa [Db.perform] using h.owner j t id
    · simpa [Db.perform, Function.update_of_ne hj] using h.owner j t id
  | insert t row s =>
    -- The new identity is fresh, so its row is free; afterwards the sequence is past it.
    have hseq : ∀ t', d.seq t' ≤ Function.update d.seq t (d.seq t + 1) t' := fun _ =>
      seq_le_perform (i := i) (a := .insert t row s)
    have hbump : ({ d with seq := Function.update d.seq t (d.seq t + 1) } : Db Row S).Wf :=
      ⟨h.owner, fun t' id hid => h.fresh t' id (Nat.le_trans (hseq t') hid)⟩
    have hfree : d.lock t (d.seq t) = none := (h.fresh t (d.seq t) (Nat.le_refl _)).2
    exact hbump.put (by simpa using Or.inl hfree) (by simp)
  | write cs s =>
    simp only [Db.perform]
    split
    · rename_i hall
      rw [List.all_eq_true] at hall
      refine h.put (fun c hc => ?_) fun c hc => ?_
      · have := hall c hc
        simp only [writable, Bool.and_eq_true] at this
        cases hl : d.lock c.table c.id with
        | none => exact Or.inl rfl
        | some j =>
          rw [hl] at this
          exact Or.inr (congrArg some (by simpa using this.2))
      · by_contra hlt
        have hnone : (d.view i).rows c.table c.id = none := by
          rw [view_rows, Writes.onto_of_none (h.writes_fresh (Nat.not_lt.mp hlt))]
          exact (h.fresh _ _ (Nat.not_lt.mp hlt)).1
        have := hall c hc
        simp [writable, hnone] at this
    · exact h
  | commit s =>
    refine h.finish fun t id hlt => ?_
    rw [view_rows, Writes.onto_of_none (h.writes_fresh hlt)]
    exact (h.fresh t id hlt).1
  | rollback s => exact h.finish fun t id hlt => (h.fresh t id hlt).1

theorem step {p : Program Row S ε} (h : d.Wf) (e : Event ε) : (d.step p e).Wf := by
  cases e with
  | step i e => exact h.perform _
  | fail i => exact h.perform (.rollback _)

end Db.Wf

/-! ### A transaction that runs alone -/

/-- The action writes rows that it sees. -/
def Action.Visible (v : View Row) : Action Row S → Prop
  | .write cs _ => ∀ c ∈ cs, (v.rows c.table c.id).isSome = true
  | _ => True

theorem Action.visible_map {S' : Type} {f : S → S'} {v : View Row} {a : Action Row S} :
    (a.map f).Visible v ↔ a.Visible v := by
  cases a <;> rfl

theorem Action.visible_singleton {v : View Row} {t : T} {id : Nat} {row : Row t} {new : Option (Row t)} {s : S}
    (h : v.rows t id = some row) : (Action.write [⟨t, id, new⟩] s).Visible v := by
  intro c hc
  rw [List.mem_singleton.mp hc, h]
  rfl

/-- The code goes on in a state that meets `P` together with what its transaction then sees. -/
def Action.Leads [DecidableEq T] (P : S → View Row → Prop) (v : View Row) : Action Row S → Prop
  | .next s => P s v
  | .insert t row s =>
    P (s (v.seq t)) ⟨((Writes.empty : Writes Row).set ⟨t, v.seq t, some (row (v.seq t))⟩).onto v.rows,
      Function.update v.seq t (v.seq t + 1)⟩
  | .write cs s => P s ⟨((Writes.empty : Writes Row).setAll cs).onto v.rows, v.seq⟩
  | .commit s => P s v
  | .rollback s => ∀ v', P s v'

theorem Action.leads_map [DecidableEq T] {S' : Type} {f : S → S'} {P : S' → View Row → Prop} {v : View Row}
    {a : Action Row S} :
    (a.map f).Leads P v ↔ a.Leads (fun s => P (f s)) v := by
  cases a <;> rfl

theorem Action.All.leads [DecidableEq T] {P : S → Prop} {v : View Row} {a : Action Row S} (h : a.All P) :
    a.Leads (fun s _ => P s) v := by
  cases a with
  | insert t row s => exact h (v.seq t)
  | rollback s => exact fun _ => h
  | _ => exact h

/-- No transaction but that of client `i` has changes. -/
structure Db.Alone (d : Db Row S) (i : Nat) : Prop where
  wf : d.Wf
  others : ∀ j, j ≠ i → (d.client j).writes = .empty

namespace Db.Alone
variable {d : Db Row S} {i : Nat} {a : Action Row S} {P : S → Prop}

theorem start {committed : Rows Row} {seq : T → Nat} {state : Nat → S}
    (h : ∀ t id, seq t ≤ id → committed t id = none) : (Db.start committed seq state).Alone i :=
  ⟨Wf.start h, fun _ _ => rfl⟩

/-- Nobody holds a row that it would have to wait for. -/
theorem all_writable (h : d.Alone i) {cs : List (Change Row)} {s : S} (ha : (Action.write cs s).Visible (d.view i)) :
    cs.all (d.writable i) = true := by
  rw [List.all_eq_true]
  intro c hc
  rw [h.wf.writable_of_alone h.others]
  exact ha c hc

variable [DecidableEq T]

theorem perform (h : d.Alone i) (a : Action Row S) : (d.perform i a).Alone i where
  wf := h.wf.perform a
  others j hj := by
    rw [perform_client_of_ne hj]
    exact h.others j hj

theorem perform_lands (h : d.Alone i) (hvisible : a.Visible (d.view i)) (ha : a.All P) :
    P ((d.perform i a).client i).state := by
  cases a with
  | write cs s =>
    simp only [Db.perform, h.all_writable hvisible, if_true, put, Function.update_self]
    exact ha
  | _ => exact Db.perform_lands (by simp) ha

theorem perform_leads {P : S → View Row → Prop} (h : d.Alone i) (hvisible : a.Visible (d.view i))
    (ha : a.Leads P (d.view i)) : P ((d.perform i a).client i).state ((d.perform i a).view i) := by
  cases a with
  | next s =>
    simp only [Db.perform, Db.view, Function.update_self]
    exact ha
  | insert t row s =>
    simp only [Db.perform, Db.view, Db.put, Function.update_self, Writes.setAll_cons, Writes.setAll_nil]
    rw [Writes.set_onto]
    exact ha
  | write cs s =>
    simp only [Db.perform, h.all_writable hvisible, if_true, Db.view, Db.put, Function.update_self]
    rw [Writes.setAll_onto]
    exact ha
  | commit s =>
    simp only [Db.perform, Db.view, Db.finish, Function.update_self, Writes.onto_empty]
    exact ha
  | rollback s =>
    simp only [Db.perform, Db.finish, Function.update_self]
    exact ha _

end Db.Alone

/-! ### Open transactions

`inFlight` tells the states of the code in which a transaction is open. -/

section Open
variable {inFlight : S → Bool} {d : Db Row S} {i : Nat}

/-- Changes are made in an open transaction, and a commit or a rollback ends it. -/
def Action.Opens (inFlight : S → Bool) (s : S) : Action Row S → Prop
  | .next s' => inFlight s' = false → inFlight s = false
  | .insert _ _ s' => ∀ id, inFlight (s' id) = true
  | .write _ s' => inFlight s' = true
  | .commit s' | .rollback s' => inFlight s' = false

/-- A client that has no transaction open has no changes. -/
def Db.Idle (inFlight : S → Bool) (d : Db Row S) : Prop :=
  ∀ i, inFlight (d.client i).state = false → (d.client i).writes = .empty

theorem Db.Idle.perform [DecidableEq T] (h : d.Idle inFlight) {a : Action Row S}
    (ha : a.Opens inFlight (d.client i).state) : (d.perform i a).Idle inFlight := by
  intro j hj
  by_cases hne : j = i
  · subst hne
    cases a with
    | next s =>
      simp only [Db.perform, Function.update_self] at hj ⊢
      exact h j (ha hj)
    | insert t row s =>
      simp only [Db.perform, Db.put, Function.update_self] at hj
      rw [ha] at hj
      cases hj
    | write cs s =>
      simp only [Db.perform] at hj ⊢
      split at hj
      · simp only [Db.put, Function.update_self] at hj
        rw [show inFlight s = true from ha] at hj
        cases hj
      · rename_i hall
        rw [if_neg hall]
        exact h j hj
    | _ => simp only [Db.perform, Db.finish, Function.update_self]
  · rw [Db.perform_client_of_ne hne] at hj ⊢
    exact h j hj

end Open

end ReadCommitted
