import IrisService.Library.ReadCommitted
import IrisService.Library.Runs

/-! A transaction that runs alone, as a function: its statements take effect at once on the rows that it sees. -/

namespace ReadCommitted

variable {T : Type} {Row : T → Type} {S S' : Type}

/-- Where the code stands, what its transaction sees, and what is committed. -/
structure Solo (Row : T → Type) (S : Type) where
  state : S
  view : View Row
  committed : Rows Row

/-- The same run under another client state. -/
def Solo.map (f : S → S') (x : Solo Row S) : Solo Row S' := ⟨f x.state, x.view, x.committed⟩

/-- Client `i` as if it were alone. -/
def Db.solo (d : Db Row S) (i : Nat) : Solo Row S := ⟨(d.client i).state, d.view i, d.committed⟩

namespace Solo
variable [DecidableEq T]

/-- One action, with nobody else in the store. -/
def perform (x : Solo Row S) : Action Row S → Solo Row S
  | .next s => ⟨s, x.view, x.committed⟩
  | .insert t row s =>
    ⟨s (x.view.seq t), ⟨((Writes.empty : Writes Row).set ⟨t, x.view.seq t, some (row (x.view.seq t))⟩).onto x.view.rows,
      Function.update x.view.seq t (x.view.seq t + 1)⟩, x.committed⟩
  | .write cs s => ⟨s, ⟨((Writes.empty : Writes Row).setAll cs).onto x.view.rows, x.view.seq⟩, x.committed⟩
  | .commit s => ⟨s, x.view, x.view.rows⟩
  | .rollback s => ⟨s, ⟨x.committed, x.view.seq⟩, x.committed⟩

/-- The next `n` steps of the code, the first of which is its step `k`. -/
def exec (act : Nat → S → View Row → Action Row S) : Nat → Nat → Solo Row S → Solo Row S
  | _, 0, x => x
  | k, n + 1, x => exec act (k + 1) n (x.perform (act k x.state x.view))

variable {act : Nat → S → View Row → Action Row S} {k n : Nat} {x : Solo Row S}

@[simp] theorem exec_zero : exec act k 0 x = x := rfl

theorem exec_succ : exec act k (n + 1) x = exec act (k + 1) n (x.perform (act k x.state x.view)) := rfl

theorem exec_concat : exec act k (n + 1) x =
    (exec act k n x).perform (act (k + n) (exec act k n x).state (exec act k n x).view) := by
  induction n generalizing k x with
  | zero => rfl
  | succ n ih => rw [exec_succ, ih, exec_succ, Nat.add_right_comm k 1 n, Nat.add_assoc k n 1]

theorem perform_map (f : S → S') (x : Solo Row S) (a : Action Row S) :
    (x.map f).perform (a.map f) = (x.perform a).map f := by
  cases a <;> rfl

/-- Code that runs as a part of other code. -/
theorem exec_map {act' : Nat → S' → View Row → Action Row S'} {f : S → S'}
    (hact : ∀ k s v, act' k (f s) v = (act k s v).map f) : exec act' k n (x.map f) = (exec act k n x).map f := by
  induction n generalizing k x with
  | zero => rfl
  | succ n ih =>
    have hstep : (x.map f).perform (act' k (x.map f).state (x.map f).view) = (x.perform (act k x.state x.view)).map f := by
      rw [← perform_map]
      exact congrArg _ (hact k x.state x.view)
    rw [exec_succ, hstep, ih, exec_succ]

/-- Code that is over stays where it is. -/
theorem exec_of_done {s : S} {v : View Row} {rows : Rows Row} (hdone : ∀ k v, act k s v = .next s) :
    exec act k n ⟨s, v, rows⟩ = ⟨s, v, rows⟩ := by
  induction n generalizing k with
  | zero => rfl
  | succ n ih =>
    rw [exec_succ]
    simp only [hdone, perform]
    exact ih

end Solo

/-- On a store where no other transaction has changes, a step is that of the transaction alone. -/
theorem Db.Alone.solo_perform [DecidableEq T] {d : Db Row S} {i : Nat} {a : Action Row S} (h : d.Alone i)
    (hvisible : a.Visible (d.view i)) : (d.perform i a).solo i = (d.solo i).perform a := by
  cases a with
  | next s => simp only [Db.perform, Db.solo, Db.view, Solo.perform, Function.update_self]
  | insert t row s =>
    simp only [Db.perform, Db.solo, Db.view, Db.put, Solo.perform, Function.update_self, Writes.setAll_cons,
      Writes.setAll_nil]
    rw [Writes.set_onto]
  | write cs s =>
    simp only [Db.perform, h.all_writable hvisible, if_true, Db.solo, Db.view, Db.put, Solo.perform, Function.update_self]
    rw [Writes.setAll_onto]
  | commit s => simp only [Db.perform, Db.solo, Db.view, Db.finish, Solo.perform, Function.update_self, Writes.onto_empty]
  | rollback s =>
    simp only [Db.perform, Db.solo, Db.view, Db.finish, Solo.perform, Function.update_self, Writes.onto_empty]

/-- The next `n` steps of the client on such a store are those of the transaction alone. -/
theorem Db.Alone.solo_run [DecidableEq T] {ε : Type} {p : Program Row S ε} {d : Db Row S} {i : Nat} (h : d.Alone i)
    (hvisible : ∀ e s v, (p.act e s v).Visible v) (clock : Nat → ε) (n : Nat) :
    (Runs.run (Db.step p) d ((List.range n).map fun k => .step i (clock k))).Alone i ∧
      (Runs.run (Db.step p) d ((List.range n).map fun k => .step i (clock k))).solo i =
        Solo.exec (fun k => p.act (clock k)) 0 n (d.solo i) := by
  induction n with
  | zero => exact ⟨h, rfl⟩
  | succ n ih =>
    obtain ⟨halone, hsolo⟩ := ih
    rw [List.range_succ, List.map_append, List.map_singleton, Runs.run_concat, Solo.exec_concat, ← hsolo, Nat.zero_add]
    exact ⟨halone.perform _, halone.solo_perform (hvisible _ _ _)⟩

end ReadCommitted
