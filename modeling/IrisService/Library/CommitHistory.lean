import IrisService.Library.ReadCommitted
import IrisService.Library.Runs

/-! The successive committed values of a column.

A committed row changes when its transaction commits, so a property of neighbouring values is a property
of each commit. A row that is deleted does not come back: its identity is not given out again, and there is
nothing left to update. -/

namespace ReadCommitted
open Runs

variable {T : Type} {Row : T → Type} {S ε α : Type}

/-- The rows that the action writes have the column that it sees there. -/
def Action.Keeps (t : T) (f : Row t → α) (v : View Row) : Action Row S → Prop
  | .write cs _ => ∀ id r, ⟨t, id, some r⟩ ∈ cs → ∃ r', v.rows t id = some r' ∧ f r' = f r
  | _ => True

namespace Db

/-- The row was given out, and no transaction can bring it back. -/
structure Dead (d : Db Row S) (t : T) (id : Nat) : Prop where
  wf : d.Wf
  used : id < d.seq t
  committed : d.committed t id = none
  writes : ∀ i, (d.client i).writes t id = none

namespace Dead
variable {d : Db Row S} {i : Nat} {t : T} {id : Nat}

theorem view (h : d.Dead t id) (i : Nat) : (d.view i).rows t id = none := by
  rw [view_rows, Writes.onto_of_none (h.writes i), h.committed]

theorem not_mem (h : d.Dead t id) {cs : List (Change Row)} (hall : cs.all (d.writable i) = true) :
    ¬∃ c ∈ cs, c.At t id := by
  rintro ⟨c, hc, rfl, rfl⟩
  have hw := List.all_eq_true.mp hall c hc
  simp [writable, h.view i] at hw

variable [DecidableEq T]

theorem perform (h : d.Dead t id) (a : Action Row S) : (d.perform i a).Dead t id := by
  have hset : ∀ {cs : List (Change Row)} {w : Writes Row}, (¬∃ c ∈ cs, c.At t id) → w t id = none →
      w.setAll cs t id = none := by
    intro cs w hcs hw
    by_contra hne
    rcases Writes.setAll_ne_none_iff.mp hne with hat | hw'
    · exact hcs hat
    · exact hw' hw
  refine ⟨h.wf.perform a, Nat.lt_of_lt_of_le h.used seq_le_perform, ?_, fun j => ?_⟩
  · cases a with
    | commit s => exact h.view i
    | _ => rw [perform_committed (by simp), h.committed]
  by_cases hj : j = i
  · subst hj
    cases a with
    | next s => simpa only [Db.perform, Function.update_self] using h.writes j
    | insert t' row s =>
      simp only [Db.perform, Db.put, Function.update_self]
      refine hset ?_ (h.writes j)
      rintro ⟨c, hc, hat⟩
      obtain rfl := List.mem_singleton.mp hc
      obtain ⟨rfl, hid⟩ := hat
      exact absurd h.used (by rw [← hid]; exact Nat.lt_irrefl _)
    | write cs s =>
      simp only [Db.perform]
      split
      · rename_i hall
        simp only [Db.put, Function.update_self]
        exact hset (h.not_mem hall) (h.writes j)
      · exact h.writes j
    | _ => simp [Db.perform, Db.finish]
  · rw [perform_client_of_ne hj]
    exact h.writes j

theorem step (h : d.Dead t id) (p : Program Row S ε) (e : Event ε) : (d.step p e).Dead t id := by
  cases e with
  | step i e => exact h.perform _
  | fail i => exact h.perform (.rollback _)

/-- The row that a commit deletes is dead: its transaction held the lock. -/
theorem of_perform (h : d.Wf) {a : Action Row S} (hsome : d.committed t id ≠ none)
    (hnone : (d.perform i a).committed t id = none) : (d.perform i a).Dead t id := by
  have hused : id < d.seq t := by
    by_contra hlt
    exact hsome (h.fresh t id (Nat.not_lt.mp hlt)).1
  refine ⟨h.perform a, Nat.lt_of_lt_of_le hused seq_le_perform, hnone, ?_⟩
  cases a with
  | commit s =>
    have hi : (d.client i).writes t id ≠ none := by
      intro hw
      simp only [Db.perform, Db.finish, view_rows, Writes.onto_of_none hw] at hnone
      exact hsome hnone
    intro j
    by_cases hj : j = i
    · subst hj
      simp [Db.perform, Db.finish]
    · rw [perform_client_of_ne hj]
      by_contra hw
      exact hj (h.writes_unique hw hi)
  | _ =>
    rw [perform_committed (by simp)] at hnone
    exact absurd hnone hsome

end Dead

/-! ### Histories of a column -/

variable {p : Program Row S ε} {d : Db Row S} {t : T} {id : Nat} {f : Row t → α} {R : α → α → Prop}

section Column
variable [DecidableEq T]

/-- The successive committed values of a column of one row. -/
def column (p : Program Row S ε) (t : T) (f : Row t → α) (id : Nat) (d : Db Row S) (es : List (Event ε)) : List α :=
  history (Db.step p) (fun d => (d.committed t id).map f) d es

/-- A step that commits a row moves its column along `R`. -/
def CommitsAlong (p : Program Row S ε) (t : T) (f : Row t → α) (R : α → α → Prop) (id : Nat) (d : Db Row S) :
    Event ε → Prop
  | .step i e => ∀ s, p.act e (d.client i).state (d.view i) = .commit s →
    ∀ r r', d.committed t id = some r → (d.view i).rows t id = some r' → R (f r) (f r')
  | .fail _ => True

theorem step_committed_cases (p : Program Row S ε) (d : Db Row S) (e : Event ε) :
    (d.step p e).committed = d.committed ∨ ∃ i ε s, e = .step i ε ∧
      p.act ε (d.client i).state (d.view i) = .commit s ∧ (d.step p e).committed = (d.view i).rows := by
  cases e with
  | fail i => exact Or.inl rfl
  | step i ε =>
    cases ha : p.act ε (d.client i).state (d.view i) with
    | commit s => exact Or.inr ⟨i, ε, s, rfl, ha, by simp only [Db.step, ha]; rfl⟩
    | _ =>
      refine Or.inl ?_
      simp only [Db.step, ha]
      exact perform_committed (by simp)

/-- The committed values of a column form a path of `R` exactly when every commit moves it along `R`. -/
theorem isChain_column_iff (hrefl : ∀ a, R a a) (h : d.Wf) (es : List (Event ε)) :
    (column p t f id d es).IsChain R ↔ Meets (Db.step p) (CommitsAlong p t f R id) d es := by
  constructor
  · intro hchain
    refine (meets_of_isChain_history hchain).mono fun d e hR => ?_
    cases e with
    | fail i => trivial
    | step i ε =>
      intro s ha r r' hr hr'
      refine hR (f r) (f r') (by rw [hr]; rfl) ?_
      simp only [Db.step, ha, Db.perform, Db.finish, hr', Option.map_some]
  · intro hmeets
    refine Meets.isChain_history (fun d : Db Row S => d.Dead t id)
      (fun d hd => by rw [hd.committed]; rfl) (fun d e hd => hd.step p e) ?_
    refine hmeets.mono_of_inv (P := Db.Wf) h (fun d e hd _ => hd.step e) fun d e hd hR => ⟨?_, ?_⟩
    · intro a ha hnone
      have hsome : d.committed t id ≠ none := by
        intro hc
        rw [hc] at ha
        cases ha
      rw [Option.map_eq_none_iff] at hnone
      cases e with
      | fail i => exact Dead.of_perform (i := i) (a := .rollback _) hd hsome hnone
      | step i ε => exact Dead.of_perform hd hsome hnone
    · intro a b ha hb
      rcases step_committed_cases p d e with hsame | ⟨i, ε, s, rfl, hact, hcommit⟩
      · rw [hsame, ha] at hb
        rw [Option.some.inj hb]
        exact hrefl b
      · rw [hcommit] at hb
        obtain ⟨r, hr, rfl⟩ := Option.map_eq_some_iff.mp ha
        obtain ⟨r', hr', rfl⟩ := Option.map_eq_some_iff.mp hb
        exact hR s hact r r' hr hr'

end Column

/-! ### Transactions that update the column once

`upd` reads off a client's state the row whose column its transaction has updated, with the new value. -/

/-- The action leaves the column as it sees it, but for one UPDATE that `upd` records. -/
inductive Updates (t : T) (f : Row t → α) (upd : S → Option (Nat × α)) (v : View Row) (s : S) : Action Row S → Prop
  | next {s'} (h : upd s' = upd s) : Updates t f upd v s (.next s')
  | insert {t' row s'} (h : ∀ id, upd (s' id) = upd s) : Updates t f upd v s (.insert t' row s')
  | keep {cs s'} (hs : upd s = none) (h : upd s' = none)
      (hcs : ∀ id r, ⟨t, id, some r⟩ ∈ cs → ∃ r', v.rows t id = some r' ∧ f r' = f r) : Updates t f upd v s (.write cs s')
  | set {id r s'} (hs : upd s = none) (h : upd s' = some (id, f r)) : Updates t f upd v s (.write [⟨t, id, some r⟩] s')
  | commit {s'} (h : upd s' = none) : Updates t f upd v s (.commit s')
  | rollback {s'} (h : upd s' = none) : Updates t f upd v s (.rollback s')

/-- Code that never leaves the column changed, as a part of a program. -/
theorem Updates.of_keeps {S' : Type} {upd : S' → Option (Nat × α)} {v : View Row} {g : S → S'} {s : S}
    {a : Action Row S} (hnone : ∀ s, upd (g s) = none) (h : a.Keeps t f v) : Updates t f upd v (g s) (a.map g) := by
  cases a with
  | next s' => exact .next ((hnone s').trans (hnone s).symm)
  | insert t' row s' => exact .insert fun id => (hnone (s' id)).trans (hnone s).symm
  | write cs s' => exact .keep (hnone s) (hnone s') h
  | commit s' => exact .commit (hnone s')
  | rollback s' => exact .rollback (hnone s')

/-- What the transaction of client `i` has written keeps the column of the committed row. -/
def Kept (d : Db Row S) (t : T) (f : Row t → α) (i id : Nat) : Prop :=
  ∀ r, (d.client i).writes t id = some (some r) → ∀ c, d.committed t id = some c → f c = f r

/-- The transactions have updated the column where `upd` says so, and nowhere else. -/
structure Recorded (t : T) (f : Row t → α) (upd : S → Option (Nat × α)) (d : Db Row S) : Prop where
  wf : d.Wf
  sets : ∀ i id a, upd (d.client i).state = some (id, a) → ∃ r, (d.client i).writes t id = some (some r) ∧ f r = a
  kept : ∀ i id, (∀ a, upd (d.client i).state ≠ some (id, a)) → d.Kept t f i id

namespace Recorded
variable {upd : S → Option (Nat × α)} {i : Nat} {a : Action Row S}

theorem view_eq (h : Recorded t f upd d) {r c : Row t} (hnone : ∀ a, upd (d.client i).state ≠ some (id, a))
    (hr : (d.view i).rows t id = some r) (hc : d.committed t id = some c) : f c = f r := by
  cases hw : (d.client i).writes t id with
  | none =>
    rw [view_rows, Writes.onto_of_none hw, hc] at hr
    exact congrArg f (Option.some.inj hr)
  | some r' =>
    rw [view_rows, Writes.onto_of_some hw] at hr
    exact h.kept i id hnone r (by rw [hw, hr]) c hc

theorem start {committed : Rows Row} {seq : T → Nat} {state : Nat → S} (hfresh : ∀ t id, seq t ≤ id → committed t id = none)
    (hstate : ∀ i, upd (state i) = none) : Recorded t f upd (Db.start committed seq state) where
  wf := Db.Wf.start hfresh
  sets i id a ha := by
    rw [show upd ((Db.start committed seq state).client i).state = none from hstate i] at ha
    cases ha
  kept i id _ r hr := by cases hr

variable [DecidableEq T]

theorem own (h : Recorded t f upd d) (hu : Updates t f upd (d.view i) (d.client i).state a) :
    (∀ id a', upd ((d.perform i a).client i).state = some (id, a') →
      ∃ r, ((d.perform i a).client i).writes t id = some (some r) ∧ f r = a') ∧
    ∀ id, (∀ a', upd ((d.perform i a).client i).state ≠ some (id, a')) → (d.perform i a).Kept t f i id := by
  cases hu with
  | next hs =>
    simp only [perform, Kept, Function.update_self, hs]
    exact ⟨h.sets i, h.kept i⟩
  | @insert t' row s' hs =>
    have hfresh : ∀ id, d.seq t ≤ id → (d.client i).writes t id = none ∧ d.committed t id = none := fun id hid =>
      ⟨h.wf.writes_fresh hid, (h.wf.fresh t id hid).1⟩
    have hsets : ∀ id r, (d.client i).writes t id = some (some r) →
        (d.client i).writes.setAll [⟨t', d.seq t', some (row (d.seq t'))⟩] t id = some (some r) := by
      intro id r hw
      rw [Writes.setAll_cons, Writes.setAll_nil, Writes.set_of_not_at, hw]
      rintro ⟨ht, rfl⟩
      simp only at ht
      subst ht
      rw [(hfresh _ (Nat.le_refl _)).1] at hw
      cases hw
    refine ⟨fun id a' ha => ?_, fun id hnone r hr c hc => ?_⟩
    · simp only [perform, put, Function.update_self, hs] at ha ⊢
      obtain ⟨r, hr, hf⟩ := h.sets i id a' ha
      exact ⟨r, hsets id r hr, hf⟩
    · simp only [perform, put, Function.update_self, hs] at hnone
      rw [perform_committed (by simp)] at hc
      rcases perform_writes hr with hw | ⟨-, ⟨row', s'', ha, rfl, -⟩ | ⟨cs, s'', ha, -⟩⟩
      · exact h.kept i id hnone r hw c hc
      · rw [(hfresh _ (Nat.le_refl _)).2] at hc
        cases hc
      · cases ha
  | @keep cs s' hs hs' hcs =>
    by_cases hall : cs.all (d.writable i) = true
    · refine ⟨fun id a' ha => ?_, fun id _ r hr c hc => ?_⟩
      · simp only [perform, hall, if_true, put, Function.update_self, hs'] at ha
        cases ha
      · rw [perform_committed (by simp)] at hc
        rcases perform_writes hr with hw | ⟨-, ⟨row', s'', ha, -, -⟩ | ⟨cs', s'', ha, hmem⟩⟩
        · exact h.kept i id (by simp [hs]) r hw c hc
        · cases ha
        · cases ha
          obtain ⟨r', hr', hf⟩ := hcs id r hmem
          rw [← hf]
          exact h.view_eq (by simp [hs]) hr' hc
    · simp only [perform, hall]
      exact ⟨h.sets i, h.kept i⟩
  | @set id r s' hs hs' =>
    by_cases hall : [(⟨t, id, some r⟩ : Change Row)].all (d.writable i) = true
    · refine ⟨fun id' a' ha => ?_, fun id' hnone r' hr c hc => ?_⟩
      · simp only [perform, hall, if_true, put, Function.update_self, hs', Writes.setAll_cons, Writes.setAll_nil] at ha ⊢
        cases ha
        exact ⟨r, Writes.set_self, rfl⟩
      · have hid : id' ≠ id := by
          rintro rfl
          simp only [perform, hall, if_true, put, Function.update_self, hs'] at hnone
          exact hnone (f r) rfl
        rw [perform_committed (by simp)] at hc
        rcases perform_writes hr with hw | ⟨-, ⟨row', s'', ha, -, -⟩ | ⟨cs', s'', ha, hmem⟩⟩
        · exact h.kept i id' (by simp [hs]) r' hw c hc
        · cases ha
        · cases ha
          simp only [List.mem_singleton, Change.mk.injEq] at hmem
          exact absurd hmem.2.1 hid
    · simp only [perform, hall]
      exact ⟨h.sets i, h.kept i⟩
  | commit hs =>
    refine ⟨fun id a' ha => ?_, fun id _ r hr => ?_⟩
    · simp only [perform, finish, Function.update_self, hs] at ha
      cases ha
    · simp [perform, finish] at hr
  | rollback hs =>
    refine ⟨fun id a' ha => ?_, fun id _ r hr => ?_⟩
    · simp only [perform, finish, Function.update_self, hs] at ha
      cases ha
    · simp [perform, finish] at hr

theorem perform (h : Recorded t f upd d) (hu : Updates t f upd (d.view i) (d.client i).state a) :
    Recorded t f upd (d.perform i a) where
  wf := h.wf.perform a
  sets j := by
    by_cases hj : j = i
    · subst hj
      exact (h.own hu).1
    · rw [perform_client_of_ne hj]
      exact h.sets j
  kept j id hnone := by
    by_cases hj : j = i
    · subst hj
      exact (h.own hu).2 id hnone
    · intro r hr c hc
      rw [perform_client_of_ne hj] at hnone hr
      rw [h.wf.committed_of_writes (by simp [hr]) hj] at hc
      exact h.kept j id hnone r hr c hc

theorem step (h : Recorded t f upd d) (hact : ∀ e s v, Updates t f upd v s (p.act e s v))
    (hfail : ∀ s, upd (p.fail s) = none) (e : Event ε) : Recorded t f upd (d.step p e) := by
  cases e with
  | step i e => exact h.perform (hact e _ _)
  | fail i => exact h.perform (a := .rollback _) (.rollback (hfail _))

end Recorded

/-- A step that commits an UPDATE of the column moves it along `R`. -/
def UpdatesAlong (p : Program Row S ε) (t : T) (f : Row t → α) (upd : S → Option (Nat × α)) (R : α → α → Prop) (id : Nat)
    (d : Db Row S) : Event ε → Prop
  | .step i e => ∀ s a, p.act e (d.client i).state (d.view i) = .commit s → upd (d.client i).state = some (id, a) →
    ∀ r, d.committed t id = some r → R (f r) a
  | .fail _ => True

theorem Recorded.commitsAlong_iff {upd : S → Option (Nat × α)} (hrefl : ∀ a, R a a) (h : Recorded t f upd d) (e : Event ε) :
    CommitsAlong p t f R id d e ↔ UpdatesAlong p t f upd R id d e := by
  cases e with
  | fail i => exact Iff.rfl
  | step i e =>
    refine ⟨fun hR s a ha hu r hr => ?_, fun hR s ha r r' hr hr' => ?_⟩
    · obtain ⟨r', hr', rfl⟩ := h.sets i id a hu
      exact hR s ha r r' hr (by rw [view_rows, Writes.onto_of_some hr'])
    · by_cases hu : ∃ a, upd (d.client i).state = some (id, a)
      · obtain ⟨a, hu⟩ := hu
        obtain ⟨r'', hr'', rfl⟩ := h.sets i id a hu
        rw [view_rows, Writes.onto_of_some hr''] at hr'
        rw [← Option.some.inj hr']
        exact hR s _ ha hu r hr
      · rw [h.view_eq (fun a ha' => hu ⟨a, ha'⟩) hr' hr]
        exact hrefl _

variable [DecidableEq T]

/-- The committed values of a column form a path of `R` exactly when every commit of an UPDATE moves it along `R`. -/
theorem isChain_column_iff_updates {upd : S → Option (Nat × α)} (hrefl : ∀ a, R a a) (h : Recorded t f upd d)
    (hact : ∀ e s v, Updates t f upd v s (p.act e s v)) (hfail : ∀ s, upd (p.fail s) = none) (es : List (Event ε)) :
    (column p t f id d es).IsChain R ↔ Meets (Db.step p) (UpdatesAlong p t f upd R id) d es := by
  have hstep : ∀ (d : Db Row S) (e : Event ε), Recorded t f upd d → Recorded t f upd (d.step p e) := fun d e hd =>
    hd.step hact hfail e
  refine (isChain_column_iff hrefl h.wf es).trans ⟨fun hm => ?_, fun hm => ?_⟩
  · exact hm.mono_of_inv h (fun d e hd _ => hstep d e hd) fun d e hd => (hd.commitsAlong_iff hrefl e).mp
  · exact hm.mono_of_inv h (fun d e hd _ => hstep d e hd) fun d e hd => (hd.commitsAlong_iff hrefl e).mpr

end Db

end ReadCommitted
