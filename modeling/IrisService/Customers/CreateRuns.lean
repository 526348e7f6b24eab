import IrisService.Customers.Create

/-! Announcements of new customers over whole runs. -/

namespace IrisService.Customers
open ReadCommitted Db Runs

/-- The customer that an open request has inserted. -/
def Create.inserted : Create → Option CustomerResponse
  | .flushed dto | .pushed dto | .buffered dto | .published dto => some dto
  | _ => none

/-- What holds in every run. -/
structure CreateInv (d : Db Row Session) : Prop where
  wf : d.Wf
  kept : ∀ i id, (d.client i).writes .customer id ≠ some none
  /-- A row that a request has inserted is its own until it commits. -/
  inserted : ∀ i dto, (d.client i).state.at_.inserted = some dto →
    (∃ row, (d.client i).writes .customer dto.id = some (some row)) ∧ d.committed .customer dto.id = none

namespace CreateInv
variable {d : Db Row Session} {i : Nat} {a : Action Row Session}

/-- The action does not end in the middle of a request with other changes than the request's own row. -/
inductive Plain (s : Session) : Action Row Session → Prop
  | next {s'} (h : s'.at_.inserted = s.at_.inserted) : Plain s (.next s')
  | insert {row s'} (h : ∀ id, ∃ dto, (s' id).at_.inserted = some dto ∧ dto.id = id) (hs : s.at_.inserted = none) :
      Plain s (.insert .customer row s')
  | commit {s'} (h : s'.at_.inserted = none) : Plain s (.commit s')
  | rollback {s'} (h : s'.at_.inserted = none) : Plain s (.rollback s')

theorem kept_perform (h : CreateInv d) (ha : Plain (d.client i).state a) (j id : Nat) :
    ((d.perform i a).client j).writes .customer id ≠ some none := by
  intro hw
  by_cases hne : j = i
  · subst hne
    cases ha with
    | next _ =>
      simp only [perform, Function.update_self] at hw
      exact h.kept j id hw
    | @insert row s' _ _ =>
      simp only [perform, put, Function.update_self, Writes.setAll_cons, Writes.setAll_nil] at hw
      by_cases hid : id = d.seq .customer
      · rw [hid, Writes.set_self] at hw
        cases hw
      · rw [Writes.set_of_id_ne hid] at hw
        exact h.kept j id hw
    | _ => simp [perform, finish] at hw
  · rw [perform_client_of_ne hne] at hw
    exact h.kept j id hw

/-- A committed customer stays. -/
theorem committed_perform (h : CreateInv d) {id : Nat} (hid : d.committed .customer id ≠ none) :
    (d.perform i a).committed .customer id ≠ none := by
  cases a with
  | commit s =>
    simp only [perform, finish, view_rows]
    cases hw : (d.client i).writes .customer id with
    | none => rwa [Writes.onto_of_none hw]
    | some x =>
      rw [Writes.onto_of_some hw]
      rintro rfl
      exact h.kept i id hw
  | _ => rwa [perform_committed (by simp)]

theorem perform (h : CreateInv d) (ha : Plain (d.client i).state a) : CreateInv (d.perform i a) where
  wf := h.wf.perform a
  kept := h.kept_perform ha
  inserted j dto hj := by
    by_cases hne : j = i
    · subst hne
      cases ha with
      | next hs =>
        simp only [Db.perform, Function.update_self, hs] at hj ⊢
        exact h.inserted j dto hj
      | @insert row s' hs hnone =>
        simp only [Db.perform, put, Function.update_self] at hj ⊢
        obtain ⟨dto', hs', hid⟩ := hs (d.seq .customer)
        rw [hs'] at hj
        cases hj
        rw [hid, Writes.setAll_cons, Writes.setAll_nil, Writes.set_self]
        exact ⟨⟨_, rfl⟩, (h.wf.fresh .customer _ (Nat.le_refl _)).1⟩
      | commit hs | rollback hs =>
        simp only [Db.perform, finish, Function.update_self, hs] at hj
        cases hj
    · rw [perform_client_of_ne hne] at hj ⊢
      obtain ⟨⟨row, hw⟩, hnone⟩ := h.inserted j dto hj
      have hheld : (d.client j).writes .customer dto.id ≠ none := by
        rw [hw]
        exact Option.some_ne_none _
      exact ⟨⟨row, hw⟩, by rw [h.wf.committed_of_writes hheld hne, hnone]⟩

end CreateInv

/-! ### One step -/

section Steps
variable {w : World} {e : Event}

/-- A step takes one action on the database, or leaves it alone. -/
theorem step_db (w : World) (e : Event) : (step w e).db = w.db ∨
    ∃ i a, (step w e).db = w.db.perform i a ∧ CreateInv.Plain (w.db.client i).state a := by
  cases e with
  | abandon i =>
    simp only [step]
    split
    · exact Or.inl rfl
    · exact Or.inr ⟨i, _, rfl, .rollback rfl⟩
  | step i env =>
    simp only [step]
    split
    · rename_i hat
      simp only [insertCustomer]
      split
      · exact Or.inr ⟨i, _, rfl, .rollback rfl⟩
      · split
        · exact Or.inr ⟨i, _, rfl, .rollback rfl⟩
        · split
          · exact Or.inl rfl
          · exact Or.inr ⟨i, _, rfl, .insert (fun id => ⟨_, rfl, rfl⟩) (by rw [hat]; rfl)⟩
    · rename_i hat
      split <;> exact Or.inr ⟨i, _, rfl, .next (by rw [hat]; rfl)⟩
    · rename_i hat
      exact Or.inr ⟨i, _, rfl, .next (by rw [hat]; rfl)⟩
    · rename_i hat
      exact Or.inr ⟨i, _, rfl, .next (by rw [hat]; rfl)⟩
    · split
      · exact Or.inr ⟨i, _, rfl, .rollback rfl⟩
      · exact Or.inr ⟨i, _, rfl, .commit rfl⟩
    · exact Or.inl rfl

theorem CreateInv.step (h : CreateInv w.db) (e : Event) : CreateInv (Customers.step w e).db := by
  rcases step_db w e with hsame | ⟨i, a, hdb, ha⟩
  · rw [hsame]
    exact h
  · rw [hdb]
    exact h.perform ha

theorem committed_step (h : CreateInv w.db) (e : Event) {id : Nat} (hid : w.db.committed .customer id ≠ none) :
    (step w e).db.committed .customer id ≠ none := by
  rcases step_db w e with hsame | ⟨i, a, hdb, -⟩
  · rwa [hsame]
  · rw [hdb]
    exact h.committed_perform hid

/-- A silent step announces nothing new. -/
theorem silent_step (h : Silent w e) :
    (∀ entry ∈ (step w e).recent, entry ∈ w.recent) ∧ (step w e).created = w.created := by
  cases e with
  | abandon i =>
    simp only [step]
    split <;> exact ⟨fun _ h => h, rfl⟩
  | step i env =>
    simp only [Silent] at h
    simp only [step]
    split
    · exact ⟨fun _ h => h, rfl⟩
    · rename_i dto hat
      rw [hat] at h
      rw [h]
      exact ⟨fun _ h => h, rfl⟩
    · refine ⟨fun entry hentry => ?_, rfl⟩
      simp only at hentry
      split at hentry
      · exact hentry
      · exact List.mem_of_mem_take hentry
    · rename_i dto hat
      rw [hat] at h
      refine ⟨fun _ h => h, ?_⟩
      rcases h with h | h
      · simp [h]
      · simp [h]
    · split <;> exact ⟨fun _ h => h, rfl⟩
    · exact ⟨fun _ h => h, rfl⟩

/-- Any other step announces the customer that its request has just inserted, and commits nothing. -/
theorem loud_step (h : ¬Silent w e) : ∃ i dto, (w.db.client i).state.at_.inserted = some dto ∧
    (step w e).db.committed = w.db.committed ∧
      (dto ∈ (step w e).recent ∨ ⟨dto.id, dto.name, dto.email⟩ ∈ (step w e).created) := by
  cases e with
  | abandon i => exact absurd trivial h
  | step i env =>
    simp only [Silent] at h
    simp only [step]
    split
    · rename_i hat
      exact absurd (by rw [hat]; trivial) h
    · rename_i dto hat
      rw [hat] at h
      refine ⟨i, dto, by rw [hat]; rfl, ?_⟩
      cases ho : env.outcome with
      | refused => exact absurd ho h
      | ok => exact ⟨rfl, Or.inl List.mem_cons_self⟩
      | lost => exact ⟨rfl, Or.inl List.mem_cons_self⟩
    · rename_i hat
      exact absurd (by rw [hat]; trivial) h
    · rename_i dto hat
      rw [hat] at h
      simp only [not_or, Bool.not_eq_false] at h
      refine ⟨i, dto, by rw [hat]; rfl, rfl, Or.inr ?_⟩
      simp [h.1, h.2]
    · rename_i hat
      exact absurd (by rw [hat]; trivial) h
    · rename_i hat
      exact absurd (by rw [hat]; trivial) h

end Steps

/-! ### Whole runs -/

theorem Stores.createInv (stores : Stores) (bodies : Nat → CustomerCreate) : CreateInv (stores.serve bodies).db where
  wf := Db.Wf.start stores.fresh
  kept i id hw := by cases hw
  inserted i dto h := by cases h

/-- In every state of a run each announcement is about a committed customer exactly when no step announces anything. -/
theorem announced_iff_silent (stores : Stores) (bodies : Nat → CustomerCreate) (es : List Event) :
    (∀ w ∈ states step (stores.serve bodies) es, w.Announced) ↔ Meets step Silent (stores.serve bodies) es := by
  have h0 := stores.createInv bodies
  constructor
  · intro hannounced
    refine meets_of_states hannounced (P := fun w => CreateInv w.db) h0 (fun w e h => h.step e) fun w e h hnext => ?_
    by_contra hloud
    obtain ⟨i, dto, hinserted, hcommitted, hmem⟩ := loud_step hloud
    have hnone := (h.inserted i dto hinserted).2
    rcases hmem with hmem | hmem
    · exact hnext.recent dto hmem (by rw [hcommitted, hnone])
    · exact hnext.created _ hmem (by rw [hcommitted, hnone])
  · intro hsilent w hw
    have hinv := hsilent.states (P := fun w => CreateInv w.db ∧ w.Announced) ⟨h0, stores.announced⟩
      (fun w e h hok => ⟨h.1.step e, ?_⟩) w hw
    · exact hinv.2
    · obtain ⟨hrecent, hcreated⟩ := silent_step hok
      refine ⟨fun entry hentry => ?_, fun record hrecord => ?_⟩
      · exact committed_step h.1 e (h.2.recent entry (hrecent entry hentry))
      · rw [hcreated] at hrecord
        exact committed_step h.1 e (h.2.created record hrecord)

/-! ### A commit that fails -/

/-- A store without customers. -/
def noCustomers : Stores where
  rows _ _ := none
  seq _ := 1
  recent := []
  created := []
  fresh _ _ _ := rfl
  announced := ⟨fun _ h => by simp at h, fun _ h => by simp at h⟩

def sunrise (outcome : Outcome) : Env := ⟨⟨0, some 0⟩, outcome, true⟩

/-- The customer is pushed and published, and then its transaction is rolled back. -/
theorem announced_and_rolled_back : ¬∀ (stores : Stores) (bodies : Nat → CustomerCreate) (es : List Event),
    ∀ w ∈ states step (stores.serve bodies) es, w.Announced := by
  intro h
  have hend := h noCustomers (fun _ => ⟨"Ada", "ada@example.com"⟩)
    [.step 0 (sunrise .ok), .step 0 (sunrise .ok), .step 0 (sunrise .ok), .step 0 (sunrise .ok), .step 0 (sunrise .refused)]
    _ (run_mem_states _ _)
  exact hend.created ⟨1, "Ada", "ada@example.com"⟩ (by decide) rfl

end IrisService.Customers
