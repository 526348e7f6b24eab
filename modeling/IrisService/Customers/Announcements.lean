import IrisService.Customers.CreateRuns

/-! Each new customer is announced once: its entry in the buffer and its record in the topic are not doubled, and while
Kafka takes the records none is missing. -/

namespace IrisService.Customers
open ReadCommitted Db Runs

/-- The customer that the request has yet to send to the topic. -/
def Create.unsent : Create → Option CustomerResponse
  | .flushed dto | .pushed dto | .buffered dto => some dto
  | _ => none

/-- The customer whose turn to be sent is over. -/
def Create.sent : Create → Option CustomerResponse
  | .published dto | .done (.created dto) => some dto
  | _ => none

/-- The event of a created customer. -/
def CustomerResponse.event (dto : CustomerResponse) : CustomerCreatedEvent := ⟨dto.id, dto.name, dto.email⟩

/-- The point that request `i` has come to. -/
def World.at_ (w : World) (i : Nat) : Create := (w.db.client i).state.at_

/-- A send finds the producer of Kafka and is not refused. -/
def Sent (w : World) : Event → Prop
  | .abandon _ => True
  | .step i env => ∀ dto, w.at_ i = .buffered dto → env.producer = true ∧ env.outcome ≠ .refused

/-! ### What a step does -/

/-- What a step of request `i` does to it and to the announcements. -/
inductive Turn (w : World) (e : Event) (i : Nat) (w' : World) : Prop where
  | quiet (seq : w'.db.seq = w.db.seq) (inserted : ∀ dto, (w'.at_ i).inserted = some dto → (w.at_ i).inserted = some dto)
      (unsent : ∀ dto, (w'.at_ i).unsent = some dto → (w.at_ i).unsent = some dto)
      (flushed : ∀ dto, w'.at_ i = .flushed dto → w.at_ i = .flushed dto)
      (sent : ∀ dto, (w'.at_ i).sent = some dto → (w.at_ i).sent = some dto ∨ ¬Sent w e)
      (recent : w'.recent.Sublist w.recent) (created : w'.created = w.created)
  | inserts (dto : CustomerResponse) (after : w'.at_ i = .flushed dto) (id : dto.id = w.db.seq .customer)
      (name : dto.name = (w.db.client i).state.body.name) (email : dto.email = (w.db.client i).state.body.email)
      (seq : w'.db.seq .customer = w.db.seq .customer + 1) (recent : w'.recent = w.recent)
      (created : w'.created = w.created)
  | pushes (dto : CustomerResponse) (before : w.at_ i = .flushed dto)
      (after : w'.at_ i = .pushed dto ∨ w'.at_ i = .buffered dto)
      (seq : w'.db.seq = w.db.seq) (recent : w'.recent = dto :: w.recent) (created : w'.created = w.created)
  | sends (dto : CustomerResponse) (before : w.at_ i = .buffered dto) (after : w'.at_ i = .published dto)
      (seq : w'.db.seq = w.db.seq) (recent : w'.recent = w.recent) (created : w'.created = w.created ++ [dto.event])

section Turns
variable {w w' : World} {e : Event} {i : Nat}

/-- A request that ends announces nothing. -/
theorem Turn.ends {a : Answer} (hat : w'.at_ i = .done a) (ha : ∀ dto, a = .created dto → (w.at_ i).sent = some dto)
    (hseq : w'.db.seq = w.db.seq) (hrecent : w'.recent = w.recent) (hcreated : w'.created = w.created) : Turn w e i w' := by
  refine .quiet hseq ?_ ?_ ?_ ?_ (hrecent ▸ List.Sublist.refl _) hcreated
  · intro dto h
    rw [hat] at h
    cases h
  · intro dto h
    rw [hat] at h
    cases h
  · intro dto h
    rw [hat] at h
    cases h
  · intro dto h
    rw [hat] at h
    cases a with
    | created dto' =>
      cases h
      exact Or.inl (ha dto rfl)
    | _ => cases h

theorem Turn.rests (hat : w'.at_ i = w.at_ i) (hseq : w'.db.seq = w.db.seq) (hrecent : w'.recent = w.recent)
    (hcreated : w'.created = w.created) : Turn w e i w' := by
  refine .quiet hseq ?_ ?_ ?_ ?_ (hrecent ▸ List.Sublist.refl _) hcreated
  · exact fun dto h => hat ▸ h
  · exact fun dto h => hat ▸ h
  · exact fun dto h => hat ▸ h
  · exact fun dto h => Or.inl (hat ▸ h)

end Turns

/-- The request that the event belongs to. -/
def Event.request : Event → Nat
  | .step i _ => i
  | .abandon i => i

section Steps
variable {w : World} {i : Nat} {env : Env}

/-- A step takes one action of its own request, which keeps its body, or leaves the database alone. -/
theorem step_acts (w : World) (e : Event) : (step w e).db = w.db ∨ ∃ a, (step w e).db = w.db.perform e.request a ∧
    a.All fun session => session.body = (w.db.client e.request).state.body := by
  cases e with
  | abandon i =>
    simp only [step, Event.request]
    split
    · exact Or.inl rfl
    · exact Or.inr ⟨.rollback _, rfl, rfl⟩
  | step i env =>
    simp only [step, Event.request]
    split
    · unfold insertCustomer
      split
      · exact Or.inr ⟨.rollback _, rfl, rfl⟩
      · split
        · exact Or.inr ⟨.rollback _, rfl, rfl⟩
        · split
          · exact Or.inl rfl
          · let body := (w.db.client i).state.body
            exact Or.inr ⟨.insert .customer (fun _ => newCustomer body env.now) fun id =>
              ⟨body, .flushed ⟨id, body.name, body.email⟩⟩, rfl, fun _ => rfl⟩
    · split <;> exact Or.inr ⟨.next _, rfl, rfl⟩
    · exact Or.inr ⟨.next _, rfl, rfl⟩
    · exact Or.inr ⟨.next _, rfl, rfl⟩
    · split
      · exact Or.inr ⟨.rollback _, rfl, rfl⟩
      · exact Or.inr ⟨.commit _, rfl, rfl⟩
    · exact Or.inl rfl

theorem step_of_ne {e : Event} {j : Nat} (h : j ≠ e.request) : (step w e).db.client j = w.db.client j := by
  rcases step_acts w e with hsame | ⟨a, hact, -⟩
  · rw [hsame]
  · rw [hact, perform_client_of_ne h]

theorem step_body (w : World) (e : Event) (j : Nat) : ((step w e).db.client j).state.body = (w.db.client j).state.body := by
  by_cases hne : j = e.request
  · subst hne
    rcases step_acts w e with hsame | ⟨a, hact, hbody⟩
    · rw [hsame]
    · rw [hact]
      exact perform_state (P := fun session : Session => session.body = (w.db.client e.request).state.body) rfl hbody
  · rw [step_of_ne hne]

theorem turn_abandon (w : World) (i : Nat) : Turn w (.abandon i) i (step w (.abandon i)) := by
  cases hat : (w.db.client i).state.at_ with
  | done a =>
    have hsame : step w (.abandon i) = w := by simp only [step, hat]
    exact .rests (by rw [hsame]) (by rw [hsame]) (by rw [hsame]) (by rw [hsame])
  | _ =>
    refine .ends (a := .raised "CancelledError") ?_ (fun dto h => by cases h) ?_ ?_ ?_
    all_goals simp [step, hat, World.at_, perform, finish]

theorem turn_start (hat : w.at_ i = .start) : Turn w (.step i env) i (step w (.step i env)) := by
  have hstep : step w (.step i env) = { w with db := insertCustomer w.db i (w.db.client i).state.body env } := by
    simp only [step, show (w.db.client i).state.at_ = .start from hat]
  rw [hstep]
  simp only [insertCustomer]
  split
  · exact .ends (by simp [World.at_, perform, finish]; rfl) (fun dto h => by cases h) rfl rfl rfl
  · split
    · exact .ends (by simp [World.at_, perform, finish]; rfl) (fun dto h => by cases h) rfl rfl rfl
    · split
      · exact .rests rfl rfl rfl rfl
      · exact .inserts ⟨w.db.seq .customer, _, _⟩ (by simp [World.at_, perform, put]) rfl rfl rfl
          (by simp [perform]) rfl rfl

theorem turn_flushed {dto : CustomerResponse} (hat : w.at_ i = .flushed dto) :
    Turn w (.step i env) i (step w (.step i env)) := by
  have hstate : (w.db.client i).state.at_ = .flushed dto := hat
  cases houtcome : env.outcome with
  | ok =>
    simp only [step, hstate, houtcome]
    exact .pushes dto hat (Or.inl (by simp [World.at_, perform])) rfl rfl rfl
  | lost =>
    simp only [step, hstate, houtcome]
    exact .pushes dto hat (Or.inr (by simp [World.at_, perform])) rfl rfl rfl
  | refused =>
    simp only [step, hstate, houtcome]
    refine .quiet rfl ?_ ?_ ?_ ?_ (List.Sublist.refl _) rfl
    all_goals simp [World.at_, perform, hstate, Create.inserted, Create.unsent, Create.sent]

theorem turn_pushed {dto : CustomerResponse} (hat : w.at_ i = .pushed dto) :
    Turn w (.step i env) i (step w (.step i env)) := by
  have hstate : (w.db.client i).state.at_ = .pushed dto := hat
  simp only [step, hstate]
  refine .quiet rfl ?_ ?_ ?_ ?_ ?_ rfl
  · simp [World.at_, perform, hstate, Create.inserted]
  · simp [World.at_, perform, hstate, Create.unsent]
  · simp [World.at_, perform]
  · simp [World.at_, perform, Create.sent]
  · show List.Sublist (if env.outcome = .refused then w.recent else w.recent.take maxSize) w.recent
    split
    · exact List.Sublist.refl _
    · exact List.take_sublist _ _

theorem turn_buffered {dto : CustomerResponse} (hat : w.at_ i = .buffered dto) :
    Turn w (.step i env) i (step w (.step i env)) := by
  have hstate : (w.db.client i).state.at_ = .buffered dto := hat
  cases hsent : env.producer && decide (env.outcome ≠ .refused) with
  | true =>
    simp only [step, hstate, hsent]
    exact .sends dto hat (by simp [World.at_, perform]) rfl rfl rfl
  | false =>
    have hnot : ¬Sent w (.step i env) := by
      intro h
      obtain ⟨hproducer, houtcome⟩ := h dto hat
      rw [hproducer, decide_eq_true houtcome] at hsent
      cases hsent
    simp only [step, hstate, hsent]
    refine .quiet rfl ?_ ?_ ?_ (fun _ _ => Or.inr hnot) (List.Sublist.refl _) rfl
    all_goals simp [World.at_, perform, hstate, Create.inserted, Create.unsent]

theorem turn_published {dto : CustomerResponse} (hat : w.at_ i = .published dto) :
    Turn w (.step i env) i (step w (.step i env)) := by
  have hstate : (w.db.client i).state.at_ = .published dto := hat
  have hsent : ∀ dto', Answer.created dto = .created dto' → (w.at_ i).sent = some dto' := by
    rintro dto' ⟨⟩
    rw [hat]
    rfl
  simp only [step, hstate]
  split
  · exact .ends (by simp [World.at_, perform, finish]) hsent rfl rfl rfl
  · exact .ends (by simp [World.at_, perform, finish]) hsent rfl rfl rfl

theorem step_turn (w : World) (e : Event) : Turn w e e.request (step w e) := by
  cases e with
  | abandon i => exact turn_abandon w i
  | step i env =>
    show Turn w (.step i env) i _
    cases hat : w.at_ i with
    | start => exact turn_start hat
    | flushed dto => exact turn_flushed hat
    | pushed dto => exact turn_pushed hat
    | buffered dto => exact turn_buffered hat
    | published dto => exact turn_published hat
    | done a =>
      have hsame : step w (.step i env) = w := by simp only [step, show (w.db.client i).state.at_ = .done a from hat]
      rw [hsame]
      exact .rests rfl rfl rfl rfl

end Steps

/-! ### Runs -/

/-- `first` is the first identity for a new customer, `old` was in the topic before. -/
structure OnceInv (bodies : Nat → CustomerCreate) (first : Nat) (old : List CustomerCreatedEvent) (w : World)
    (new : List CustomerCreatedEvent) : Prop where
  base : CreateInv w.db
  first_le : first ≤ w.db.seq .customer
  body : ∀ i, (w.db.client i).state.body = bodies i
  inserted : ∀ i dto, (w.at_ i).inserted = some dto →
    first ≤ dto.id ∧ dto.id < w.db.seq .customer ∧ dto.name = (bodies i).name ∧ dto.email = (bodies i).email
  created : w.created = old ++ new
  listed : ∀ entry ∈ w.recent, entry.id < w.db.seq .customer
  recorded : ∀ record ∈ new, record.id < w.db.seq .customer
  recent_nodup : ((w.recent.filter fun entry => first ≤ entry.id).map CustomerResponse.id).Nodup
  new_nodup : (new.map CustomerCreatedEvent.id).Nodup
  new_from : ∀ record ∈ new, first ≤ record.id ∧ ∃ i, record.name = (bodies i).name ∧ record.email = (bodies i).email
  unpushed : ∀ i dto, w.at_ i = .flushed dto → ∀ entry ∈ w.recent, entry.id ≠ dto.id
  unsent : ∀ i dto, (w.at_ i).unsent = some dto → ∀ record ∈ new, record.id ≠ dto.id

theorem Create.inserted_of_unsent {st : Create} {dto : CustomerResponse} (h : st.unsent = some dto) :
    st.inserted = some dto := by
  cases st <;> first | exact h | cases h

namespace OnceInv
variable {bodies : Nat → CustomerCreate} {first : Nat} {old new : List CustomerCreatedEvent} {w : World} {e : Event}
  {i j : Nat}

/-- Two requests do not insert the same customer. -/
theorem distinct (h : OnceInv bodies first old w new) {dto dto' : CustomerResponse} (hi : (w.at_ i).inserted = some dto)
    (hj : (w.at_ j).inserted = some dto') (hne : j ≠ i) : dto.id ≠ dto'.id := by
  intro hid
  obtain ⟨⟨row, hw⟩, -⟩ := h.base.inserted i dto hi
  obtain ⟨⟨row', hw'⟩, -⟩ := h.base.inserted j dto' hj
  rw [← hid] at hw'
  exact hne (h.base.wf.writes_unique (by rw [hw']; simp) (by rw [hw]; simp))

theorem at_of_ne (hi : i ≠ e.request) : (step w e).at_ i = w.at_ i := by
  rw [World.at_, World.at_, step_of_ne hi]

theorem step_quiet (h : OnceInv bodies first old w new) (hseq : (step w e).db.seq = w.db.seq)
    (hinserted : ∀ dto, ((step w e).at_ e.request).inserted = some dto → (w.at_ e.request).inserted = some dto)
    (hunsent : ∀ dto, ((step w e).at_ e.request).unsent = some dto → (w.at_ e.request).unsent = some dto)
    (hflushed : ∀ dto, (step w e).at_ e.request = .flushed dto → w.at_ e.request = .flushed dto)
    (hrecent : (step w e).recent.Sublist w.recent) (hcreated : (step w e).created = w.created) :
    OnceInv bodies first old (step w e) new where
  base := h.base.step e
  first_le := hseq ▸ h.first_le
  body i := (step_body w e i).trans (h.body i)
  inserted i dto hdto := by
    rw [hseq]
    by_cases hi : i = e.request
    · subst hi
      exact h.inserted _ dto (hinserted dto hdto)
    · exact h.inserted i dto (at_of_ne hi ▸ hdto)
  created := hcreated.trans h.created
  listed entry hentry := hseq ▸ h.listed entry (hrecent.subset hentry)
  recorded := hseq ▸ h.recorded
  recent_nodup := h.recent_nodup.sublist ((hrecent.filter _).map _)
  new_nodup := h.new_nodup
  new_from := h.new_from
  unpushed i dto hdto entry hentry := by
    by_cases hi : i = e.request
    · subst hi
      exact h.unpushed _ dto (hflushed dto hdto) entry (hrecent.subset hentry)
    · exact h.unpushed i dto (at_of_ne hi ▸ hdto) entry (hrecent.subset hentry)
  unsent i dto hdto := by
    by_cases hi : i = e.request
    · subst hi
      exact h.unsent _ dto (hunsent dto hdto)
    · exact h.unsent i dto (at_of_ne hi ▸ hdto)

/-- A new row has an identity that nothing is announced under. -/
theorem step_inserts (h : OnceInv bodies first old w new) {dto : CustomerResponse}
    (hafter : (step w e).at_ e.request = .flushed dto) (hid : dto.id = w.db.seq .customer)
    (hname : dto.name = (w.db.client e.request).state.body.name)
    (hemail : dto.email = (w.db.client e.request).state.body.email)
    (hseq : (step w e).db.seq .customer = w.db.seq .customer + 1) (hrecent : (step w e).recent = w.recent)
    (hcreated : (step w e).created = w.created) : OnceInv bodies first old (step w e) new where
  base := h.base.step e
  first_le := by
    rw [hseq]
    exact Nat.le_succ_of_le h.first_le
  body i := (step_body w e i).trans (h.body i)
  inserted i dto' hdto := by
    rw [hseq]
    by_cases hi : i = e.request
    · subst hi
      rw [hafter] at hdto
      cases hdto
      rw [h.body] at hname hemail
      exact ⟨hid ▸ h.first_le, by omega, hname, hemail⟩
    · obtain ⟨hfirst, hlt, hrest⟩ := h.inserted i dto' (at_of_ne hi ▸ hdto)
      exact ⟨hfirst, Nat.lt_succ_of_lt hlt, hrest⟩
  created := hcreated.trans h.created
  listed entry hentry := by
    rw [hseq]
    exact Nat.lt_succ_of_lt (h.listed entry (hrecent ▸ hentry))
  recorded record hrecord := by
    rw [hseq]
    exact Nat.lt_succ_of_lt (h.recorded record hrecord)
  recent_nodup := hrecent ▸ h.recent_nodup
  new_nodup := h.new_nodup
  new_from := h.new_from
  unpushed i dto' hdto entry hentry := by
    rw [hrecent] at hentry
    by_cases hi : i = e.request
    · subst hi
      rw [hafter] at hdto
      cases hdto
      exact hid ▸ Nat.ne_of_lt (h.listed entry hentry)
    · exact h.unpushed i dto' (at_of_ne hi ▸ hdto) entry hentry
  unsent i dto' hdto record hrecord := by
    by_cases hi : i = e.request
    · subst hi
      rw [hafter] at hdto
      cases hdto
      exact hid ▸ Nat.ne_of_lt (h.recorded record hrecord)
    · exact h.unsent i dto' (at_of_ne hi ▸ hdto) record hrecord

theorem step_pushes (h : OnceInv bodies first old w new) {dto : CustomerResponse} (hbefore : w.at_ e.request = .flushed dto)
    (hafter : (step w e).at_ e.request = .pushed dto ∨ (step w e).at_ e.request = .buffered dto)
    (hseq : (step w e).db.seq = w.db.seq) (hrecent : (step w e).recent = dto :: w.recent)
    (hcreated : (step w e).created = w.created) : OnceInv bodies first old (step w e) new := by
  have hown : (w.at_ e.request).inserted = some dto := by rw [hbefore]; rfl
  obtain ⟨hfirst, hlt, hfrom⟩ := h.inserted _ dto hown
  have hstill : ∀ dto', ((step w e).at_ e.request).inserted = some dto' ∨ ((step w e).at_ e.request).unsent = some dto' →
      dto' = dto := by
    intro dto' hdto
    rcases hafter with hat | hat
    · rw [hat] at hdto
      rcases hdto with hdto | hdto <;> exact (Option.some.inj hdto).symm
    · rw [hat] at hdto
      rcases hdto with hdto | hdto <;> exact (Option.some.inj hdto).symm
  refine {
    base := h.base.step e
    first_le := hseq ▸ h.first_le
    body := fun i => (step_body w e i).trans (h.body i)
    inserted := fun i dto' hdto => ?_
    created := hcreated.trans h.created
    listed := fun entry hentry => ?_
    recorded := hseq ▸ h.recorded
    recent_nodup := ?_
    new_nodup := h.new_nodup
    new_from := h.new_from
    unpushed := fun i dto' hdto entry hentry => ?_
    unsent := fun i dto' hdto => ?_ }
  · rw [hseq]
    by_cases hi : i = e.request
    · subst hi
      rw [hstill dto' (Or.inl hdto)]
      exact ⟨hfirst, hlt, hfrom⟩
    · exact h.inserted i dto' (at_of_ne hi ▸ hdto)
  · rw [hseq]
    rw [hrecent] at hentry
    rcases List.mem_cons.mp hentry with rfl | hmem
    · exact hlt
    · exact h.listed entry hmem
  · rw [hrecent, List.filter_cons, if_pos (decide_eq_true hfirst), List.map_cons, List.nodup_cons]
    refine ⟨fun hmem => ?_, h.recent_nodup⟩
    obtain ⟨entry, hentry, hid⟩ := List.mem_map.mp hmem
    exact h.unpushed _ dto hbefore entry (List.mem_of_mem_filter hentry) hid
  · by_cases hi : i = e.request
    · subst hi
      rcases hafter with hat | hat
      · rw [hat] at hdto
        cases hdto
      · rw [hat] at hdto
        cases hdto
    · rw [at_of_ne hi] at hdto
      rw [hrecent] at hentry
      rcases List.mem_cons.mp hentry with rfl | hmem
      · exact h.distinct hown (by rw [hdto]; rfl) hi
      · exact h.unpushed i dto' hdto entry hmem
  · by_cases hi : i = e.request
    · subst hi
      rw [hstill dto' (Or.inr hdto)]
      exact h.unsent _ dto (by rw [hbefore]; rfl)
    · exact h.unsent i dto' (at_of_ne hi ▸ hdto)

theorem step_sends (h : OnceInv bodies first old w new) {dto : CustomerResponse} (hbefore : w.at_ e.request = .buffered dto)
    (hafter : (step w e).at_ e.request = .published dto) (hseq : (step w e).db.seq = w.db.seq)
    (hrecent : (step w e).recent = w.recent) (hcreated : (step w e).created = w.created ++ [dto.event]) :
    OnceInv bodies first old (step w e) (new ++ [dto.event]) := by
  have hown : (w.at_ e.request).inserted = some dto := by rw [hbefore]; rfl
  obtain ⟨hfirst, hlt, hname, hemail⟩ := h.inserted _ dto hown
  refine {
    base := h.base.step e
    first_le := hseq ▸ h.first_le
    body := fun i => (step_body w e i).trans (h.body i)
    inserted := fun i dto' hdto => ?_
    created := by rw [hcreated, h.created, List.append_assoc]
    listed := fun entry hentry => hseq ▸ h.listed entry (hrecent ▸ hentry)
    recorded := fun record hrecord => ?_
    recent_nodup := hrecent ▸ h.recent_nodup
    new_nodup := ?_
    new_from := fun record hrecord => ?_
    unpushed := fun i dto' hdto entry hentry => ?_
    unsent := fun i dto' hdto record hrecord => ?_ }
  · rw [hseq]
    by_cases hi : i = e.request
    · subst hi
      rw [hafter] at hdto
      cases hdto
      exact ⟨hfirst, hlt, hname, hemail⟩
    · exact h.inserted i dto' (at_of_ne hi ▸ hdto)
  · rw [hseq]
    rcases List.mem_append.mp hrecord with hmem | hmem
    · exact h.recorded record hmem
    · rw [List.mem_singleton.mp hmem]
      exact hlt
  · rw [List.map_append, List.map_singleton]
    refine List.nodup_append.mpr ⟨h.new_nodup, List.pairwise_singleton _ _, fun id hid id' hid' => ?_⟩
    obtain ⟨record, hrecord, rfl⟩ := List.mem_map.mp hid
    rw [List.mem_singleton.mp hid']
    exact h.unsent _ dto (by rw [hbefore]; rfl) record hrecord
  · rcases List.mem_append.mp hrecord with hmem | hmem
    · exact h.new_from record hmem
    · rw [List.mem_singleton.mp hmem]
      exact ⟨hfirst, e.request, hname, hemail⟩
  · rw [hrecent] at hentry
    by_cases hi : i = e.request
    · subst hi
      rw [hafter] at hdto
      cases hdto
    · exact h.unpushed i dto' (at_of_ne hi ▸ hdto) entry hentry
  · by_cases hi : i = e.request
    · subst hi
      rw [hafter] at hdto
      cases hdto
    · rw [at_of_ne hi] at hdto
      rcases List.mem_append.mp hrecord with hmem | hmem
      · exact h.unsent i dto' hdto record hmem
      · rw [List.mem_singleton.mp hmem]
        exact h.distinct hown (Create.inserted_of_unsent hdto) hi

/-- A step adds at most one record, and while Kafka takes the records every customer whose turn is over has its own. -/
theorem step (h : OnceInv bodies first old w new) (e : Event) :
    ∃ new', OnceInv bodies first old (Customers.step w e) new' ∧
      (Sent w e → (∀ i dto, (w.at_ i).sent = some dto → dto.event ∈ new) →
        ∀ i dto, ((Customers.step w e).at_ i).sent = some dto → dto.event ∈ new') := by
  -- The others are where they were, and no record goes away.
  have hothers : ∀ new' : List CustomerCreatedEvent, (∀ record ∈ new, record ∈ new') →
      (∀ dto, ((Customers.step w e).at_ e.request).sent = some dto → (w.at_ e.request).sent = some dto ∨ dto.event ∈ new') →
      (∀ i dto, (w.at_ i).sent = some dto → dto.event ∈ new) →
        ∀ i dto, ((Customers.step w e).at_ i).sent = some dto → dto.event ∈ new' := by
    intro new' hkept hself hall i dto hdto
    by_cases hi : i = e.request
    · subst hi
      rcases hself dto hdto with hold | hnew
      · exact hkept _ (hall _ dto hold)
      · exact hnew
    · exact hkept _ (hall i dto (at_of_ne hi ▸ hdto))
  rcases step_turn w e with ⟨hseq, hinserted, hunsent, hflushed, hsent, hrecent, hcreated⟩ |
    ⟨dto, hafter, hid, hname, hemail, hseq, hrecent, hcreated⟩ | ⟨dto, hbefore, hafter, hseq, hrecent, hcreated⟩ |
    ⟨dto, hbefore, hafter, hseq, hrecent, hcreated⟩
  · refine ⟨new, h.step_quiet hseq hinserted hunsent hflushed hrecent hcreated, fun hok => ?_⟩
    exact hothers new (fun _ hmem => hmem) fun dto hdto => (hsent dto hdto).elim Or.inl (absurd hok)
  · refine ⟨new, h.step_inserts hafter hid hname hemail hseq hrecent hcreated, fun _ => ?_⟩
    refine hothers new (fun _ hmem => hmem) fun dto' hdto => ?_
    rw [hafter] at hdto
    cases hdto
  · refine ⟨new, h.step_pushes hbefore hafter hseq hrecent hcreated, fun _ => ?_⟩
    refine hothers new (fun _ hmem => hmem) fun dto' hdto => ?_
    rcases hafter with hat | hat
    · rw [hat] at hdto
      cases hdto
    · rw [hat] at hdto
      cases hdto
  · refine ⟨new ++ [dto.event], h.step_sends hbefore hafter hseq hrecent hcreated, fun _ => ?_⟩
    refine hothers _ (fun _ hmem => List.mem_append_left _ hmem) fun dto' hdto => ?_
    rw [hafter] at hdto
    cases hdto
    exact Or.inr (List.mem_append_right _ (List.mem_singleton_self _))

theorem run (h : OnceInv bodies first old w new) (es : List Event) :
    ∃ new', OnceInv bodies first old (Runs.run Customers.step w es) new' ∧
      (Meets Customers.step Sent w es → (∀ i dto, (w.at_ i).sent = some dto → dto.event ∈ new) →
        ∀ i dto, ((Runs.run Customers.step w es).at_ i).sent = some dto → dto.event ∈ new') := by
  induction es generalizing w new with
  | nil => exact ⟨new, h, fun _ hall => hall⟩
  | cons e es ih =>
    obtain ⟨new', hstep, hsent⟩ := h.step e
    obtain ⟨new'', hrun, hsent'⟩ := ih hstep
    exact ⟨new'', hrun, fun hmeets hall => hsent' hmeets.2 (hsent hmeets.1 hall)⟩

theorem start (stores : Stores) (bodies : Nat → CustomerCreate) :
    OnceInv bodies (stores.seq .customer) stores.created (stores.serve bodies) [] where
  base := stores.createInv bodies
  first_le := Nat.le_refl _
  body _ := rfl
  inserted i dto h := by cases h
  created := (List.append_nil _).symm
  listed entry hentry := by
    by_contra hid
    exact stores.announced.recent entry hentry (stores.fresh .customer entry.id (Nat.not_lt.mp hid))
  recorded record hrecord := by cases hrecord
  recent_nodup := by
    have hnone : ((stores.serve bodies).recent.filter fun entry => stores.seq .customer ≤ entry.id) = [] := by
      rw [List.filter_eq_nil_iff]
      intro entry hentry hle
      exact stores.announced.recent entry hentry (stores.fresh .customer entry.id (of_decide_eq_true hle))
    rw [hnone]
    exact List.nodup_nil
  new_nodup := List.nodup_nil
  new_from record hrecord := by cases hrecord
  unpushed i dto h := by cases h
  unsent i dto h := by cases h

end OnceInv

/-- New customers are announced once. Whatever requests interleave and wherever Redis, Kafka or the database refuse or
    lose an answer, no new customer is twice in the buffer of recent customers or in the topic, a new record is about a
    customer that a request asked for, and while Kafka takes the records each customer that is answered 201 has its
    record. -/
theorem announced_once (stores : Stores) (bodies : Nat → CustomerCreate) (es : List Event) :
    let w := run step (stores.serve bodies) es
    ((w.recent.filter fun entry => stores.seq .customer ≤ entry.id).map CustomerResponse.id).Nodup ∧
      ∃ new, w.created = stores.created ++ new ∧ (new.map CustomerCreatedEvent.id).Nodup ∧
        (∀ record ∈ new, stores.seq .customer ≤ record.id ∧
          ∃ i, record.name = (bodies i).name ∧ record.email = (bodies i).email) ∧
        (Meets step Sent (stores.serve bodies) es →
          ∀ i dto, w.at_ i = .done (.created dto) → dto.event ∈ new) := by
  obtain ⟨new, hinv, hsent⟩ := (OnceInv.start stores bodies).run es
  refine ⟨hinv.recent_nodup, new, hinv.created, hinv.new_nodup, hinv.new_from, fun hmeets i dto hdone => ?_⟩
  refine hsent hmeets (fun i dto h => by cases h) i dto ?_
  rw [hdone]
  rfl

/-- A run in which Kafka takes the record of the only request. -/
theorem ada_announced : ∃ new,
    (run step (noCustomers.serve fun _ => ⟨"Ada", "ada@example.com"⟩) (List.replicate 5 (.step 0 (sunrise .ok)))).created =
        noCustomers.created ++ new ∧ ⟨1, "Ada", "ada@example.com"⟩ ∈ new := by
  obtain ⟨-, new, hcreated, -, -, hsent⟩ :=
    announced_once noCustomers (fun _ => ⟨"Ada", "ada@example.com"⟩) (List.replicate 5 (.step 0 (sunrise .ok)))
  have hstep : ∀ w, Sent w (.step 0 (sunrise .ok)) := fun _ _ _ => ⟨rfl, by decide⟩
  exact ⟨new, hcreated, hsent ⟨hstep _, hstep _, hstep _, hstep _, hstep _, trivial⟩ 0 ⟨1, "Ada", "ada@example.com"⟩ rfl⟩

end IrisService.Customers
