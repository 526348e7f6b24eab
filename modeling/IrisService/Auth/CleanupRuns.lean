import IrisService.Auth.CleanupSim
import IrisService.Auth.RefreshRuns

/-! A run with its cleanups, and the same run without them. -/

namespace IrisService.Auth
open ReadCommitted Db Runs Orders

def Task.isCleanup : Task → Bool
  | .cleanup => true
  | _ => false

/-- The run with its cleanups removed. -/
def withoutCleanups (tasks : Nat → Task) (es : List (Event DateTime)) : List (Event DateTime) :=
  es.filter fun e => !(tasks e.client).isCleanup

/-- The clock does not go back. -/
def Forward (es : List (Event DateTime)) : Prop := (es.filterMap instant?).Pairwise (· ≤ ·)

section Run
variable {deps : Deps} {jtis : Nat → Jtis} {clock : Int} {d d' : Db Row Job} {tasks : Nat → Task}

theorem step_isCleanup (d : Db Row Job) (e : Event DateTime) (i : Nat) :
    ((jobStep deps d e).client i).state.isCleanup = (d.client i).state.isCleanup := by
  by_cases hi : i = e.client
  · subst hi
    cases e with
    | step i now =>
      exact perform_state (P := fun job : Job => job.isCleanup = _) rfl (jobAct_isCleanup deps now _ (d.view i))
    | fail i =>
      exact perform_state (a := .rollback _) (P := fun job : Job => job.isCleanup = _) rfl (refused_isCleanup _)
  · exact congrArg (fun c => c.state.isCleanup) (step_client_of_ne (p := jobs deps) hi)

theorem forward_cons {e : Event DateTime} {es : List (Event DateTime)}
    (h : (clock :: (e :: es).filterMap instant?).Pairwise (· ≤ ·)) :
    clock ≤ (instant? e).getD clock ∧ ((instant? e).getD clock :: es.filterMap instant?).Pairwise (· ≤ ·) := by
  cases e with
  | step i now =>
    obtain ⟨hle, htail⟩ := List.pairwise_cons.mp h
    exact ⟨hle _ List.mem_cons_self, htail⟩
  | fail i => exact ⟨Int.le_refl _, h⟩

theorem Sim.run {es later : List (Event DateTime)} (h : Sim deps jtis clock d d')
    (hdistinct : ∀ i j, (jtis i).refresh = (jtis j).refresh → i = j)
    (hkind : ∀ i, (d.client i).state.isCleanup = (tasks i).isCleanup) (hserial : Meets (jobStep deps) Serial d es)
    (hclock : (clock :: (es ++ later).filterMap instant?).Pairwise (· ≤ ·)) :
    ∃ clock', Sim deps jtis clock' (Runs.run (jobStep deps) d es) (Runs.run (jobStep deps) d' (withoutCleanups tasks es)) ∧
      ∀ t ∈ later.filterMap instant?, clock' ≤ t := by
  induction es generalizing d d' clock with
  | nil => exact ⟨clock, h, (List.pairwise_cons.mp hclock).1⟩
  | cons e es ih =>
    obtain ⟨hle, htail⟩ := forward_cons hclock
    have hkind' : ∀ i, ((jobStep deps d e).client i).state.isCleanup = (tasks i).isCleanup :=
      fun i => (step_isCleanup d e i).trans (hkind i)
    cases hjob : (tasks e.client).isCleanup with
    | false =>
      have hfilter : withoutCleanups tasks (e :: es) = e :: withoutCleanups tasks es := by
        simp [withoutCleanups, hjob]
      rw [hfilter]
      exact ih (h.step_call hdistinct hserial.1 ((hkind _).trans hjob) hle) hkind' hserial.2 htail
    | true =>
      have hfilter : withoutCleanups tasks (e :: es) = withoutCleanups tasks es := by
        simp [withoutCleanups, hjob]
      rw [hfilter]
      exact ih (h.step_cleanup hserial.1 ((hkind _).trans hjob) hle) hkind' hserial.2 htail

end Run

theorem TokenStore.sim {deps : Deps} (store : TokenStore) (draws : Draws deps store) (tasks : Nat → Task) (clock : Int) :
    Sim deps draws.jtis clock (store.serve draws tasks) (store.serve draws tasks) where
  wf := Db.Wf.start store.fresh
  idle _ _ := rfl
  idle' _ _ := rfl
  tokens := store.tokens draws tasks
  store := Pruned.refl clock _
  same _ _ := rfl
  still i hi := by
    have hopen : ((tasks i).open (draws.jtis i)).isCleanup = true := hi
    show (tasks i).open (draws.jtis i) = .cleanup .start
    cases htask : tasks i with
    | cleanup => rfl
    | _ =>
      rw [htask] at hopen
      cases hopen
  deletes _ _ := ⟨fun _ _ _ => rfl, fun _ _ hx => by cases hx⟩
  found i id hi := by
    have hopen : ((tasks i).open (draws.jtis i)).found = some id := hi
    cases htask : tasks i with
    | call c =>
      rw [htask] at hopen
      cases c <;> cases hopen
    | _ =>
      rw [htask] at hopen
      cases hopen

theorem TokenStore.kind {deps : Deps} (store : TokenStore) (draws : Draws deps store) (tasks : Nat → Task) (i : Nat) :
    ((store.serve draws tasks).client i).state.isCleanup = (tasks i).isCleanup := by
  show ((tasks i).open (draws.jtis i)).isCleanup = _
  cases tasks i <;> rfl

/-! ### One cleanup after the other -/

/-- The DELETE of the tokens. -/
def deletes (records : List (Nat × RefreshToken)) : List (Change Row) := records.map fun r => ⟨.refreshToken, r.1, none⟩

section Twice
variable (deps : Deps) {d : Db Row Job} {i j : Nat} (now t : DateTime)

/-- A cleanup that runs alone deletes the tokens that it sees and counts them. -/
theorem run_cleanup (hwf : d.Wf) (hempty : ∀ k, (d.client k).writes = .empty) (hi : (d.client i).state = .cleanup .start) :
    ((run (jobStep deps) d [.step i now, .step i t]).client i).state =
        .cleanup (.done (deletableTokens (d.view i) now).length) ∧
      (run (jobStep deps) d [.step i now, .step i t]).committed =
        (Writes.empty.setAll (deletes (deletableTokens (d.view i) now))).onto d.committed := by
  have hall : (deletes (deletableTokens (d.view i) now)).all (d.writable i) = true := by
    rw [List.all_eq_true]
    intro c hc
    obtain ⟨r, hr, rfl⟩ := List.mem_map.mp hc
    rw [hwf.writable_of_alone fun k _ => hempty k]
    simp [mem_select (List.mem_filter.mp hr).1]
  have hfirst : jobStep deps d (.step i now) = d.put i (deletes (deletableTokens (d.view i) now))
      (.cleanup (.deleted (deletableTokens (d.view i) now).length)) := by
    show d.perform i (jobAct deps now (d.client i).state (d.view i)) = _
    rw [hi]
    exact if_pos hall
  have hsecond : run (jobStep deps) d [.step i now, .step i t] = (jobStep deps d (.step i now)).perform i
      (.commit (.cleanup (.done (deletableTokens (d.view i) now).length))) := by
    show (jobStep deps d (.step i now)).perform i (jobAct deps t ((jobStep deps d (.step i now)).client i).state
      ((jobStep deps d (.step i now)).view i)) = _
    rw [hfirst]
    simp only [put, Function.update_self]
    rfl
  rw [hsecond, hfirst]
  refine ⟨?_, ?_⟩
  · simp only [Db.perform, finish, Function.update_self]
  · simp only [Db.perform, finish, view_rows, put, Function.update_self, hempty i]

/-- What a cleanup leaves, it would not delete. -/
theorem not_deletable_of_left (hwf : d.Wf) (hempty : ∀ k, (d.client k).writes = .empty) {id : Nat} {r : RefreshToken}
    (hr : (Writes.empty.setAll (deletes (deletableTokens (d.view i) now))).onto d.committed .refreshToken id = some r) :
    deletable now r = false := by
  by_contra hdeletable
  cases hw : Writes.empty.setAll (deletes (deletableTokens (d.view i) now)) .refreshToken id with
  | none =>
    rw [Writes.onto_of_none hw] at hr
    have hmem : (id, r) ∈ deletableTokens (d.view i) now := by
      refine List.mem_filter.mpr ⟨mem_select_of_row ?_ ?_, by simpa using hdeletable⟩
      · by_contra hlt
        rw [(hwf.fresh .refreshToken id (Nat.not_lt.mp hlt)).1] at hr
        cases hr
      · rw [view_rows, hempty i, Writes.onto_empty, hr]
    refine Writes.setAll_ne_none_iff.mpr (Or.inl ⟨_, List.mem_map_of_mem hmem, rfl, rfl⟩) hw
  | some x =>
    rw [Writes.onto_of_some hw] at hr
    rw [hr] at hw
    rcases Writes.mem_of_setAll hw with hmem | hw
    · obtain ⟨r', -, heq⟩ := List.mem_map.mp hmem
      simp at heq
    · cases hw

/-- After a cleanup, another one at the same instant deletes nothing. -/
theorem run_cleanup_twice (hwf : d.Wf) (hidle : d.Idle Job.inFlight) (hrest : ∀ k, (d.client k).state.inFlight = false)
    (hi : (d.client i).state = .cleanup .start) (hj : (d.client j).state = .cleanup .start) (hne : j ≠ i)
    {now' t' : DateTime} (hnow : now'.utc = now.utc) :
    ((run (jobStep deps) d [.step i now, .step i t, .step j now', .step j t']).client j).state = .cleanup (.done 0) ∧
      (run (jobStep deps) d [.step i now, .step i t, .step j now', .step j t']).committed =
        (run (jobStep deps) d [.step i now, .step i t]).committed := by
  have hempty : ∀ k, (d.client k).writes = .empty := fun k => hidle k (hrest k)
  obtain ⟨hdone, hcommitted⟩ := run_cleanup deps now t hwf hempty hi
  have hothers : ∀ k, k ≠ i → (run (jobStep deps) d [.step i now, .step i t]).client k = d.client k := fun k hk =>
    (step_client_of_ne (p := jobs deps) (e := .step i t) hk).trans
      (step_client_of_ne (p := jobs deps) (e := .step i now) hk)
  have hwf₂ : (run (jobStep deps) d [.step i now, .step i t]).Wf :=
    (hwf.step (p := jobs deps) (.step i now)).step (p := jobs deps) (.step i t)
  have hidle₁ : (jobStep deps d (.step i now)).Idle Job.inFlight := idle_jobStep hidle _
  have hidle₂ : (run (jobStep deps) d [.step i now, .step i t]).Idle Job.inFlight := idle_jobStep hidle₁ (.step i t)
  generalize hd₂ : run (jobStep deps) d [.step i now, .step i t] = d₂ at *
  have hrest₂ : ∀ k, (d₂.client k).state.inFlight = false := by
    intro k
    by_cases hk : k = i
    · subst hk
      rw [hdone]
      rfl
    · rw [hothers k hk]
      exact hrest k
  have hempty₂ : ∀ k, (d₂.client k).writes = .empty := fun k => hidle₂ k (hrest₂ k)
  have hj₂ : (d₂.client j).state = .cleanup .start := by rw [hothers j hne, hj]
  have hnone : deletableTokens (d₂.view j) now' = [] := by
    refine List.filter_eq_nil_iff.mpr fun r hr => ?_
    have hrow : (d₂.view j).rows .refreshToken r.1 = some r.2 := mem_select hr
    rw [view_rows, hempty₂ j, Writes.onto_empty, hcommitted] at hrow
    have hleft := not_deletable_of_left now hwf hempty hrow
    simpa only [deletable, hnow, Bool.not_eq_true] using hleft
  have hsplit : run (jobStep deps) d [.step i now, .step i t, .step j now', .step j t'] =
      run (jobStep deps) d₂ [.step j now', .step j t'] := by
    rw [← hd₂]
    rfl
  obtain ⟨hdone₂, hcommitted₂⟩ := run_cleanup deps now' t' hwf₂ hempty₂ hj₂
  rw [hnone] at hdone₂ hcommitted₂
  rw [hsplit]
  exact ⟨hdone₂, hcommitted₂⟩

end Twice

/-! ### Cleanup is unobservable -/

/-- A refresh that finds the row turns the token down. -/
def TurnsDown (deps : Deps) (now : DateTime) (id : Nat) (record : RefreshToken) : Prop :=
  ∀ v jtis claims, withToken v record.token = [(id, record)] →
    refresh deps record.token jtis now (.decoded claims) v =
      .rollback (.done (unauthorized "Refresh token revoked or expired"))

/-- The cleanups of a run are unobservable: every call is answered as in the run without them, a row that one of
    them deletes is one that every later refresh turns down, and a second one at the same instant deletes nothing. -/
structure Unobservable (deps : Deps) (s : Db Row Job) (tasks : Nat → Task) (es : List (Event DateTime)) : Prop where
  answers : ∀ i, (tasks i).isCleanup = false → ((run (jobStep deps) s es).client i).state.answer? =
    ((run (jobStep deps) s (withoutCleanups tasks es)).client i).state.answer?
  spares : ∀ before e after, es = before ++ e :: after → (tasks e.client).isCleanup = true → ∀ id r,
    (run (jobStep deps) s before).committed .refreshToken id = some r →
      (run (jobStep deps) s (before ++ [e])).committed .refreshToken id = none →
        ∀ i now, .step i now ∈ after → TurnsDown deps now id r
  idempotent : ∀ before after i j now t now' t',
    es = before ++ [.step i now, .step i t, .step j now', .step j t'] ++ after → j ≠ i →
      ((run (jobStep deps) s before).client i).state = .cleanup .start →
        ((run (jobStep deps) s before).client j).state = .cleanup .start → now'.utc = now.utc →
          ((run (jobStep deps) s (before ++ [.step i now, .step i t, .step j now', .step j t'])).client j).state =
              .cleanup (.done 0) ∧
            (run (jobStep deps) s (before ++ [.step i now, .step i t, .step j now', .step j t'])).committed =
              (run (jobStep deps) s (before ++ [.step i now, .step i t])).committed

theorem turnsDown_of_refused {deps : Deps} {now : DateTime} {id : Nat} {r : RefreshToken} (h : Refused now.utc r) :
    TurnsDown deps now id r := by
  intro v jtis claims hrow
  have hdeletable : (r.revoked || decide (r.expiresAt.utc < now.utc)) = true := deletable_iff.mpr h
  simp only [refresh, hrow, hdeletable, if_true]

section Unobservable
variable {deps : Deps} {store : TokenStore} {draws : Draws deps store} {tasks : Nat → Task} {es : List (Event DateTime)}

/-- The two runs so far, and a lower bound of the instants to come. -/
theorem exists_sim {later : List (Event DateTime)} (hserial : Meets (jobStep deps) Serial (store.serve draws tasks) es)
    (hforward : Forward (es ++ later)) :
    ∃ clock, Sim deps draws.jtis clock (run (jobStep deps) (store.serve draws tasks) es)
      (run (jobStep deps) (store.serve draws tasks) (withoutCleanups tasks es)) ∧
        ∀ t ∈ later.filterMap instant?, clock ≤ t := by
  have hfirst : ∃ clock, (clock :: (es ++ later).filterMap instant?).Pairwise (· ≤ ·) := by
    unfold Forward at hforward
    cases hts : (es ++ later).filterMap instant? with
    | nil => exact ⟨0, by simp⟩
    | cons t ts =>
      rw [hts] at hforward
      refine ⟨t, List.pairwise_cons.mpr ⟨fun t' ht' => ?_, hforward⟩⟩
      rcases List.mem_cons.mp ht' with rfl | ht'
      · exact Int.le_refl _
      · exact (List.pairwise_cons.mp hforward).1 t' ht'
  obtain ⟨clock, hclock⟩ := hfirst
  exact (store.sim draws tasks clock).run draws.distinct (store.kind draws tasks) hserial hclock

theorem run_kind (es : List (Event DateTime)) (i : Nat) :
    ((run (jobStep deps) (store.serve draws tasks) es).client i).state.isCleanup = (tasks i).isCleanup :=
  (run_eq (f := fun d : Db Row Job => (d.client i).state.isCleanup) fun e _ d => step_isCleanup d e i).trans
    (store.kind draws tasks i)

/-- A row goes when a transaction that has deleted it commits. -/
theorem refused_of_deleted {clock : Int} {jtis : Nat → Jtis} {d d' : Db Row Job} (h : Sim deps jtis clock d d')
    {e : Event DateTime} (hjob : (d.client e.client).state.isCleanup = true) {id : Nat} {r : RefreshToken}
    (hr : d.committed .refreshToken id = some r) (hnone : (jobStep deps d e).committed .refreshToken id = none) :
    Refused clock r := by
  rcases step_committed_cases (jobs deps) d e with hsame | ⟨i, now, s, rfl, -, hcommit⟩
  · have heq := congrFun (congrFun hsame .refreshToken) id
    rw [show d.committed .refreshToken id = none from heq.symm.trans hnone] at hr
    cases hr
  · have heq : (d.view i).rows .refreshToken id = none := (congrFun (congrFun hcommit .refreshToken) id).symm.trans hnone
    rw [view_rows] at heq
    cases hw : (d.client i).writes .refreshToken id with
    | none =>
      rw [Writes.onto_of_none hw, hr] at heq
      cases heq
    | some x => exact (((h.deletes i hjob).2 id x hw).2 r hr)

end Unobservable

/-- Cleanups that run between the calls of a run, on a clock that does not go back, are unobservable. -/
theorem cleanup_unobservable (deps : Deps) (store : TokenStore) (draws : Draws deps store) (tasks : Nat → Task)
    (es : List (Event DateTime)) (hserial : Meets (jobStep deps) Serial (store.serve draws tasks) es)
    (hforward : Forward es) : Unobservable deps (store.serve draws tasks) tasks es where
  answers i hi := by
    have hall : Forward (es ++ []) := by rwa [List.append_nil]
    obtain ⟨clock, hsim, -⟩ := exists_sim hserial hall
    rw [hsim.same i ((run_kind es i).trans hi)]
  spares before e after hes hjob id r hr hnone i now hmem := by
    subst hes
    obtain ⟨hbefore, -⟩ := meets_append.mp hserial
    obtain ⟨clock, hsim, hlater⟩ := exists_sim hbefore hforward
    rw [run_concat] at hnone
    have hrefused := refused_of_deleted hsim ((run_kind before _).trans hjob) hr hnone
    refine turnsDown_of_refused (hrefused.mono (hlater _ ?_))
    exact List.mem_filterMap.mpr ⟨.step i now, List.mem_cons_of_mem e hmem, rfl⟩
  idempotent before after i j now t now' t' hes hne hi hj hnow := by
    subst hes
    rw [List.append_assoc] at hserial hforward
    obtain ⟨hbefore, hstep⟩ := meets_append.mp hserial
    obtain ⟨clock, hsim, -⟩ := exists_sim hbefore hforward
    have hrest : ∀ k, ((run (jobStep deps) (store.serve draws tasks) before).client k).state.inFlight = false := by
      intro k
      by_cases hk : k = i
      · rw [hk, hi]
        rfl
      · exact hstep.1 k hk
    rw [run_append, run_append]
    exact run_cleanup_twice deps now t hsim.wf hsim.idle hrest hi hj hne hnow

/-- Two tokens of one user: the first has expired at the epoch. -/
def oldAndNew : TokenStore where
  rows
    | .refreshToken, 1 =>
        some ⟨PyJwt.readable.encode { adaClaims with jti := "j1" }, "ada", ⟨62135596800000000, some 0⟩, false, dawn⟩
    | .refreshToken, 2 => some ⟨adaToken, "ada", dawn.addSeconds 2592000, false, dawn⟩
    | _, _ => none
  seq _ := 3
  fresh t id h := by
    rcases id with _ | _ | _ | id
    · cases h
    · simp at h
    · simp at h
    · cases t <;> rfl
  unique id id' r r' h h' ht := by
    match id, id' with
    | 1, 1 | 2, 2 => rfl
    | 1, 2 =>
      cases h
      cases h'
      exact absurd (congrArg IssuedClaims.jti (PyJwt.readable.encode_injective _ _ ht)) (by decide)
    | 2, 1 =>
      cases h
      cases h'
      exact absurd (congrArg IssuedClaims.jti (PyJwt.readable.encode_injective _ _ ht)) (by decide)
    | 0, _ => cases h
    | id + 3, _ => cases h
    | _, 0 => cases h'
    | _, id' + 3 => cases h'

theorem letters_unused {i id : Nat} {r : RefreshToken} {c : IssuedClaims} (h : oldAndNew.rows .refreshToken id = some r)
    (hc : r.token = PyJwt.readable.encode c) : c.jti ≠ String.ofList (List.replicate i 'a') := by
  have hj : 'j' ∈ c.jti.toList := by
    match id with
    | 0 => cases h
    | 1 =>
      cases h
      rw [← PyJwt.readable.encode_injective _ c hc]
      decide
    | 2 =>
      cases h
      rw [← PyJwt.readable.encode_injective adaClaims c hc]
      decide
    | id + 3 => cases h
  intro heq
  rw [heq, String.toList_ofList] at hj
  exact absurd (List.eq_of_mem_replicate hj) (by decide)

/-- The refresh token of job `i` gets the `uuid4` made of `i` letters. -/
def letterDraws : Draws readableDeps oldAndNew where
  jtis i := ⟨"", String.ofList (List.replicate i 'a'), dawn, dawn⟩
  distinct _ _ h := letters_injective h
  unused _ _ _ _ h hc := letters_unused h hc

/-- A refresh between cleanups. -/
def nightly : Nat → Task
  | 1 => .call (.refresh adaToken)
  | _ => .cleanup

def jobsAtDawn (clients : List Nat) : List (Event DateTime) := clients.map fun i => .step i dawn

theorem forward_jobsAtDawn (clients : List Nat) : Forward (jobsAtDawn clients) := by
  refine List.pairwise_of_forall_mem_list fun t ht t' ht' => ?_
  obtain ⟨e, he, hte⟩ := List.mem_filterMap.mp ht
  obtain ⟨e', he', hte'⟩ := List.mem_filterMap.mp ht'
  obtain ⟨i, -, rfl⟩ := List.mem_map.mp he
  obtain ⟨i', -, rfl⟩ := List.mem_map.mp he'
  cases hte
  cases hte'
  exact Int.le_refl _

theorem serial_jobsAtDawn (clients : List Nat) (h : ∀ k < clients.length, ∀ j ∈ clients.take k, some j ≠ clients[k]? →
    ((run (jobStep readableDeps) (oldAndNew.serve letterDraws nightly)
      (jobsAtDawn (clients.take k))).client j).state.inFlight =
      false) : Meets (jobStep readableDeps) Serial (oldAndNew.serve letterDraws nightly) (jobsAtDawn clients) := by
  refine meets_of_take fun k e he j hj => ?_
  rw [jobsAtDawn, List.getElem?_map] at he
  obtain ⟨i, hi, rfl⟩ := Option.map_eq_some_iff.mp he
  rw [jobsAtDawn, ← List.map_take]
  obtain ⟨hk, -⟩ := List.getElem?_eq_some_iff.mp hi
  by_cases hmem : j ∈ clients.take k
  · have hne : j ≠ i := hj
    exact h k hk j hmem (by simpa [hi] using hne)
  · -- A client that has taken no step has not begun.
    have hsame : (run (jobStep readableDeps) (oldAndNew.serve letterDraws nightly) (jobsAtDawn (clients.take k))).client j =
        (oldAndNew.serve letterDraws nightly).client j :=
      run_eq (f := fun d : Db Row Job => d.client j) fun e he d => by
        obtain ⟨i', hi', rfl⟩ := List.mem_map.mp he
        refine step_client_of_ne (p := jobs readableDeps) ?_
        rintro rfl
        exact hmem hi'
    show ((run (jobStep readableDeps) (oldAndNew.serve letterDraws nightly)
      (jobsAtDawn (clients.take k))).client j).state.inFlight = false
    rw [hsame]
    show ((nightly j).open (letterDraws.jtis j)).inFlight = false
    unfold nightly
    split <;> rfl

theorem cleanup_unobservable_nightly : Unobservable readableDeps (oldAndNew.serve letterDraws nightly) nightly
    (jobsAtDawn [0, 0, 1, 1, 1, 1, 1, 1, 2, 2, 3, 3]) :=
  cleanup_unobservable readableDeps oldAndNew letterDraws nightly (jobsAtDawn [0, 0, 1, 1, 1, 1, 1, 1, 2, 2, 3, 3])
    (serial_jobsAtDawn [0, 0, 1, 1, 1, 1, 1, 1, 2, 2, 3, 3] (by decide)) (forward_jobsAtDawn _)

end IrisService.Auth
