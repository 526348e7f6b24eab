import IrisService.Auth.JobTokens

/-! A store whose refused tokens have been cleaned up, and the same store with all of them. -/

namespace IrisService.Auth
open ReadCommitted Db Runs Orders

/-! ### Two stores that differ in deletable tokens -/

/-- A token that no refresh accepts from the instant `clock` on. -/
def Refused (clock : Int) (record : RefreshToken) : Prop := record.revoked = true ∨ record.expiresAt.utc < clock

theorem deletable_iff {now : DateTime} {record : RefreshToken} : deletable now record = true ↔ Refused now.utc record := by
  simp [deletable, Refused]

theorem Refused.mono {clock clock' : Int} {record : RefreshToken} (h : Refused clock record) (hle : clock ≤ clock') :
    Refused clock' record :=
  h.imp id fun hlt => Int.lt_of_lt_of_le hlt hle

/-- `v` is `v'` less some tokens that are refused from `clock` on. -/
structure Pruned (clock : Int) (v v' : View Row) : Prop where
  seq : v.seq = v'.seq
  rows : ∀ t, t ≠ .refreshToken → v.rows t = v'.rows t
  tokens : ∀ id, v.rows .refreshToken id = v'.rows .refreshToken id ∨
    v.rows .refreshToken id = none ∧ ∃ r, v'.rows .refreshToken id = some r ∧ Refused clock r

/-- The tokens that a statement sees are distinct, and their identities were given out. -/
structure Registered (v : View Row) : Prop where
  unique : ∀ id id' r r', v.rows .refreshToken id = some r → v.rows .refreshToken id' = some r' →
    RefreshToken.token r = RefreshToken.token r' → id = id'
  used : ∀ id r, v.rows .refreshToken id = some r → id < v.seq .refreshToken

section Views
variable {clock : Int} {v v' : View Row} {token : String} {id : Nat} {r : RefreshToken}

theorem Pruned.refl (clock : Int) (v : View Row) : Pruned clock v v :=
  ⟨rfl, fun _ _ => rfl, fun _ => Or.inl rfl⟩

theorem Pruned.mono {clock' : Int} (h : Pruned clock v v') (hle : clock ≤ clock') : Pruned clock' v v' where
  seq := h.seq
  rows := h.rows
  tokens id := by
    rcases h.tokens id with hsame | ⟨hnone, r, hr, hrefused⟩
    · exact Or.inl hsame
    · exact Or.inr ⟨hnone, r, hr, hrefused.mono hle⟩

/-- The changes of one transaction on top of both. -/
theorem Pruned.onto (h : Pruned clock v v') (w : Writes Row) :
    Pruned clock ⟨w.onto v.rows, v.seq⟩ ⟨w.onto v'.rows, v'.seq⟩ where
  seq := h.seq
  rows t ht := by
    funext id
    simp only [Writes.onto, h.rows t ht]
  tokens id := by
    cases hw : w .refreshToken id with
    | none =>
      simp only [Writes.onto_of_none hw]
      exact h.tokens id
    | some x =>
      simp only [Writes.onto_of_some hw]
      exact Or.inl trivial

theorem Pruned.eq_of_some (h : Pruned clock v v') {t : Table} (hsome : v.rows t id ≠ none) :
    v.rows t id = v'.rows t id := by
  by_cases ht : t = .refreshToken
  · subst ht
    rcases h.tokens id with hsame | ⟨hnone, -⟩
    · exact hsame
    · exact absurd hnone hsome
  · rw [h.rows t ht]

theorem Pruned.some_of_some (h : Pruned clock v v') (hr : v.rows .refreshToken id = some r) :
    v'.rows .refreshToken id = some r := by
  rw [← h.eq_of_some (by simp [hr]), hr]

theorem Registered.of_pruned (h : Registered v') (hp : Pruned clock v v') : Registered v where
  unique id id' r r' hr hr' := h.unique id id' r r' (hp.some_of_some hr) (hp.some_of_some hr')
  used id r hr := by
    rw [hp.seq]
    exact h.used id r (hp.some_of_some hr)

theorem select_congr {t : Table} (hseq : v.seq = v'.seq) (hrows : v.rows t = v'.rows t) : select v t = select v' t := by
  simp only [select, hseq, hrows]

theorem withToken_eq_nil (h : ∀ id r, v.rows .refreshToken id = some r → RefreshToken.token r ≠ token) :
    withToken v token = [] := by
  rw [List.eq_nil_iff_forall_not_mem]
  rintro ⟨id, r⟩ hmem
  obtain ⟨hr, ht⟩ := mem_withToken hmem
  exact h id r hr ht

theorem Registered.withToken_eq (h : Registered v) (hr : v.rows .refreshToken id = some r) (ht : r.token = token) :
    withToken v token = [(id, r)] := by
  have hmem : (id, r) ∈ withToken v token :=
    List.mem_filter.mpr ⟨mem_select_of_row (h.used id r hr) hr, by simpa using ht⟩
  have hall : ∀ x ∈ withToken v token, x = (id, r) := by
    rintro ⟨id', r'⟩ hx
    obtain ⟨hr', ht'⟩ := mem_withToken hx
    obtain rfl := h.unique id id' r r' hr hr' (ht.trans ht'.symm)
    rw [hr] at hr'
    cases hr'
    rfl
  have hnodup := nodup_withToken (v := v) token
  rcases hrows : withToken v token with _ | ⟨x, _ | ⟨y, rest⟩⟩
  · rw [hrows] at hmem
    cases hmem
  · rw [hall x (by rw [hrows]; exact List.mem_cons_self)]
  · rw [hrows] at hnodup hall
    rw [hall x List.mem_cons_self, hall y (List.mem_cons_of_mem _ List.mem_cons_self)] at hnodup
    simp at hnodup

end Views

/-! ### The handlers on two such stores -/

def Job.isCleanup : Job → Bool
  | .cleanup _ => true
  | _ => false

/-- The `refresh` job has found its row, which it is about to revoke. -/
def Job.found : Job → Option Nat
  | .call (.refresh _ _ (.checked _ id _)) => some id
  | _ => none

section Handlers
variable {deps : Deps} {clock : Int} {now : DateTime} {v v' : View Row}

/-- No visible token has been minted with these `uuid4` values. -/
def Unissued (deps : Deps) (v : View Row) (jtis : Jtis) : Prop :=
  ∀ id r c, v.rows .refreshToken id = some r → RefreshToken.token r = deps.jwt.encode c → c.jti ≠ jtis.refresh

theorem issueTokenPair_pruned {S : Type} (h : Pruned clock v v') {jtis : Jtis} (hfresh : Unissued deps v' jtis)
    (username : String) (role : Json) (flushed : TokenResponse → S) (failed : Answer → S) :
    issueTokenPair deps username role jtis now v flushed failed =
      issueTokenPair deps username role jtis now v' flushed failed := by
  have hfree' : withToken v' (issueRefreshToken deps.jwt deps.settings username role jtis.signed jtis.refresh).1 = [] :=
    withToken_eq_nil fun id r hr ht => hfresh id r _ hr ht rfl
  have hfree : withToken v (issueRefreshToken deps.jwt deps.settings username role jtis.signed jtis.refresh).1 = [] :=
    withToken_eq_nil fun id r hr ht => hfresh id r _ (h.some_of_some hr) ht rfl
  simp only [issueTokenPair, hfree, hfree']

theorem login_pruned (h : Pruned clock v v') {jtis : Jtis} (username password : String) (st : Login)
    (hfresh : (Session.login username password jtis st).pending = true → Unissued deps v' jtis) :
    login deps username password jtis now st v = login deps username password jtis now st v' := by
  cases st with
  | start => simp only [login, select_congr h.seq (h.rows .appUser (by simp))]
  | checked user => exact issueTokenPair_pruned h (hfresh rfl) _ _ _ _
  | _ => rfl

/-- A token that only the fuller store has is refused, as one that neither has. -/
theorem refresh_pruned (h : Pruned clock v v') (hreg : Registered v') (hclock : clock ≤ now.utc) {jtis : Jtis}
    (token : String) (st : Refresh)
    (hfresh : (Session.refresh token jtis st).pending = true → Unissued deps v' jtis)
    (hfound : ∀ id, Job.found (.call (.refresh token jtis st)) = some id → v.rows .refreshToken id ≠ none) :
    refresh deps token jtis now st v = refresh deps token jtis now st v' := by
  cases st with
  | decoded claims =>
    by_cases hrow : ∃ id r, v'.rows .refreshToken id = some r ∧ RefreshToken.token r = token
    · obtain ⟨id, r, hr, ht⟩ := hrow
      have hlist' := hreg.withToken_eq hr ht
      rcases h.tokens id with hsame | ⟨hnone, r', hr', hrefused⟩
      · have hlist := (hreg.of_pruned h).withToken_eq (hsame.trans hr) ht
        simp only [refresh, hlist, hlist']
      · obtain rfl : r = r' := Option.some.inj (hr.symm.trans hr')
        have hlist : withToken v token = [] := withToken_eq_nil fun id' r' hr' ht' => by
          obtain rfl := hreg.unique id id' r r' hr (h.some_of_some hr') (ht.trans ht'.symm)
          rw [hnone] at hr'
          cases hr'
        have hdeletable : (r.revoked || decide (r.expiresAt.utc < now.utc)) = true :=
          deletable_iff.mpr (hrefused.mono hclock)
        simp only [refresh, hlist, hlist', hdeletable, if_true]
    · have hlist' : withToken v' token = [] := withToken_eq_nil fun id r hr ht => hrow ⟨id, r, hr, ht⟩
      have hlist : withToken v token = [] :=
        withToken_eq_nil fun id r hr ht => hrow ⟨id, r, h.some_of_some hr, ht⟩
      simp only [refresh, hlist, hlist']
  | checked claims id record =>
    have hsame := h.eq_of_some (hfound id rfl)
    simp only [refresh, update, hsame]
  | revoked claims =>
    simp only [refresh]
    split
    · exact issueTokenPair_pruned h (hfresh rfl) _ _ _ _
    · rfl
    · rfl
  | _ => rfl

theorem jobAct_pruned (h : Pruned clock v v') (hreg : Registered v') (hclock : clock ≤ now.utc) {job : Job}
    (hjob : job.isCleanup = false)
    (hfresh : ∀ jtis, job.jtis? = some jtis → job.pending = true → Unissued deps v' jtis)
    (hfound : ∀ id, job.found = some id → v.rows .refreshToken id ≠ none) :
    jobAct deps now job v = jobAct deps now job v' := by
  cases job with
  | call session =>
    cases session with
    | login username password jtis st =>
      simp only [jobAct, act, login_pruned h username password st (hfresh jtis rfl)]
    | refresh token jtis st =>
      simp only [jobAct, act, refresh_pruned h hreg hclock token st (hfresh jtis rfl) hfound]
  | cleanup st => cases hjob
  | administer change st =>
    have hrows := h.rows .appUser (by simp)
    cases st with
    | start =>
      cases change with
      | create user => rfl
      | update id set => simp only [jobAct, administer, update, hrows]
      | delete id => simp only [jobAct, administer, hrows]
    | _ => rfl

/-- A job writes rows that it sees. -/
theorem jobAct_visible (deps : Deps) (now : DateTime) {job : Job} (v : View Row) : (jobAct deps now job v).Visible v := by
  cases job with
  | call session =>
    have ht : Turns deps now v session (act deps now session v) := act_turns session
    refine Action.visible_map.mpr ?_
    generalize act deps now session v = a at ht
    cases ht with
    | revoke hrow => exact Action.visible_singleton hrow
    | _ => trivial
  | cleanup st =>
    refine Action.visible_map.mpr ?_
    cases st with
    | start =>
      intro c hc
      obtain ⟨r, hr, rfl⟩ := List.mem_map.mp hc
      rw [mem_select (List.mem_filter.mp hr).1]
      rfl
    | _ => trivial
  | administer change st =>
    refine Action.visible_map.mpr ?_
    cases st with
    | start =>
      cases change with
      | create user => trivial
      | update id set =>
        simp only [administer, update]
        split
        · rename_i row hrow
          exact Action.visible_singleton hrow
        · trivial
      | delete id =>
        simp only [administer]
        split
        · rename_i row hrow
          exact Action.visible_singleton hrow
        · trivial
    | _ => trivial

theorem inFlight_of_found {job : Job} {id : Nat} (h : job.found = some id) : job.inFlight = true := by
  unfold Job.found at h
  split at h
  · rfl
  · cases h

theorem jobAct_isCleanup (deps : Deps) (now : DateTime) (job : Job) (v : View Row) :
    (jobAct deps now job v).All fun job' => job'.isCleanup = job.isCleanup := by
  cases job <;> exact Action.all_map.mpr (Action.all_of_forall fun _ => rfl)

theorem refused_isCleanup (job : Job) : job.refused.isCleanup = job.isCleanup := by
  cases job with
  | call session => rfl
  | cleanup st => cases st <;> rfl
  | administer change st => cases st <;> rfl

theorem exists_cleanup {job : Job} (h : job.isCleanup = true) : ∃ st, job = .cleanup st := by
  cases job with
  | cleanup st => exact ⟨st, rfl⟩
  | _ => cases h

/-- A row is found by a SELECT, which changes nothing. -/
theorem jobAct_found (deps : Deps) (now : DateTime) (job : Job) (v : View Row) :
    (jobAct deps now job v).All fun job' => ∀ id, job'.found = some id →
      jobAct deps now job v = .next job' ∧ v.rows .refreshToken id ≠ none := by
  cases job with
  | call session =>
    have ht : Turns deps now v session (act deps now session v) := act_turns session
    simp only [jobAct]
    generalize act deps now session v = a at ht
    cases ht with
    | select hrow =>
      intro id h
      cases h
      exact ⟨rfl, by simp [hrow]⟩
    | issue => exact fun _ _ h => by cases h
    | issueLogin => exact fun _ _ h => by cases h
    | _ => exact fun _ h => by cases h
  | _ => exact Action.all_map.mpr (Action.all_of_forall fun _ _ h => by cases h)

end Handlers

/-! ### The two runs -/

/-- A step while no other job has begun and is not over. -/
def Serial (d : Db Row Job) (e : Event DateTime) : Prop := ∀ j, j ≠ e.client → (d.client j).state.inFlight = false

/-- The instant at which an event reads the clock. -/
def instant? : Event DateTime → Option Int
  | .step _ now => some now.utc
  | .fail _ => none

/-- `d'` is `d` as if no cleanup had run, at the instant `clock`. -/
structure Sim (deps : Deps) (jtis : Nat → Jtis) (clock : Int) (d d' : Db Row Job) : Prop where
  wf : d.Wf
  idle : d.Idle Job.inFlight
  idle' : d'.Idle Job.inFlight
  tokens : Tokens deps jtis d'
  store : Pruned clock ⟨d.committed, d.seq⟩ ⟨d'.committed, d'.seq⟩
  same : ∀ i, (d.client i).state.isCleanup = false → d'.client i = d.client i
  still : ∀ i, (d.client i).state.isCleanup = true → (d'.client i).state = .cleanup .start
  deletes : ∀ i, (d.client i).state.isCleanup = true → (∀ t id, t ≠ .refreshToken → (d.client i).writes t id = none) ∧
    ∀ id x, (d.client i).writes .refreshToken id = some x →
      x = none ∧ ∀ r, d.committed .refreshToken id = some r → Refused clock r
  found : ∀ i id, (d.client i).state.found = some id → (d.view i).rows .refreshToken id ≠ none

namespace Sim
variable {deps : Deps} {jtis : Nat → Jtis} {clock : Int} {d d' : Db Row Job} {i : Nat} {a : Action Row Job}

theorem view (h : Sim deps jtis clock d d') (hjob : (d.client i).state.isCleanup = false) :
    Pruned clock (d.view i) (d'.view i) := by
  have hview := h.store.onto (d.client i).writes
  unfold Db.view
  rw [h.same i hjob]
  exact hview

theorem registered (h : Sim deps jtis clock d d') (i : Nat) : Registered (d'.view i) where
  unique id id' r r' hr hr' := h.tokens.unique id id' r r' (version_of_view hr) (version_of_view hr')
  used id r hr := h.tokens.wf.used i .refreshToken id r hr

theorem alone (h : Sim deps jtis clock d d') (hserial : ∀ j, j ≠ i → (d.client j).state.inFlight = false) :
    d.Alone i ∧ d'.Alone i := by
  refine ⟨⟨h.wf, fun j hj => h.idle j (hserial j hj)⟩, h.tokens.wf, fun j hj => h.idle' j ?_⟩
  cases hcleanup : (d.client j).state.isCleanup with
  | false =>
    rw [h.same j hcleanup]
    exact hserial j hj
  | true =>
    rw [h.still j hcleanup]
    rfl

/-- What a call writes it may write in both stores. -/
theorem lands (h : Sim deps jtis clock d d') (hserial : ∀ j, j ≠ i → (d.client j).state.inFlight = false)
    (hjob : (d.client i).state.isCleanup = false) {cs : List (Change Row)} {job : Job}
    (hvisible : (Action.write cs job).Visible (d.view i)) :
    cs.all (d.writable i) = true ∧ cs.all (d'.writable i) = true := by
  obtain ⟨halone, halone'⟩ := h.alone hserial
  refine ⟨halone.all_writable hvisible, halone'.all_writable (s := job) fun c hc => ?_⟩
  have hseen := hvisible c hc
  rw [← (h.view hjob).eq_of_some (Option.isSome_iff_ne_none.mp hseen)]
  exact hseen

theorem client_perform (h : Sim deps jtis clock d d')
    (hlands : ∀ cs s, a = .write cs s → cs.all (d.writable i) = true ∧ cs.all (d'.writable i) = true)
    (hjob : (d.client i).state.isCleanup = false) :
    (d'.perform i a).client i = (d.perform i a).client i := by
  have hsame := h.same i hjob
  have hseq : d'.seq = d.seq := h.store.seq.symm
  cases a with
  | next s => simp only [Db.perform, Function.update_self, hsame]
  | insert t row s => simp only [Db.perform, put, Function.update_self, hsame, hseq]
  | write cs s =>
    obtain ⟨hall, hall'⟩ := hlands cs s rfl
    simp only [Db.perform, hall, hall', if_true, put, Function.update_self, hsame]
  | _ => simp only [Db.perform, finish, Function.update_self]

theorem store_perform (h : Sim deps jtis clock d d')
    (hlands : ∀ cs s, a = .write cs s → cs.all (d.writable i) = true ∧ cs.all (d'.writable i) = true)
    (hjob : (d.client i).state.isCleanup = false) :
    Pruned clock ⟨(d.perform i a).committed, (d.perform i a).seq⟩ ⟨(d'.perform i a).committed, (d'.perform i a).seq⟩ := by
  have hseq : d'.seq = d.seq := h.store.seq.symm
  cases a with
  | insert t row s =>
    refine ⟨?_, h.store.rows, h.store.tokens⟩
    simp only [Db.perform, hseq]
  | write cs s =>
    obtain ⟨hall, hall'⟩ := hlands cs s rfl
    simp only [Db.perform, hall, hall', if_true]
    exact h.store
  | commit s => exact h.view hjob
  | _ => exact h.store

/-- A row that a call has just found is in the store. -/
theorem found_perform {id : Nat} (hlands : ∀ cs s, a = .write cs s → cs.all (d.writable i) = true)
    (hfound : a.All fun s => ∀ id, s.found = some id → a = .next s ∧ (d.view i).rows .refreshToken id ≠ none)
    (hid : ((d.perform i a).client i).state.found = some id) :
    ((d.perform i a).view i).rows .refreshToken id ≠ none := by
  cases a with
  | next s =>
    simp only [Db.perform, Function.update_self] at hid
    obtain ⟨-, hrow⟩ := hfound id hid
    simpa only [Db.perform, view_rows, Function.update_self] using hrow
  | insert t row s =>
    simp only [Db.perform, put, Function.update_self] at hid
    obtain ⟨hnext, -⟩ := hfound _ id hid
    cases hnext
  | write cs s =>
    simp only [Db.perform, hlands cs s rfl, if_true, put, Function.update_self] at hid
    obtain ⟨hnext, -⟩ := hfound id hid
    cases hnext
  | _ =>
    simp only [Db.perform, finish, Function.update_self] at hid
    obtain ⟨hnext, -⟩ := hfound id hid
    cases hnext

/-- A step of a call, or of an administrator. -/
theorem call (h : Sim deps jtis clock d d') (hserial : ∀ j, j ≠ i → (d.client j).state.inFlight = false)
    (hjob : (d.client i).state.isCleanup = false) (hopens : a.Opens Job.inFlight (d.client i).state)
    (hvisible : a.Visible (d.view i)) (hstays : a.All fun s => s.isCleanup = false)
    (hfound : a.All fun s => ∀ id, s.found = some id → a = .next s ∧ (d.view i).rows .refreshToken id ≠ none)
    (htokens : Tokens deps jtis (d'.perform i a)) : Sim deps jtis clock (d.perform i a) (d'.perform i a) := by
  have hlands : ∀ cs s, a = .write cs s → cs.all (d.writable i) = true ∧ cs.all (d'.writable i) = true :=
    fun cs s ha => h.lands hserial hjob (ha ▸ hvisible)
  have hstays' : ((d.perform i a).client i).state.isCleanup = false := perform_state hjob hstays
  refine ⟨h.wf.perform a, h.idle.perform hopens, h.idle'.perform (by rwa [h.same i hjob]), htokens,
    h.store_perform hlands hjob, fun j hj => ?_, fun j hj => ?_, fun j hj => ?_, fun j id hj => ?_⟩
  · by_cases hne : j = i
    · subst hne
      exact h.client_perform hlands hjob
    · rw [perform_client_of_ne hne] at hj
      rw [perform_client_of_ne hne, perform_client_of_ne hne]
      exact h.same j hj
  · by_cases hne : j = i
    · subst hne
      rw [hstays'] at hj
      cases hj
    · rw [perform_client_of_ne hne] at hj
      rw [perform_client_of_ne hne]
      exact h.still j hj
  · by_cases hne : j = i
    · subst hne
      rw [hstays'] at hj
      cases hj
    · -- A cleanup that is not running has no changes.
      rw [perform_client_of_ne hne, (h.alone hserial).1.others j hne]
      exact ⟨fun _ _ _ => rfl, fun id x hx => by cases hx⟩
  · by_cases hne : j = i
    · subst hne
      exact found_perform (fun cs s ha => (hlands cs s ha).1) hfound hj
    · rw [perform_client_of_ne hne] at hj
      exact absurd (hserial j hne) (by simp [inFlight_of_found hj])

/-- What a cleanup commits: the tokens that its transaction has deleted are refused by now. -/
theorem store_commit (h : Sim deps jtis clock d d') (hjob : (d.client i).state.isCleanup = true) {clock' : Int}
    (hle : clock ≤ clock') : Pruned clock' ⟨(d.view i).rows, d.seq⟩ ⟨d'.committed, d'.seq⟩ := by
  obtain ⟨hothers, htokens⟩ := h.deletes i hjob
  refine ⟨h.store.seq, fun t ht => ?_, fun id => ?_⟩
  · funext id
    show (d.client i).writes.onto d.committed t id = _
    rw [Writes.onto_of_none (hothers t id ht)]
    exact congrFun (h.store.rows t ht) id
  · show (d.client i).writes.onto d.committed .refreshToken id = _ ∨
      (d.client i).writes.onto d.committed .refreshToken id = none ∧ _
    cases hw : (d.client i).writes .refreshToken id with
    | none =>
      rw [Writes.onto_of_none hw]
      exact (h.store.mono hle).tokens id
    | some x =>
      obtain ⟨rfl, hrefused⟩ := htokens id x hw
      rw [Writes.onto_of_some hw]
      rcases (h.store.mono hle).tokens id with hsame | ⟨-, hlost⟩
      · cases hc : d.committed .refreshToken id with
        | none => exact Or.inl (hc.symm.trans hsame)
        | some r => exact Or.inr ⟨rfl, r, hsame.symm.trans hc, (hrefused r hc).mono hle⟩
      · exact Or.inr ⟨rfl, hlost⟩

/-- A step of a cleanup, which the other run does not take. -/
theorem prune (h : Sim deps jtis clock d d') (hserial : ∀ j, j ≠ i → (d.client j).state.inFlight = false)
    (hjob : (d.client i).state.isCleanup = true) (hopens : a.Opens Job.inFlight (d.client i).state)
    (hstays : a.All fun s => s.isCleanup = true) (hinsert : ∀ t row s, a ≠ .insert t row s) {clock' : Int}
    (hle : clock ≤ clock') (hdeletes : (∀ t id, t ≠ .refreshToken → ((d.perform i a).client i).writes t id = none) ∧
      ∀ id x, ((d.perform i a).client i).writes .refreshToken id = some x →
        x = none ∧ ∀ r, d.committed .refreshToken id = some r → Refused clock' r) :
    Sim deps jtis clock' (d.perform i a) d' := by
  have hstays' : ((d.perform i a).client i).state.isCleanup = true := perform_state hjob hstays
  have hseq : (d.perform i a).seq = d.seq := perform_seq hinsert
  refine ⟨h.wf.perform a, h.idle.perform hopens, h.idle', h.tokens, ?_, fun j hj => ?_, fun j hj => ?_, fun j hj => ?_,
    fun j id hj => ?_⟩
  · rw [hseq]
    cases a with
    | commit s => exact h.store_commit hjob hle
    | _ =>
      rw [perform_committed (by simp)]
      exact h.store.mono hle
  · by_cases hne : j = i
    · subst hne
      rw [hstays'] at hj
      cases hj
    · rw [perform_client_of_ne hne] at hj ⊢
      exact h.same j hj
  · by_cases hne : j = i
    · subst hne
      exact h.still j hjob
    · rw [perform_client_of_ne hne] at hj
      exact h.still j hj
  · by_cases hne : j = i
    · subst hne
      cases a with
      | commit s =>
        simp only [Db.perform, finish, Function.update_self]
        exact ⟨fun _ _ _ => rfl, fun id x hx => by cases hx⟩
      | _ =>
        rw [perform_committed (by simp)]
        exact hdeletes
    · rw [perform_client_of_ne hne, (h.alone hserial).1.others j hne]
      exact ⟨fun _ _ _ => rfl, fun id x hx => by cases hx⟩
  · by_cases hne : j = i
    · subst hne
      unfold Job.isCleanup at hstays'
      split at hstays'
      · rename_i hcleanup
        rw [hcleanup] at hj
        cases hj
      · cases hstays'
    · rw [perform_client_of_ne hne] at hj
      exact absurd (hserial j hne) (by simp [inFlight_of_found hj])

theorem mono {clock' : Int} (h : Sim deps jtis clock d d') (hle : clock ≤ clock') : Sim deps jtis clock' d d' where
  wf := h.wf
  idle := h.idle
  idle' := h.idle'
  tokens := h.tokens
  store := h.store.mono hle
  same := h.same
  still := h.still
  deletes i hi := by
    obtain ⟨hothers, htokens⟩ := h.deletes i hi
    exact ⟨hothers, fun id x hx => ⟨(htokens id x hx).1, fun r hr => ((htokens id x hx).2 r hr).mono hle⟩⟩
  found := h.found

/-- What a cleanup has deleted, after each of its steps. -/
theorem deletes_perform (h : Sim deps jtis clock d d') {st : Cleanup} (hjob : (d.client i).state = .cleanup st)
    {now : DateTime} (hle : clock ≤ now.utc) (ha : a = jobAct deps now (.cleanup st) (d.view i)) :
    (∀ t id, t ≠ .refreshToken → ((d.perform i a).client i).writes t id = none) ∧
      ∀ id x, ((d.perform i a).client i).writes .refreshToken id = some x →
        x = none ∧ ∀ r, d.committed .refreshToken id = some r → Refused now.utc r := by
  have hbefore := (h.mono hle).deletes i (by rw [hjob]; rfl)
  subst ha
  cases st with
  | start =>
    have hempty : (d.client i).writes = .empty := h.idle i (by rw [hjob]; rfl)
    simp only [jobAct, cleanupRefreshTokens, Action.map, Db.perform]
    split
    · simp only [put, Function.update_self, hempty]
      refine ⟨fun t id ht => ?_, fun id x hx => ?_⟩
      · by_contra hne
        rcases Writes.setAll_ne_none_iff.mp hne with ⟨c, hc, hat⟩ | hw
        · obtain ⟨r, -, rfl⟩ := List.mem_map.mp hc
          exact ht hat.1.symm
        · exact hw rfl
      · rcases Writes.setAll_ne_none_iff.mp (by rw [hx]; simp) with ⟨c, hc, hat⟩ | hw
        · obtain ⟨r, hr, rfl⟩ := List.mem_map.mp hc
          obtain ⟨-, rfl⟩ := hat
          refine ⟨?_, fun r' hr' => ?_⟩
          · cases x with
            | none => rfl
            | some r'' =>
              rcases Writes.mem_of_setAll hx with hmem | hw
              · obtain ⟨r₀, -, heq⟩ := List.mem_map.mp hmem
                simp at heq
              · cases hw
          · obtain ⟨hselect, hdeletable⟩ := List.mem_filter.mp hr
            have hrow : (d.view i).rows .refreshToken r.1 = some r.2 := mem_select hselect
            rw [view_rows, hempty, Writes.onto_empty, hr'] at hrow
            cases hrow
            exact deletable_iff.mp hdeletable
        · exact absurd rfl hw
    · exact hbefore
  | deleted count =>
    simp only [jobAct, cleanupRefreshTokens, Action.map, Db.perform, finish, Function.update_self]
    exact ⟨fun _ _ _ => rfl, fun id x hx => by cases hx⟩
  | _ =>
    simp only [jobAct, cleanupRefreshTokens, Action.map, Db.perform, Function.update_self]
    exact hbefore

theorem step_call (h : Sim deps jtis clock d d') (hdistinct : ∀ i j, (jtis i).refresh = (jtis j).refresh → i = j)
    {e : Event DateTime} (hserial : Serial d e) (hjob : (d.client e.client).state.isCleanup = false)
    (hclock : clock ≤ (instant? e).getD clock) :
    Sim deps jtis ((instant? e).getD clock) (jobStep deps d e) (jobStep deps d' e) := by
  have htokens := h.tokens.step hdistinct e
  cases e with
  | step i now =>
    have hsame := h.same i hjob
    have hact : jobAct deps now (d.client i).state (d.view i) = jobAct deps now (d'.client i).state (d'.view i) := by
      rw [hsame]
      refine jobAct_pruned (h.view hjob) (h.registered i) hclock hjob (fun js hjs hpending => ?_) (h.found i)
      intro id r c hr hc
      rw [← hsame] at hjs hpending
      rw [h.tokens.drawn i js hjs]
      exact h.tokens.unissued i hpending id r c (version_of_view hr) hc
    show Sim deps jtis now.utc (d.perform i (jobAct deps now (d.client i).state (d.view i)))
      (d'.perform i (jobAct deps now (d'.client i).state (d'.view i)))
    change Tokens deps jtis (d'.perform i (jobAct deps now (d'.client i).state (d'.view i))) at htokens
    rw [← hact] at htokens ⊢
    refine (h.mono hclock).call hserial hjob (jobAct_opens deps now _ _)
      (jobAct_visible deps now (d.view i)) ?_ (jobAct_found deps now _ _) htokens
    have hstays := jobAct_isCleanup deps now (d.client i).state (d.view i)
    rwa [show (d.client i).state.isCleanup = false from hjob] at hstays
  | fail i =>
    have hsame := h.same i hjob
    show Sim deps jtis clock (d.perform i (.rollback (d.client i).state.refused))
      (d'.perform i (.rollback (d'.client i).state.refused))
    change Tokens deps jtis (d'.perform i (.rollback (d'.client i).state.refused)) at htokens
    rw [hsame] at htokens ⊢
    refine h.call hserial hjob (refused_not_inFlight _) trivial ?_ (fun id hid => ?_) htokens
    · exact (refused_isCleanup _).trans hjob
    · have hin := inFlight_of_found hid
      rw [refused_not_inFlight] at hin
      cases hin

theorem step_cleanup (h : Sim deps jtis clock d d') {e : Event DateTime} (hserial : Serial d e)
    (hjob : (d.client e.client).state.isCleanup = true) (hclock : clock ≤ (instant? e).getD clock) :
    Sim deps jtis ((instant? e).getD clock) (jobStep deps d e) d' := by
  cases e with
  | step i now =>
    change (d.client i).state.isCleanup = true at hjob
    obtain ⟨st, hst⟩ := exists_cleanup hjob
    have hstays := jobAct_isCleanup deps now (d.client i).state (d.view i)
    rw [hjob] at hstays
    show Sim deps jtis now.utc (d.perform i (jobAct deps now (d.client i).state (d.view i))) d'
    refine h.prune (a := jobAct deps now (d.client i).state (d.view i)) hserial hjob (jobAct_opens deps now _ _) hstays
      (fun t row s ha => ?_) hclock ?_
    · rw [hst] at ha
      cases st <;> cases ha
    · exact h.deletes_perform hst hclock (by rw [hst])
  | fail i =>
    change (d.client i).state.isCleanup = true at hjob
    show Sim deps jtis clock (d.perform i (.rollback (d.client i).state.refused)) d'
    refine h.prune (a := .rollback _) hserial hjob (refused_not_inFlight _) ((refused_isCleanup _).trans hjob)
      (fun _ _ _ ha => by cases ha) hclock ?_
    simp only [Db.perform, finish, Function.update_self]
    exact ⟨fun _ _ _ => rfl, fun id x hx => by cases hx⟩

end Sim

end IrisService.Auth
