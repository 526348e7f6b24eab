import IrisService.Auth.Jobs
import IrisService.Library.CommitHistory

/-! The tokens of the registry stay distinct, whatever jobs run. -/

namespace IrisService.Auth
open ReadCommitted Db Runs Orders

/-- A store at rest whose refresh tokens are distinct. -/
structure TokenStore where
  rows : Rows Row
  seq : Table → Nat
  fresh : ∀ t id, seq t ≤ id → rows t id = none
  /-- `uq_refresh_token_token` -/
  unique : ∀ id id' r r', rows .refreshToken id = some r → rows .refreshToken id' = some r' →
    RefreshToken.token r = RefreshToken.token r' → id = id'

/-- The `uuid4` values of the jobs: distinct from each other and from those of the stored tokens. -/
structure Draws (deps : Deps) (store : TokenStore) where
  jtis : Nat → Jtis
  distinct : ∀ i j, (jtis i).refresh = (jtis j).refresh → i = j
  unused : ∀ i id r c, store.rows .refreshToken id = some r → RefreshToken.token r = deps.jwt.encode c →
    c.jti ≠ (jtis i).refresh

/-- The store with one client for each task, none of them started. -/
def TokenStore.serve {deps : Deps} (store : TokenStore) (draws : Draws deps store) (tasks : Nat → Task) : Db Row Job :=
  Db.start store.rows store.seq fun i => (tasks i).open (draws.jtis i)

/-! ### What a job does to the registry -/

/-- The call has not inserted its token yet. -/
def Job.pending : Job → Bool
  | .call session => session.pending
  | _ => false

/-- The token that the job draws, if it draws one. -/
def Job.jtis? : Job → Option Jtis
  | .call session => some session.jtis
  | _ => none

/-- A token is rewritten as it was, or minted once by a call that has not done so yet. -/
structure TokenStep (deps : Deps) (v : View Row) (job : Job) (a : Action Row Job) : Prop where
  keeps : a.Keeps .refreshToken RefreshToken.token v
  mints : ∀ row s', a = .insert .refreshToken row s' → job.pending = true ∧
    ∃ jtis, job.jtis? = some jtis ∧ ∀ id, Minted deps jtis (row id) ∧ (s' id).pending = false
  draws : a.All fun job' => job'.jtis? = job.jtis? ∧ (job'.pending = true → job.pending = true)

theorem act_tokenStep (deps : Deps) (now : DateTime) (session : Session) (v : View Row) :
    TokenStep deps v (.call session) ((act deps now session v).map .call) := by
  have ht : Turns deps now v session (act deps now session v) := act_turns session
  generalize act deps now session v = a at ht
  cases ht with
  | revoke hrow =>
    refine ⟨fun id r hmem => ?_, fun row s' h => (by cases h), rfl, fun h => h⟩
    simp only [List.mem_singleton, Change.mk.injEq, true_and, heq_eq_eq, Option.some.injEq] at hmem
    obtain ⟨rfl, rfl⟩ := hmem
    exact ⟨_, hrow, rfl⟩
  | issue hminted =>
    refine ⟨trivial, fun row s' h => ?_, fun id => ⟨rfl, fun h => (by cases h)⟩⟩
    cases h
    exact ⟨rfl, _, rfl, fun id => ⟨hminted, rfl⟩⟩
  | issueLogin hminted =>
    refine ⟨trivial, fun row s' h => ?_, fun id => ⟨rfl, fun h => (by cases h)⟩⟩
    cases h
    exact ⟨rfl, _, rfl, fun id => ⟨hminted, rfl⟩⟩
  | _ => exact ⟨trivial, fun row s' h => (by cases h), rfl, fun h => (by first | exact h | rfl | cases h)⟩

theorem jobAct_tokenStep (deps : Deps) (now : DateTime) (job : Job) (v : View Row) :
    TokenStep deps v job (jobAct deps now job v) := by
  cases job with
  | call session => exact act_tokenStep deps now session v
  | cleanup st =>
    cases st with
    | start =>
      refine ⟨fun id r hmem => ?_, fun row s' h => (by cases h), rfl, fun h => h⟩
      obtain ⟨r', -, heq⟩ := List.mem_map.mp hmem
      cases heq
    | _ => exact ⟨trivial, fun row s' h => (by cases h), rfl, fun h => h⟩
  | administer change st =>
    cases st with
    | start =>
      cases change with
      | create user => exact ⟨trivial, fun row s' h => (by cases h), fun id => ⟨rfl, fun h => h⟩⟩
      | update id set =>
        simp only [jobAct, administer, update]
        split
        · refine ⟨fun id r hmem => ?_, fun row s' h => (by cases h), rfl, fun h => h⟩
          exact absurd (congrArg Change.table (List.mem_singleton.mp hmem)) (by simp)
        · exact ⟨trivial, fun row s' h => (by cases h), rfl, fun h => h⟩
      | delete id =>
        simp only [jobAct, administer]
        split
        · refine ⟨fun id r hmem => ?_, fun row s' h => (by cases h), rfl, fun h => h⟩
          exact absurd (congrArg Change.table (List.mem_singleton.mp hmem)) (by simp)
        · exact ⟨trivial, fun row s' h => (by cases h), rfl, fun h => h⟩
    | _ => exact ⟨trivial, fun row s' h => (by cases h), rfl, fun h => h⟩

theorem refused_tokenStep (deps : Deps) (job : Job) (v : View Row) : TokenStep deps v job (.rollback job.refused) where
  keeps := trivial
  mints _ _ h := by cases h
  draws := by
    cases job with
    | call session =>
      cases session with
      | login username password jtis st => cases st <;> exact ⟨rfl, fun h => (by cases h)⟩
      | refresh token jtis st => cases st <;> exact ⟨rfl, fun h => (by cases h)⟩
    | cleanup st => cases st <;> exact ⟨rfl, fun h => (by cases h)⟩
    | administer change st => cases st <;> exact ⟨rfl, fun h => (by cases h)⟩

/-! ### The invariant -/

/-- What holds of the refresh tokens in every run. -/
structure Tokens (deps : Deps) (jtis : Nat → Jtis) (d : Db Row Job) : Prop where
  wf : d.Wf
  unique : ∀ id id' r r', d.Version .refreshToken id r → d.Version .refreshToken id' r' →
    RefreshToken.token r = RefreshToken.token r' → id = id'
  drawn : ∀ i js, (d.client i).state.jtis? = some js → js = jtis i
  unissued : ∀ i, (d.client i).state.pending = true → ∀ id r c, d.Version .refreshToken id r →
    RefreshToken.token r = deps.jwt.encode c → c.jti ≠ (jtis i).refresh

namespace Tokens
variable {deps : Deps} {jtis : Nat → Jtis} {d : Db Row Job} {i : Nat} {a : Action Row Job}

/-- A version after a step has the token of a version before it, or is minted now. -/
theorem version_perform (h : Tokens deps jtis d) (ha : TokenStep deps (d.view i) (d.client i).state a) {id : Nat}
    {r : RefreshToken} (hr : (d.perform i a).Version .refreshToken id r) :
    (∃ r', d.Version .refreshToken id r' ∧ RefreshToken.token r' = r.token) ∨
    id = d.seq .refreshToken ∧ (d.client i).state.pending = true ∧ Minted deps (jtis i) r ∧
      ((d.perform i a).client i).state.pending = false ∧ ∃ row s, a = .insert .refreshToken row s ∧ r = row id := by
  rcases perform_version hr with hr | ⟨row, s, rfl, rfl, rfl⟩ | ⟨cs, s, rfl, hmem⟩
  · exact Or.inl ⟨r, hr, rfl⟩
  · obtain ⟨hpending, js, hjs, hminted⟩ := ha.mints row s rfl
    rw [h.drawn i js hjs] at hminted
    refine Or.inr ⟨rfl, hpending, (hminted _).1, ?_, row, s, rfl, rfl⟩
    simp only [Db.perform, put, Function.update_self]
    exact (hminted _).2
  · obtain ⟨r', hr', ht⟩ := ha.keeps id r hmem
    exact Or.inl ⟨r', version_of_view hr', ht⟩

theorem perform (h : Tokens deps jtis d) (hdistinct : ∀ i j, (jtis i).refresh = (jtis j).refresh → i = j)
    (ha : TokenStep deps (d.view i) (d.client i).state a) : Tokens deps jtis (d.perform i a) where
  wf := h.wf.perform a
  unique id id' r r' hr hr' ht := by
    rcases h.version_perform ha hr with ⟨r₀, hr₀, ht₀⟩ | ⟨rfl, hpending, ⟨-, c, -, hjti, hc⟩, -⟩
    · rcases h.version_perform ha hr' with ⟨r₁, hr₁, ht₁⟩ | ⟨rfl, hpending, ⟨-, c, -, hjti, hc⟩, -⟩
      · exact h.unique id id' r₀ r₁ hr₀ hr₁ (by rw [ht₀, ht₁, ht])
      · exact absurd hjti (h.unissued i hpending id r₀ c hr₀ (by rw [ht₀, ht, hc]))
    · rcases h.version_perform ha hr' with ⟨r₁, hr₁, ht₁⟩ | ⟨rfl, -⟩
      · exact absurd hjti (h.unissued i hpending id' r₁ c hr₁ (by rw [ht₁, ← ht, hc]))
      · rfl
  drawn j js hj := by
    by_cases hne : j = i
    · subst hne
      have hsame := perform_state (P := fun job : Job => job.jtis? = (d.client j).state.jtis? ∧
        (job.pending = true → (d.client j).state.pending = true)) ⟨rfl, fun h => h⟩ ha.draws
      rw [hsame.1] at hj
      exact h.drawn j js hj
    · rw [perform_client_of_ne hne] at hj
      exact h.drawn j js hj
  unissued j hj id r c hr hc := by
    have hbefore : (d.client j).state.pending = true := by
      by_cases hne : j = i
      · subst hne
        exact (perform_state (P := fun job : Job => job.jtis? = (d.client j).state.jtis? ∧
          (job.pending = true → (d.client j).state.pending = true)) ⟨rfl, fun h => h⟩ ha.draws).2 hj
      · rwa [perform_client_of_ne hne] at hj
    rcases h.version_perform ha hr with ⟨r₀, hr₀, ht₀⟩ | ⟨-, -, ⟨-, c', -, hjti, hc'⟩, hdone, -⟩
    · exact h.unissued j hbefore id r₀ c hr₀ (by rw [ht₀, hc])
    · -- The token minted now has the identity of client `i`, which has drawn another one than client `j`.
      have heq : c = c' := deps.jwt.encode_injective c c' (hc.symm.trans hc')
      rw [heq, hjti]
      intro hij
      obtain rfl := hdistinct i j hij
      rw [hj] at hdone
      cases hdone

theorem step (h : Tokens deps jtis d) (hdistinct : ∀ i j, (jtis i).refresh = (jtis j).refresh → i = j)
    (e : Event DateTime) : Tokens deps jtis (jobStep deps d e) := by
  cases e with
  | step i now => exact h.perform hdistinct (jobAct_tokenStep deps now _ _)
  | fail i => exact h.perform hdistinct (refused_tokenStep deps _ _)

end Tokens

theorem TokenStore.tokens {deps : Deps} (store : TokenStore) (draws : Draws deps store) (tasks : Nat → Task) :
    Tokens deps draws.jtis (store.serve draws tasks) := by
  have hcommitted : ∀ {id r}, (store.serve draws tasks).Version .refreshToken id r →
      store.rows .refreshToken id = some r := by
    rintro id r (hr | ⟨i, hw⟩)
    · exact hr
    · cases hw
  refine ⟨Db.Wf.start store.fresh, fun id id' r r' hr hr' => ?_, fun i js hjs => ?_, fun i _ id r c hr => ?_⟩
  · exact store.unique id id' r r' (hcommitted hr) (hcommitted hr')
  · have hopen : ((tasks i).open (draws.jtis i)).jtis? = some js := hjs
    cases htask : tasks i with
    | call c =>
      rw [htask] at hopen
      cases c <;> exact (Option.some.inj hopen).symm
    | _ =>
      rw [htask] at hopen
      cases hopen
  · exact draws.unused i id r c (hcommitted hr)

end IrisService.Auth
