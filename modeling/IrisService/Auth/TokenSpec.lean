import IrisService.Auth.AccountRuns
import IrisService.Auth.CleanupSim
import IrisService.Library.Solo
import IrisService.Rest.SpecRuns

/-! What a call, a cleanup or a change of the accounts does to a store that serves it alone, in one step. -/

namespace IrisService.Auth
open ReadCommitted Orders Runs
open Rest (withRow withRow_same)

/-- A task, with the `uuid4` values and the clock that its job reads. -/
structure Dispatch where
  task : Task
  jtis : Jtis
  clock : Nat → DateTime

/-! ### The specification -/

/-- The row of a minted token. -/
def mintedRow (deps : Deps) (username : String) (role : Json) (jtis : Jtis) (now : DateTime) : RefreshToken :=
  newToken (mintedPair deps username role jtis now).refreshToken username
    (jtis.stored.addSeconds (issueRefreshToken deps.jwt deps.settings username role jtis.signed jtis.refresh).2) now

section Spec
variable (deps : Deps) (store : TokenStore)

/-- The rows as a session reads them. -/
def TokenStore.view (store : TokenStore) : View Row := ⟨store.rows, store.seq⟩

/-- `_issue_token_pair` in a transaction that has come to `rows`. -/
def TokenStore.issueSpec (rows : Rows Row) (username : String) (role : Json) (jtis : Jtis) (now : DateTime) :
    Answer × Rows Row :=
  if (withToken ⟨rows, store.seq⟩ (mintedPair deps username role jtis now).refreshToken).isEmpty then
    (.tokens (mintedPair deps username role jtis now),
      withRow rows .refreshToken (store.seq .refreshToken) (some (mintedRow deps username role jtis now)))
  else (.raised "IntegrityError", store.rows)

/-- A login served alone. -/
def TokenStore.loginSpec (username password : String) (jtis : Jtis) (clock : Nat → DateTime) : Answer × Rows Row :=
  match (select store.view .appUser).filter fun u => u.2.username = username with
  | [] => (unauthorized "Invalid credentials", store.rows)
  | [(_, user)] =>
    if !user.enabled || !deps.verifyPassword password user.passwordHash then
      (unauthorized "Invalid credentials", store.rows)
    else store.issueSpec deps store.rows user.username (.str user.role) jtis (clock 1)
  | _ => (.raised "MultipleResultsFound", store.rows)

/-- A refresh served alone. -/
def TokenStore.refreshSpec (refreshToken : String) (jtis : Jtis) (clock : Nat → DateTime) : Answer × Rows Row :=
  match decodeToken deps.jwt (clock 0) refreshToken .refresh with
  | .error (.jwtError detail) => (unauthorized detail, store.rows)
  | .error (.raised exc) => (.raised exc, store.rows)
  | .ok claims =>
    match withToken store.view refreshToken with
    | [] => (unauthorized "Refresh token revoked or expired", store.rows)
    | [(id, record)] =>
      if record.revoked || record.expiresAt.utc < (clock 1).utc then
        (unauthorized "Refresh token revoked or expired", store.rows)
      else
        match claims "sub", claims "role" with
        | some (.str username), some role =>
          store.issueSpec deps (withRow store.rows .refreshToken id (some { record with revoked := true })) username
            role jtis
            (clock 3)
        | some _, some _ => (.raised "DBAPIError", store.rows)
        | _, _ => (.raised "KeyError", store.rows)
    | _ => (.raised "MultipleResultsFound", store.rows)

/-- The rows without the tokens that a cleanup deletes. -/
def withoutDeletable (rows : Rows Row) (now : DateTime) : Rows Row := fun t =>
  match t with
  | .refreshToken => fun id => (rows .refreshToken id).filter fun r => !deletable now r
  | t => rows t

/-- A change of the accounts. -/
def TokenStore.administerSpec (change : AccountChange) : Rows Row :=
  match change with
  | .create user => withRow store.rows .appUser (store.seq .appUser) (some user)
  | .update id set => withRow store.rows .appUser id ((store.rows .appUser id).map set)
  | .delete id => withRow store.rows .appUser id none

/-- The answer, if the task is a call, and the rows after it. -/
def TokenStore.spec (x : Dispatch) : Option Answer × Rows Row :=
  match x.task with
  | .call (.login username password) =>
    let outcome := store.loginSpec deps username password x.jtis x.clock
    (some outcome.1, outcome.2)
  | .call (.refresh refreshToken) =>
    let outcome := store.refreshSpec deps refreshToken x.jtis x.clock
    (some outcome.1, outcome.2)
  | .cleanup => (none, withoutDeletable store.rows (x.clock 0))
  | .administer change => (none, store.administerSpec change)

end Spec

/-! ### The handlers alone -/

section Handlers
variable (deps : Deps) (store : TokenStore) (clock : Nat → DateTime)

/-- The code is over, with the answer and the rows of the outcome. -/
def Comes {S : Type} (done : Answer → S) (outcome : Answer × Rows Row) (x : Solo Row S) : Prop :=
  x.state = done outcome.1 ∧ x.committed = outcome.2

variable {deps} in
theorem issueTokenPair_free {S : Type} {v : View Row} {username : String} {role : Json} {jtis : Jtis} {now : DateTime}
    {flushed : TokenResponse → S} {failed : Answer → S}
    (h : (withToken v (mintedPair deps username role jtis now).refreshToken).isEmpty = true) :
    issueTokenPair deps username role jtis now v flushed failed = .insert .refreshToken
      (fun _ => mintedRow deps username role jtis now) fun _ => flushed (mintedPair deps username role jtis now) :=
  if_pos h

variable {deps} in
theorem issueTokenPair_taken {S : Type} {v : View Row} {username : String} {role : Json} {jtis : Jtis} {now : DateTime}
    {flushed : TokenResponse → S} {failed : Answer → S}
    (h : ¬(withToken v (mintedPair deps username role jtis now).refreshToken).isEmpty = true) :
    issueTokenPair deps username role jtis now v flushed failed = .rollback (failed (.raised "IntegrityError")) :=
  if_neg h

/-- The last three steps of both handlers. -/
theorem issueTokenPair_comes {S : Type} {handler : Nat → S → View Row → Action Row S} {start : S}
    (flushed answered : TokenResponse → S) {done : Answer → S} {rows : Rows Row} {username : String} {role : Json}
    {jtis : Jtis} {k n : Nat}
    (hissue : ∀ v, handler k start v = issueTokenPair deps username role jtis (clock k) v flushed done)
    (hflushed : ∀ k pair v, handler k (flushed pair) v = .next (answered pair))
    (hanswered : ∀ k pair v, handler k (answered pair) v = .commit (done (.tokens pair)))
    (hdone : ∀ a k v, handler k (done a) v = .next (done a)) :
    Comes done (store.issueSpec deps rows username role jtis (clock k))
      (Solo.exec handler k (n + 3) ⟨start, ⟨rows, store.seq⟩, store.rows⟩) := by
  rw [Solo.exec_succ, hissue]
  unfold TokenStore.issueSpec
  by_cases hfree : (withToken ⟨rows, store.seq⟩ (mintedPair deps username role jtis (clock k)).refreshToken).isEmpty = true
  · rw [issueTokenPair_free hfree, if_pos hfree, Solo.exec_succ, Solo.exec_succ]
    simp only [Solo.perform, hflushed, hanswered]
    rw [Solo.exec_of_done (hdone _)]
    exact ⟨rfl, rfl⟩
  · rw [issueTokenPair_taken hfree, if_neg hfree]
    simp only [Solo.perform]
    rw [Solo.exec_of_done (hdone _)]
    exact ⟨rfl, rfl⟩

theorem login_comes (username password : String) (jtis : Jtis) :
    Comes .done (store.loginSpec deps username password jtis clock)
      (Solo.exec (fun k => login deps username password jtis (clock k)) 0 6 ⟨.start, store.view, store.rows⟩) := by
  rw [Solo.exec_succ]
  rcases hfound : (select store.view .appUser).filter fun u => u.2.username = username with
    _ | ⟨⟨id, user⟩, _ | ⟨other, others⟩⟩
  · simp only [login, TokenStore.loginSpec, hfound, Solo.perform]
    rw [Solo.exec_of_done fun _ _ => rfl]
    exact ⟨rfl, rfl⟩
  · by_cases hbad : (!user.enabled || !deps.verifyPassword password user.passwordHash) = true
    · simp only [login, TokenStore.loginSpec, hfound, if_pos hbad, Solo.perform]
      rw [Solo.exec_of_done fun _ _ => rfl]
      exact ⟨rfl, rfl⟩
    · simp only [login, TokenStore.loginSpec, hfound, if_neg hbad, Solo.perform]
      exact issueTokenPair_comes deps store clock .flushed .answered (fun _ => rfl) (fun _ _ _ => rfl) (fun _ _ _ => rfl)
        fun _ _ _ => rfl
  · simp only [login, TokenStore.loginSpec, hfound, Solo.perform]
    rw [Solo.exec_of_done fun _ _ => rfl]
    exact ⟨rfl, rfl⟩

/-- The steps of a refresh that has revoked its token. -/
theorem revoked_comes {refreshToken : String} (claims : JwtClaims) (jtis : Jtis) (rows : Rows Row) :
    Comes .done (match claims "sub", claims "role" with
        | some (.str username), some role => store.issueSpec deps rows username role jtis (clock 3)
        | some _, some _ => (.raised "DBAPIError", store.rows)
        | _, _ => (.raised "KeyError", store.rows))
      (Solo.exec (fun k => refresh deps refreshToken jtis (clock k)) 3 3
        ⟨.revoked claims, ⟨rows, store.seq⟩, store.rows⟩) := by
  have hraises : ∀ exc,
    (∀ v, refresh deps refreshToken jtis (clock 3) (.revoked claims) v = .rollback (.done (.raised exc))) →
      Comes .done (.raised exc, store.rows) (Solo.exec (fun k => refresh deps refreshToken jtis (clock k)) 3 3
        ⟨.revoked claims, ⟨rows, store.seq⟩, store.rows⟩) := by
    intro exc hraise
    rw [Solo.exec_succ, hraise]
    simp only [Solo.perform]
    rw [Solo.exec_of_done fun _ _ => rfl]
    exact ⟨rfl, rfl⟩
  cases hsub : claims "sub" with
  | none => exact hraises "KeyError" fun v => by simp only [refresh, hsub]
  | some sub =>
    cases hrole : claims "role" with
    | none => cases sub <;> exact hraises "KeyError" fun v => by simp only [refresh, hsub, hrole]
    | some role =>
      cases sub with
      | str username =>
        exact issueTokenPair_comes deps store clock .flushed .answered (n := 0)
          (fun v => by simp only [refresh, hsub, hrole]) (fun _ _ _ => rfl) (fun _ _ _ => rfl) fun _ _ _ => rfl
      | _ => exact hraises "DBAPIError" fun v => by simp only [refresh, hsub, hrole]

theorem refresh_comes (refreshToken : String) (jtis : Jtis) :
    Comes .done (store.refreshSpec deps refreshToken jtis clock)
      (Solo.exec (fun k => refresh deps refreshToken jtis (clock k)) 0 6 ⟨.start, store.view, store.rows⟩) := by
  rw [Solo.exec_succ]
  cases hdecode : decodeToken deps.jwt (clock 0) refreshToken .refresh with
  | error e =>
    cases e with
    | jwtError detail | raised exc =>
      simp only [refresh, TokenStore.refreshSpec, hdecode, Solo.perform]
      rw [Solo.exec_of_done fun _ _ => rfl]
      exact ⟨rfl, rfl⟩
  | ok claims =>
    simp only [refresh, TokenStore.refreshSpec, hdecode, Solo.perform]
    rw [Solo.exec_succ]
    rcases hfound : withToken store.view refreshToken with _ | ⟨⟨id, record⟩, _ | ⟨other, others⟩⟩
    · simp only [refresh, hfound, Solo.perform]
      rw [Solo.exec_of_done fun _ _ => rfl]
      exact ⟨rfl, rfl⟩
    · have hrow : store.view.rows .refreshToken id = some record :=
        (mem_withToken (hfound ▸ List.mem_singleton_self _)).1
      by_cases hbad : (record.revoked || decide (record.expiresAt.utc < (clock 1).utc)) = true
      · simp only [refresh, hfound, if_pos hbad, Solo.perform]
        rw [Solo.exec_of_done fun _ _ => rfl]
        exact ⟨rfl, rfl⟩
      · simp only [refresh, hfound, if_neg hbad, Solo.perform]
        rw [Solo.exec_succ]
        simp only [refresh, update, hrow, Solo.perform, Writes.setAll_cons, Writes.setAll_nil]
        exact revoked_comes deps store clock claims jtis _
    · simp only [refresh, hfound, Solo.perform]
      rw [Solo.exec_of_done fun _ _ => rfl]
      exact ⟨rfl, rfl⟩

theorem TokenStore.used (store : TokenStore) : store.view.Used := by
  intro t id row hrow
  by_contra hid
  rw [show store.view.rows t id = none from store.fresh t id (Nat.not_lt.mp hid)] at hrow
  cases hrow

theorem onto_deletable (now : DateTime) :
    ((Writes.empty : Writes Row).setAll ((deletableTokens store.view now).map fun r => ⟨.refreshToken, r.1, none⟩)).onto
      store.rows = withoutDeletable store.rows now := by
  have hdeletes : ∀ c ∈ (deletableTokens store.view now).map (fun r => (⟨.refreshToken, r.1, none⟩ : Change Row)),
      c.row = none := by
    intro c hc
    obtain ⟨r, -, rfl⟩ := List.mem_map.mp hc
    rfl
  funext t id
  refine Option.ext fun r => ?_
  rw [Writes.onto_deletes hdeletes]
  simp only [List.mem_map, forall_exists_index, and_imp, forall_apply_eq_imp_iff₂, Change.At]
  cases t with
  | refreshToken =>
    simp only [true_and, withoutDeletable, Option.filter_eq_some_iff, Bool.not_eq_eq_eq_not, Bool.not_true]
    refine and_congr_right fun hrow => ⟨fun h => ?_, fun h r' hr' hid => ?_⟩
    · by_contra hdeletable
      rw [Bool.not_eq_false] at hdeletable
      exact h (id, r) (List.mem_filter.mpr ⟨mem_select_of_row (store.used .refreshToken id r hrow) hrow, hdeletable⟩) rfl
    · obtain ⟨hselected, hdeletable⟩ := List.mem_filter.mp hr'
      have hrow' := mem_select hselected
      rw [hid, show store.view.rows .refreshToken id = some r from hrow] at hrow'
      obtain rfl := Option.some.inj hrow'
      rw [hdeletable] at h
      cases h
  | _ => simp [withoutDeletable]

theorem cleanup_comes :
    (Solo.exec (fun k => cleanupRefreshTokens (clock k)) 0 6 ⟨.start, store.view, store.rows⟩).committed =
      withoutDeletable store.rows (clock 0) := by
  rw [Solo.exec_succ]
  simp only [cleanupRefreshTokens, Solo.perform]
  rw [Solo.exec_succ]
  simp only [cleanupRefreshTokens, Solo.perform]
  rw [Solo.exec_of_done fun _ _ => rfl]
  exact onto_deletable store (clock 0)

/-- A change of the accounts that has been written is committed. -/
theorem changed_comes (change : AccountChange) (v : View Row) :
    (Solo.exec (fun _ => administer change) 1 5 ⟨.changed, v, store.rows⟩).committed = v.rows := by
  rw [Solo.exec_succ]
  simp only [administer, Solo.perform]
  rw [Solo.exec_of_done fun _ _ => rfl]

theorem administer_comes (change : AccountChange) :
    (Solo.exec (fun _ => administer change) 0 6 ⟨.start, store.view, store.rows⟩).committed =
      store.administerSpec change := by
  rw [Solo.exec_succ]
  cases change with
  | create user => exact changed_comes store (.create user) _
  | update id set =>
    cases hrow : store.view.rows .appUser id with
    | none =>
      simp only [administer, update, hrow, Solo.perform]
      rw [Solo.exec_of_done fun _ _ => rfl]
      have hsame : store.rows .appUser id = none := hrow
      simp only [TokenStore.administerSpec, hsame, Option.map_none]
      exact (withRow_same hsame).symm
    | some user =>
      have hsame : store.rows .appUser id = some user := hrow
      simp only [administer, update, hrow, Solo.perform]
      rw [changed_comes]
      simp only [TokenStore.administerSpec, hsame, Option.map_some]
      rfl
  | delete id =>
    cases hrow : store.view.rows .appUser id with
    | none =>
      simp only [administer, hrow, Solo.perform]
      rw [changed_comes]
      exact (withRow_same hrow).symm
    | some user =>
      simp only [administer, hrow, Solo.perform]
      rw [changed_comes]
      rfl

end Handlers

/-! ### Tasks -/

/-- The database while the store serves the task alone. -/
def TokenStore.serveAlone (deps : Deps) (store : TokenStore) (x : Dispatch) : Db Row Job :=
  run (jobStep deps) (Db.start store.rows store.seq fun _ => x.task.open x.jtis)
    ((List.range 6).map fun k => .step 0 (x.clock k))

theorem serveAlone_solo (deps : Deps) (store : TokenStore) (x : Dispatch) :
    (store.serveAlone deps x).Alone 0 ∧ (store.serveAlone deps x).solo 0 =
      Solo.exec (fun k => jobAct deps (x.clock k)) 0 6 ⟨x.task.open x.jtis, store.view, store.rows⟩ :=
  (Db.Alone.start store.fresh).solo_run (p := jobs deps) (fun now _ v => jobAct_visible deps now v) x.clock 6

/-- Code that runs alone, as a part of a job. -/
theorem exec_job {S : Type} (deps : Deps) (store : TokenStore) (clock : Nat → DateTime) (f : S → Job) (start : S)
    {handler : Nat → S → View Row → Action Row S} (hact : ∀ k s v, jobAct deps (clock k) (f s) v = (handler k s v).map f) :
    Solo.exec (fun k => jobAct deps (clock k)) 0 6 ⟨f start, store.view, store.rows⟩ =
      (Solo.exec handler 0 6 ⟨start, store.view, store.rows⟩).map f :=
  Solo.exec_map (x := ⟨start, store.view, store.rows⟩) hact

/-- What the task is answered, and the rows that it leaves, are those of the specification. -/
theorem task_meets_spec (deps : Deps) (store : TokenStore) (x : Dispatch) :
    ((store.serveAlone deps x).client 0).state.answer? = (store.spec deps x).1 ∧
      (store.serveAlone deps x).committed = (store.spec deps x).2 := by
  have hsolo := (serveAlone_solo deps store x).2
  have hstate : ((store.serveAlone deps x).client 0).state = ((store.serveAlone deps x).solo 0).state := rfl
  have hcommitted : (store.serveAlone deps x).committed = ((store.serveAlone deps x).solo 0).committed := rfl
  rw [hstate, hcommitted, hsolo]
  obtain ⟨task, jtis, clock⟩ := x
  cases task with
  | call c =>
    cases c with
    | login username password =>
      obtain ⟨hdone, hrows⟩ := login_comes deps store clock username password jtis
      have hjob := exec_job deps store clock (fun st => .call (.login username password jtis st)) .start
        fun _ _ _ => Action.map_map
      simp only [Task.open, Call.open, hjob, Solo.map, hdone, hrows]
      exact ⟨rfl, rfl⟩
    | refresh refreshToken =>
      obtain ⟨hdone, hrows⟩ := refresh_comes deps store clock refreshToken jtis
      have hjob := exec_job deps store clock (fun st => .call (.refresh refreshToken jtis st)) .start
        fun _ _ _ => Action.map_map
      simp only [Task.open, Call.open, hjob, Solo.map, hdone, hrows]
      exact ⟨rfl, rfl⟩
  | cleanup =>
    have hjob := exec_job deps store clock .cleanup .start fun _ _ _ => rfl
    simp only [Task.open, hjob]
    exact ⟨rfl, cleanup_comes store clock⟩
  | administer change =>
    have hjob := exec_job deps store clock (.administer change) .start fun _ _ _ => rfl
    simp only [Task.open, hjob]
    exact ⟨rfl, administer_comes store change⟩

/-! ### What a task does to the registry -/

/-- A pair is granted by a login or in exchange for a live token, a cleanup deletes what is revoked or expired, and all
    else leaves the registry as it is. -/
inductive Registers (deps : Deps) (store : TokenStore) (x : Dispatch) : Option Answer → Rows Row → Prop where
  | keep {answer : Option Answer} {rows : Rows Row} (htask : x.task ≠ .cleanup)
      (hanswer : ∀ pair, answer ≠ some (.tokens pair)) (hrows : ∀ id, rows .refreshToken id = store.rows .refreshToken id) :
      Registers deps store x answer rows
  | grant {username password name : String} {role : Json} (htask : x.task = .call (.login username password))
      (hfree : ∀ id r, store.rows .refreshToken id = some r →
        RefreshToken.token r ≠ (mintedRow deps name role x.jtis (x.clock 1)).token) :
      Registers deps store x (some (.tokens (mintedPair deps name role x.jtis (x.clock 1))))
        (withRow store.rows .refreshToken (store.seq .refreshToken) (some (mintedRow deps name role x.jtis (x.clock 1))))
  | exchange {token name : String} {role : Json} {claims : JwtClaims} {id : Nat} {record : RefreshToken}
      (htask : x.task = .call (.refresh token)) (hdecode : decodeToken deps.jwt (x.clock 0) token .refresh = .ok claims)
      (hrow : store.rows .refreshToken id = some record) (htoken : record.token = token) (hlive : record.revoked = false)
      (hunexpired : ¬record.expiresAt.utc < (x.clock 1).utc)
      (hfree : ∀ id r, store.rows .refreshToken id = some r →
        RefreshToken.token r ≠ (mintedRow deps name role x.jtis (x.clock 3)).token) :
      Registers deps store x (some (.tokens (mintedPair deps name role x.jtis (x.clock 3))))
        (withRow (withRow store.rows .refreshToken id (some { record with revoked := true })) .refreshToken
          (store.seq .refreshToken) (some (mintedRow deps name role x.jtis (x.clock 3))))
  | delete (htask : x.task = .cleanup) : Registers deps store x none (withoutDeletable store.rows (x.clock 0))

section Inversion
variable {deps : Deps} {store : TokenStore}

/-- No row has a token that a SELECT does not find. -/
theorem free_of_isEmpty {v : View Row} (hused : v.Used) {token : String} (h : (withToken v token).isEmpty = true) {id : Nat}
    {r : RefreshToken} (hr : v.rows .refreshToken id = some r) : r.token ≠ token := by
  intro htoken
  have hmem : (id, r) ∈ withToken v token :=
    List.mem_filter.mpr ⟨mem_select_of_row (hused .refreshToken id r hr) hr, by simpa using htoken⟩
  rw [List.isEmpty_iff.mp h] at hmem
  cases hmem

/-- A row that is written in the place of one with the same token hides no token. -/
theorem free_of_rewritten {id : Nat} {record : RefreshToken} (record' : RefreshToken) {token : String}
    (hrow : store.rows .refreshToken id = some record) (hsame : record'.token = record.token)
    (h : (withToken ⟨withRow store.rows .refreshToken id (some record'), store.seq⟩ token).isEmpty = true) {id' : Nat}
    {r : RefreshToken} (hr : store.rows .refreshToken id' = some r) : r.token ≠ token := by
  have hused : View.Used (⟨withRow store.rows .refreshToken id (some record'), store.seq⟩ : View Row) := by
    intro t id₀ r₀ hr₀
    by_cases ht : t = .refreshToken
    · subst ht
      rcases Rest.withRow_cases hr₀ with ⟨rfl, -⟩ | ⟨-, hold⟩
      · exact store.used .refreshToken _ record hrow
      · exact store.used .refreshToken id₀ r₀ hold
    · exact store.used t id₀ r₀ ((Rest.withRow_of_table_ne ht).symm.trans hr₀)
  by_cases hid : id' = id
  · subst hid
    rw [hrow] at hr
    cases hr
    rw [← hsame]
    exact free_of_isEmpty hused h Rest.withRow_self
  · exact free_of_isEmpty hused h ((Rest.withRow_of_id_ne hid).trans hr)

theorem spec_registers (x : Dispatch) : Registers deps store x (store.spec deps x).1 (store.spec deps x).2 := by
  obtain ⟨task, jtis, clock⟩ := x
  have hrefused : ∀ {a : Answer}, task ≠ .cleanup → (∀ pair, a ≠ .tokens pair) →
      Registers deps store ⟨task, jtis, clock⟩ (some a) store.rows := fun htask ha =>
    .keep htask (fun pair h => ha pair (Option.some.inj h)) fun _ => rfl
  cases task with
  | call c =>
    cases c with
    | login username password =>
      simp only [TokenStore.spec, TokenStore.loginSpec]
      split
      · exact hrefused (by simp) (by simp [unauthorized])
      · split
        · exact hrefused (by simp) (by simp [unauthorized])
        · unfold TokenStore.issueSpec
          split
          · rename_i hfree
            exact .grant rfl fun id r hr => free_of_isEmpty store.used hfree hr
          · exact hrefused (by simp) (by simp)
      · exact hrefused (by simp) (by simp)
    | refresh refreshToken =>
      simp only [TokenStore.spec, TokenStore.refreshSpec]
      split
      · exact hrefused (by simp) (by simp [unauthorized])
      · exact hrefused (by simp) (by simp)
      · rename_i claims hdecode
        split
        · exact hrefused (by simp) (by simp [unauthorized])
        · rename_i id record hfound
          have hmem : (id, record) ∈ withToken store.view refreshToken := by
            rw [hfound]
            exact List.mem_singleton_self _
          obtain ⟨hrow, htoken⟩ := mem_withToken hmem
          split
          · exact hrefused (by simp) (by simp [unauthorized])
          · rename_i hbad
            simp only [Bool.or_eq_true, decide_eq_true_eq, not_or, Bool.not_eq_true] at hbad
            split
            · rename_i name role hsub hrole
              unfold TokenStore.issueSpec
              split
              · rename_i hfree
                exact .exchange rfl hdecode hrow htoken hbad.1 hbad.2 fun id' r hr =>
                  free_of_rewritten { record with revoked := true } hrow rfl hfree hr
              · exact hrefused (by simp) (by simp)
            · exact hrefused (by simp) (by simp)
            · exact hrefused (by simp) (by simp)
        · exact hrefused (by simp) (by simp)
  | cleanup => exact .delete rfl
  | administer change =>
    refine .keep (by simp) (by simp [TokenStore.spec]) fun id => ?_
    simp only [TokenStore.spec, TokenStore.administerSpec]
    cases change <;> exact Rest.withRow_of_table_ne (by decide)

end Inversion

end IrisService.Auth
