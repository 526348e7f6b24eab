import IrisService.Auth.TokenSpec
import IrisService.Library.Tickets

/-! The registry of refresh tokens over histories of tasks that a store serves one after another: a register of
single-use tickets. -/

namespace IrisService.Auth
open ReadCommitted Orders Runs Tickets
open Rest (withRow)

/-! ### Stores one after another -/

section After
variable (deps : Deps) (store : TokenStore) (x : Dispatch)

/-- What the task is answered by the store. -/
def TokenStore.answer : Option Answer := ((store.serveAlone deps x).client 0).state.answer?

theorem registers_committed : Registers deps store x (store.answer deps x) (store.serveAlone deps x).committed := by
  obtain ⟨hanswer, hrows⟩ := task_meets_spec deps store x
  rw [TokenStore.answer, hanswer, hrows]
  exact spec_registers x

/-- A row has one of the tokens that were there, or a free one. -/
theorem unique_withToken {rows : Rows Row} {id : Nat} {record : RefreshToken}
    (hunique : ∀ id id' r r', rows .refreshToken id = some r → rows .refreshToken id' = some r' →
      RefreshToken.token r = RefreshToken.token r' → id = id')
    (hfree : ∀ id' r, id' ≠ id → rows .refreshToken id' = some r → RefreshToken.token r ≠ record.token) :
    ∀ id₀ id' r r', withRow rows .refreshToken id (some record) .refreshToken id₀ = some r →
      withRow rows .refreshToken id (some record) .refreshToken id' = some r' →
      RefreshToken.token r = RefreshToken.token r' → id₀ = id' :=
  fun _ _ _ _ hr hr' => Rest.unique_withRow hunique hfree hr hr'

variable {deps store x} in
theorem Registers.unique {answer : Option Answer} {rows : Rows Row} (h : Registers deps store x answer rows) :
    ∀ id id' r r', rows .refreshToken id = some r → rows .refreshToken id' = some r' →
      RefreshToken.token r = RefreshToken.token r' → id = id' := by
  cases h with
  | keep htask hanswer hrows =>
    intro id id' r r' hr hr'
    rw [hrows] at hr hr'
    exact store.unique id id' r r' hr hr'
  | grant htask hfree => exact unique_withToken store.unique fun id' r _ hr => hfree id' r hr
  | exchange htask hdecode hrow htoken hlive hunexpired hfree =>
    rename_i token name role claims id record
    refine unique_withToken (unique_withToken store.unique fun id' r hne hr heq => ?_) fun id' r _ hr => ?_
    · exact hne (store.unique id' id r record hr hrow heq)
    · rcases Rest.withRow_cases hr with ⟨rfl, hrow'⟩ | ⟨-, hr⟩
      · cases hrow'
        exact hfree _ record hrow
      · exact hfree id' r hr
  | delete htask =>
    intro id id' r r' hr hr'
    exact store.unique id id' r r' (Option.filter_eq_some_iff.mp hr).1 (Option.filter_eq_some_iff.mp hr').1

/-- The store after the task. -/
def TokenStore.after : TokenStore where
  rows := (store.serveAlone deps x).committed
  seq := (store.serveAlone deps x).seq
  fresh t id hid := ((serveAlone_solo deps store x).1.wf.fresh t id hid).1
  unique := (registers_committed deps store x).unique

theorem registers_after : Registers deps store x (store.answer deps x) (store.after deps x).rows :=
  registers_committed deps store x

/-- The store after the tasks, one after another. -/
def TokenStore.afterAll (history : List Dispatch) : TokenStore := history.foldl (fun store x => store.after deps x) store

end After

/-! ### Live tokens -/

/-- The tokens that are not revoked. -/
def liveTokens (rows : Rows Row) : Set String :=
  {token | ∃ id r, rows .refreshToken id = some r ∧ RefreshToken.token r = token ∧ RefreshToken.revoked r = false}

/-- The tokens that a cleanup deletes. -/
def deletableSet (rows : Rows Row) (now : DateTime) : Set String :=
  {token | ∃ id r, rows .refreshToken id = some r ∧ RefreshToken.token r = token ∧ deletable now r = true}

/-- What the task does to the register of live tokens. -/
def TokenStore.moves (deps : Deps) (store : TokenStore) (x : Dispatch) : List (Move String) :=
  match x.task, store.answer deps x with
  | .call (.login _ _), some (.tokens pair) => [.grant pair.refreshToken]
  | .call (.refresh token), some (.tokens pair) => [.exchange token pair.refreshToken]
  | .cleanup, _ => [.drop (deletableSet store.rows (x.clock 0))]
  | _, _ => []

section Live
variable {rows : Rows Row} {id : Nat} {record : RefreshToken}

theorem liveTokens_insert (hnew : rows .refreshToken id = none) (hlive : record.revoked = false) :
    liveTokens (withRow rows .refreshToken id (some record)) = insert record.token (liveTokens rows) := by
  ext token
  constructor
  · rintro ⟨id', r, hr, htoken, hr'⟩
    rcases Rest.withRow_cases hr with ⟨-, hrow⟩ | ⟨-, hr⟩
    · cases hrow
      exact Or.inl htoken.symm
    · exact Or.inr ⟨id', r, hr, htoken, hr'⟩
  · rintro (rfl | ⟨id', r, hr, htoken, hr'⟩)
    · exact ⟨id, record, Rest.withRow_self, rfl, hlive⟩
    · have hne : id' ≠ id := by
        rintro rfl
        rw [hnew] at hr
        cases hr
      exact ⟨id', r, (Rest.withRow_of_id_ne hne).trans hr, htoken, hr'⟩

theorem liveTokens_revoke (hunique : ∀ id id' r r', rows .refreshToken id = some r → rows .refreshToken id' = some r' →
      RefreshToken.token r = RefreshToken.token r' → id = id') (hrow : rows .refreshToken id = some record) :
    liveTokens (withRow rows .refreshToken id (some { record with revoked := true })) =
      liveTokens rows \ {record.token} := by
  ext token
  constructor
  · rintro ⟨id', r, hr, htoken, hlive⟩
    rcases Rest.withRow_cases hr with ⟨-, hrow'⟩ | ⟨hne, hr⟩
    · cases hrow'
      cases hlive
    · exact ⟨⟨id', r, hr, htoken, hlive⟩, fun heq => hne (hunique id' id r record hr hrow (htoken.trans heq))⟩
  · rintro ⟨⟨id', r, hr, htoken, hlive⟩, hne⟩
    have hid : id' ≠ id := by
      rintro rfl
      rw [hrow] at hr
      cases hr
      exact hne htoken.symm
    exact ⟨id', r, (Rest.withRow_of_id_ne hid).trans hr, htoken, hlive⟩

theorem liveTokens_delete (store : TokenStore) (now : DateTime) :
    liveTokens (withoutDeletable store.rows now) = liveTokens store.rows \ deletableSet store.rows now := by
  ext token
  constructor
  · rintro ⟨id, r, hr, htoken, hlive⟩
    obtain ⟨hrow, hkept⟩ := Option.filter_eq_some_iff.mp hr
    refine ⟨⟨id, r, hrow, htoken, hlive⟩, ?_⟩
    rintro ⟨id', r', hrow', htoken', hdeletable⟩
    obtain rfl := store.unique id id' r r' hrow hrow' (htoken.trans htoken'.symm)
    rw [hrow] at hrow'
    cases hrow'
    rw [hdeletable] at hkept
    cases hkept
  · rintro ⟨⟨id, r, hrow, htoken, hlive⟩, hkept⟩
    refine ⟨id, r, Option.filter_eq_some_iff.mpr ⟨hrow, ?_⟩, htoken, hlive⟩
    by_contra hdeletable
    exact hkept ⟨id, r, hrow, htoken, by simpa using hdeletable⟩

end Live

/-! ### One task -/

section Step
variable (deps : Deps) (store : TokenStore) (x : Dispatch)

/-- A task moves the register as it says, and as single-use tickets are moved. -/
theorem moves_after : Meets Move.apply Move.Allowed (liveTokens store.rows) (store.moves deps x) ∧
    liveTokens (store.after deps x).rows = run Move.apply (liveTokens store.rows) (store.moves deps x) := by
  have hregisters := registers_after deps store x
  unfold TokenStore.moves
  generalize store.answer deps x = answer at hregisters
  generalize (store.after deps x).rows = rows at hregisters
  cases hregisters with
  | keep htask hanswer hrows =>
    have hlive : liveTokens rows = liveTokens store.rows := by simp only [liveTokens, hrows]
    split
    · exact absurd rfl (hanswer _)
    · exact absurd rfl (hanswer _)
    · contradiction
    · exact ⟨trivial, hlive⟩
  | grant htask hfree =>
    rw [htask]
    refine ⟨⟨?_, trivial⟩, liveTokens_insert (store.fresh _ _ (Nat.le_refl _)) rfl⟩
    rintro ⟨id, r, hr, htoken, -⟩
    exact hfree id r hr htoken
  | exchange htask hdecode hrow htoken hlive hunexpired hfree =>
    rename_i token name role claims id record
    rw [htask]
    refine ⟨⟨⟨⟨id, record, hrow, htoken, hlive⟩, ?_⟩, trivial⟩, ?_⟩
    · rintro ⟨id', r, hr, htoken', -⟩
      exact hfree id' r hr htoken'
    · have hnone : withRow store.rows .refreshToken id (some { record with revoked := true }) .refreshToken
          (store.seq .refreshToken) = none := by
        have hid : id < store.seq .refreshToken := store.used .refreshToken id record hrow
        rw [Rest.withRow_of_id_ne hid.ne']
        exact store.fresh _ _ (Nat.le_refl _)
      rw [liveTokens_insert hnone rfl, liveTokens_revoke store.unique hrow, htoken]
      rfl
  | delete htask =>
    rw [htask]
    exact ⟨⟨trivial, trivial⟩, liveTokens_delete store (x.clock 0)⟩

end Step

/-! ### Histories -/

section History
variable (deps : Deps)

/-- The moves of the tasks, one after another. -/
def TokenStore.allMoves : TokenStore → List Dispatch → List (Move String)
  | _, [] => []
  | store, x :: history => store.moves deps x ++ (store.after deps x).allMoves history

theorem moves_afterAll (store : TokenStore) (history : List Dispatch) :
    Meets Move.apply Move.Allowed (liveTokens store.rows) (store.allMoves deps history) ∧
      liveTokens (store.afterAll deps history).rows =
        run Move.apply (liveTokens store.rows) (store.allMoves deps history) := by
  induction history generalizing store with
  | nil => exact ⟨trivial, rfl⟩
  | cons x history ih =>
    obtain ⟨hmeets, hlive⟩ := moves_after deps store x
    obtain ⟨hrest, hlive'⟩ := ih (store.after deps x)
    rw [hlive] at hrest hlive'
    exact ⟨meets_append.mpr ⟨hmeets, hrest⟩, hlive'.trans (run_append _ _ _).symm⟩

/-- The login is answered with a pair. -/
def TokenStore.logsIn (store : TokenStore) (x : Dispatch) : Bool :=
  match x.task, store.answer deps x with
  | .call (.login _ _), some (.tokens _) => true
  | _, _ => false

/-- How many logins of the history are answered with a pair. -/
def TokenStore.logins : TokenStore → List Dispatch → Nat
  | _, [] => 0
  | store, x :: history => (if store.logsIn deps x then 1 else 0) + (store.after deps x).logins history

theorem countP_moves (store : TokenStore) (x : Dispatch) :
    (store.moves deps x).countP Move.isGrant = if store.logsIn deps x then 1 else 0 := by
  unfold TokenStore.moves TokenStore.logsIn
  split <;> simp_all [Move.isGrant]

theorem countP_allMoves (store : TokenStore) (history : List Dispatch) :
    (store.allMoves deps history).countP Move.isGrant = store.logins deps history := by
  induction history generalizing store with
  | nil => rfl
  | cons x history ih => rw [TokenStore.allMoves, TokenStore.logins, List.countP_append, countP_moves, ih]

theorem isDrop_allMoves (store : TokenStore) {history : List Dispatch} (h : ∀ x ∈ history, x.task ≠ .cleanup) :
    ∀ m ∈ store.allMoves deps history, m.isDrop = false := by
  induction history generalizing store with
  | nil =>
    intro m hm
    cases hm
  | cons x history ih =>
    intro m hm
    rcases List.mem_append.mp hm with hm | hm
    · have htask := h x List.mem_cons_self
      unfold TokenStore.moves at hm
      split at hm
      · rw [List.mem_singleton.mp hm]
        rfl
      · rw [List.mem_singleton.mp hm]
        rfl
      · contradiction
      · cases hm
    · exact ih (store.after deps x) (fun x hx => h x (List.mem_cons_of_mem _ hx)) m hm

/-- No refresh multiplies sessions: there are never more live tokens than there were and logins have been answered with a
    pair, and exactly as many when no cleanup runs. -/
theorem sessions_counted (store : TokenStore) (history : List Dispatch) :
    (liveTokens (store.afterAll deps history).rows).encard ≤ (liveTokens store.rows).encard + store.logins deps history ∧
      ((∀ x ∈ history, x.task ≠ .cleanup) → (liveTokens (store.afterAll deps history).rows).encard =
        (liveTokens store.rows).encard + store.logins deps history) := by
  obtain ⟨hmeets, hlive⟩ := moves_afterAll deps store history
  obtain ⟨hle, heq⟩ := encard_run hmeets
  rw [hlive, ← countP_allMoves]
  exact ⟨hle, fun h => heq (isDrop_allMoves deps store h)⟩

end History

/-! ### A token from its issue on -/

/-- The `uuid4` values of the tasks are distinct from each other and from those of the stored tokens. -/
structure Drawn (deps : Deps) (store : TokenStore) (history : List Dispatch) : Prop where
  distinct : (history.map fun x => x.jtis.refresh).Nodup
  unused : ∀ x ∈ history, ∀ id r c, store.rows .refreshToken id = some r → RefreshToken.token r = deps.jwt.encode c →
    c.jti ≠ x.jtis.refresh

/-- The instants that a task reads in steps `k` to `k + n`. -/
def Dispatch.readings (x : Dispatch) (k n : Nat) : List Int := (List.range n).map fun j => (x.clock (k + j)).utc

/-- The instants that a task reads; the step that may mint a token reads two more. -/
def Dispatch.instants (x : Dispatch) : List Int :=
  match x.task with
  | .call (.login _ _) => x.readings 0 2 ++ [x.jtis.signed.utc, x.jtis.stored.utc] ++ x.readings 2 4
  | .call (.refresh _) => x.readings 0 4 ++ [x.jtis.signed.utc, x.jtis.stored.utc] ++ x.readings 4 2
  | _ => x.readings 0 6

/-- From the epoch on, the clock does not go back. -/
def Ordered (history : List Dispatch) : Prop :=
  (62135596800 * 1000000 :: history.flatMap Dispatch.instants).Pairwise (· ≤ ·)

instance (history : List Dispatch) : Decidable (Ordered history) :=
  inferInstanceAs (Decidable ((62135596800 * 1000000 :: history.flatMap Dispatch.instants).Pairwise (· ≤ ·)))

/-- When the refresh token of the task expires. -/
def Dispatch.exp (deps : Deps) (x : Dispatch) : DateTime :=
  x.jtis.signed.addSeconds (deps.settings.refreshTokenExpireDays * 24 * 60 * 60)

/-- When the row of that token expires. -/
def Dispatch.expiry (deps : Deps) (x : Dispatch) : DateTime :=
  x.jtis.stored.addSeconds (deps.settings.refreshTokenExpireDays * 24 * 60 * 60)

section Token
variable {deps : Deps} {store : TokenStore} {x : Dispatch} {token : String} {expiry : DateTime}

/-- Whoever has the token has it until then. -/
def ExpiresAt (rows : Rows Row) (token : String) (expiry : DateTime) : Prop :=
  ∀ id r, rows .refreshToken id = some r → RefreshToken.token r = token → RefreshToken.expiresAt r = expiry

/-- No stored token has the `uuid4` value. -/
def Undrawn (deps : Deps) (rows : Rows Row) (jti : String) : Prop :=
  ∀ id r c, rows .refreshToken id = some r → RefreshToken.token r = deps.jwt.encode c → c.jti ≠ jti

/-- The token was minted with the `uuid4` value. -/
def MintedWith (deps : Deps) (token jti : String) : Prop := ∃ c, token = deps.jwt.encode c ∧ c.jti = jti ∧ c.type = .refresh

theorem mintedWith (deps : Deps) (name : String) (role : Json) (jtis : Jtis) (now : DateTime) :
    MintedWith deps (mintedRow deps name role jtis now).token jtis.refresh := ⟨_, rfl, rfl, rfl⟩

theorem MintedWith.ne {token' jti jti' : String} (h : MintedWith deps token jti) (h' : MintedWith deps token' jti')
    (hne : jti ≠ jti') : token ≠ token' := by
  obtain ⟨c, rfl, rfl, -⟩ := h
  obtain ⟨c', rfl, rfl, -⟩ := h'
  exact fun heq => hne (congrArg IssuedClaims.jti (deps.jwt.encode_injective c c' heq))

/-- A row after a task is as it was but for `revoked`, or it is the one that the task has minted. -/
theorem Registers.row {answer : Option Answer} {rows : Rows Row} (h : Registers deps store x answer rows) {id : Nat}
    {r : RefreshToken} (hr : rows .refreshToken id = some r) :
    (∃ r', store.rows .refreshToken id = some r' ∧ r.token = r'.token ∧ r.expiresAt = r'.expiresAt) ∨
      MintedWith deps r.token x.jtis.refresh := by
  cases h with
  | keep htask hanswer hrows => exact Or.inl ⟨r, (hrows id).symm.trans hr, rfl, rfl⟩
  | grant htask hfree =>
    rcases Rest.withRow_cases hr with ⟨-, hrow⟩ | ⟨-, hr⟩
    · cases hrow
      exact Or.inr (mintedWith deps _ _ x.jtis _)
    · exact Or.inl ⟨r, hr, rfl, rfl⟩
  | exchange htask hdecode hrow htoken hlive hunexpired hfree =>
    rcases Rest.withRow_cases hr with ⟨-, hrow'⟩ | ⟨-, hr⟩
    · cases hrow'
      exact Or.inr (mintedWith deps _ _ x.jtis _)
    · rcases Rest.withRow_cases hr with ⟨rfl, hrow'⟩ | ⟨-, hr⟩
      · cases hrow'
        exact Or.inl ⟨_, hrow, rfl, rfl⟩
      · exact Or.inl ⟨r, hr, rfl, rfl⟩
  | delete htask => exact Or.inl ⟨r, (Option.filter_eq_some_iff.mp hr).1, rfl, rfl⟩

theorem ExpiresAt.after {jti : String} (h : ExpiresAt store.rows token expiry) (htoken : MintedWith deps token jti)
    (hne : x.jtis.refresh ≠ jti) : ExpiresAt (store.after deps x).rows token expiry := by
  intro id r hr heq
  rcases (registers_after deps store x).row hr with ⟨r', hr', htoken', hexpires⟩ | hminted
  · rw [hexpires]
    exact h id r' hr' (htoken'.symm.trans heq)
  · exact absurd heq (hminted.ne htoken hne)

theorem Undrawn.after {jti : String} (h : Undrawn deps store.rows jti) (hne : x.jtis.refresh ≠ jti) :
    Undrawn deps (store.after deps x).rows jti := by
  intro id r c hr heq
  rcases (registers_after deps store x).row hr with ⟨r', hr', htoken', -⟩ | ⟨c', hc', hjti, -⟩
  · exact h id r' c hr' (htoken'.symm.trans heq)
  · rw [hc'] at heq
    rw [← deps.jwt.encode_injective c' c heq, hjti]
    exact hne

/-- A row that is inserted with a free token is the only one with it. -/
theorem expiresAt_insert {rows : Rows Row} {id : Nat} {record : RefreshToken}
    (hfree : ∀ id r, rows .refreshToken id = some r → RefreshToken.token r ≠ record.token) :
    ExpiresAt (withRow rows .refreshToken id (some record)) record.token record.expiresAt := by
  intro id' r hr heq
  rcases Rest.withRow_cases hr with ⟨-, hrow⟩ | ⟨-, hr⟩
  · cases hrow
    rfl
  · exact absurd heq (hfree id' r hr)

/-- Only a call is answered with a pair. -/
theorem call_of_granted {pair : TokenResponse} (h : store.answer deps x = some (.tokens pair)) :
    ∃ c, x.task = .call c := by
  have hregisters := registers_after deps store x
  rw [h] at hregisters
  generalize (store.after deps x).rows = rows at hregisters
  cases hregisters with
  | keep htask hanswer hrows => exact absurd rfl (hanswer pair)
  | grant htask hfree => exact ⟨_, htask⟩
  | exchange htask hdecode hrow htoken hlive hunexpired hfree => exact ⟨_, htask⟩

/-- The token of a pair that a task is answered is live, and expires when the task says. -/
theorem granted {pair : TokenResponse} (h : store.answer deps x = some (.tokens pair)) :
    (∃ c, pair.refreshToken = deps.jwt.encode c ∧ c.jti = x.jtis.refresh ∧ c.type = .refresh ∧
      c.iat = x.jtis.signed.seconds ∧ c.exp = (x.exp deps).seconds) ∧
      pair.refreshToken ∈ liveTokens (store.after deps x).rows ∧
        ExpiresAt (store.after deps x).rows pair.refreshToken (x.expiry deps) := by
  have hregisters := registers_after deps store x
  rw [h] at hregisters
  generalize (store.after deps x).rows = rows at hregisters
  cases hregisters with
  | keep htask hanswer hrows => exact absurd rfl (hanswer pair)
  | grant htask hfree =>
    exact ⟨⟨_, rfl, rfl, rfl, rfl, rfl⟩, ⟨_, _, Rest.withRow_self, rfl, rfl⟩, expiresAt_insert hfree⟩
  | exchange htask hdecode hrow htoken hlive hunexpired hfree =>
    rename_i token name role claims id record
    refine ⟨⟨_, rfl, rfl, rfl, rfl, rfl⟩, ⟨_, _, Rest.withRow_self, rfl, rfl⟩, expiresAt_insert fun id' r hr => ?_⟩
    rcases Rest.withRow_cases hr with ⟨-, hrow'⟩ | ⟨-, hr⟩
    · cases hrow'
      exact hfree id record hrow
    · exact hfree id' r hr

/-- A refresh whose token is live and unexpired is answered with a pair. -/
theorem exchanged {claims : JwtClaims} (htask : x.task = .call (.refresh token)) (hlive : token ∈ liveTokens store.rows)
    (hminted : ∃ jti, MintedWith deps token jti) (hdecode : decodeToken deps.jwt (x.clock 0) token .refresh = .ok claims)
    (hexpires : ExpiresAt store.rows token expiry) (hunexpired : ¬expiry.utc < (x.clock 1).utc)
    (hundrawn : Undrawn deps store.rows x.jtis.refresh) : ∃ pair, store.answer deps x = some (.tokens pair) := by
  obtain ⟨id, record, hrow, htoken, hrevoked⟩ := hlive
  obtain ⟨jti, c, rfl, -, -⟩ := hminted
  obtain rfl := decodeToken_encode hdecode
  have hfound : withToken store.view (deps.jwt.encode c) = [(id, record)] :=
    Registered.withToken_eq ⟨store.unique, fun id r hr => store.used .refreshToken id r hr⟩ hrow htoken
  have hgood : ¬(record.revoked || decide (record.expiresAt.utc < (x.clock 1).utc)) = true := by
    rw [hexpires id record hrow htoken, hrevoked]
    simpa using hunexpired
  have hfree : (withToken ⟨withRow store.rows .refreshToken id (some { record with revoked := true }), store.seq⟩
      (mintedPair deps c.sub c.role x.jtis (x.clock 3)).refreshToken).isEmpty = true := by
    rw [withToken_eq_nil, List.isEmpty_nil]
    intro id' r hr heq
    rcases Rest.withRow_cases hr with ⟨-, hrow'⟩ | ⟨-, hr⟩
    · cases hrow'
      exact hundrawn id record _ hrow heq rfl
    · exact hundrawn id' r _ hr heq rfl
  have hspec : store.refreshSpec deps (deps.jwt.encode c) x.jtis x.clock =
      store.issueSpec deps (withRow store.rows .refreshToken id (some { record with revoked := true })) c.sub c.role x.jtis
        (x.clock 3) := by
    simp only [TokenStore.refreshSpec, hdecode, hfound, if_neg hgood]
    rfl
  refine ⟨mintedPair deps c.sub c.role x.jtis (x.clock 3), ?_⟩
  rw [TokenStore.answer, (task_meets_spec deps store x).1, TokenStore.spec, htask]
  simp only [hspec, TokenStore.issueSpec, if_pos hfree]

/-- The task presents the token and is answered with a pair. -/
def TokenStore.Exchanges (deps : Deps) (store : TokenStore) (x : Dispatch) (token : String) : Prop :=
  x.task = .call (.refresh token) ∧ ∃ pair, store.answer deps x = some (.tokens pair)

theorem live_after (hlive : token ∈ liveTokens store.rows) (hexpires : ExpiresAt store.rows token expiry)
    (hunexpired : ¬expiry.utc < (x.clock 0).utc) (hkept : ¬store.Exchanges deps x token) :
    token ∈ liveTokens (store.after deps x).rows := by
  rw [(moves_after deps store x).2]
  refine mem_run hlive fun m hm => ?_
  unfold TokenStore.moves at hm
  split at hm
  · rw [List.mem_singleton.mp hm]
    exact id
  · rename_i pair htask hanswer
    rw [List.mem_singleton.mp hm]
    rintro rfl
    exact hkept ⟨htask, pair, hanswer⟩
  · rw [List.mem_singleton.mp hm]
    rintro ⟨id, r, hr, htoken, hdeletable⟩
    obtain ⟨id', r', hr', htoken', hunrevoked⟩ := hlive
    obtain rfl := store.unique id id' r r' hr hr' (htoken.trans htoken'.symm)
    rw [hr] at hr'
    cases hr'
    rw [deletable, hunrevoked, hexpires id r hr htoken] at hdeletable
    exact hunexpired (by simpa using hdeletable)
  · cases hm

/-- A token that is not live is never live again. -/
theorem dead_after {jti : String} (hdead : token ∉ liveTokens store.rows) (hminted : MintedWith deps token jti)
    (hne : x.jtis.refresh ≠ jti) : token ∉ liveTokens (store.after deps x).rows := by
  have hfresh : ∀ pair, store.answer deps x = some (.tokens pair) → pair.refreshToken ≠ token := by
    intro pair hanswer
    obtain ⟨c, hc, hjti, htype, -⟩ := (granted hanswer).1
    exact MintedWith.ne ⟨c, hc, hjti, htype⟩ hminted hne
  rw [(moves_after deps store x).2]
  refine not_mem_run hdead fun m hm => ?_
  unfold TokenStore.moves at hm
  split at hm
  · rename_i hanswer
    rw [List.mem_singleton.mp hm]
    exact hfresh _ hanswer
  · rename_i hanswer
    rw [List.mem_singleton.mp hm]
    exact hfresh _ hanswer
  · rw [List.mem_singleton.mp hm]
    exact id
  · cases hm

theorem dead_of_exchanges {jti : String} (h : store.Exchanges deps x token) (hminted : MintedWith deps token jti)
    (hne : x.jtis.refresh ≠ jti) : token ∉ liveTokens (store.after deps x).rows := by
  obtain ⟨htask, pair, hanswer⟩ := h
  obtain ⟨c, hc, hjti, htype, -⟩ := (granted hanswer).1
  have hother : pair.refreshToken ≠ token := MintedWith.ne ⟨c, hc, hjti, htype⟩ hminted hne
  rw [(moves_after deps store x).2, TokenStore.moves, htask, hanswer]
  rintro (heq | ⟨-, hmem⟩)
  · exact hother heq.symm
  · exact hmem rfl

/-- A task that exchanges a token has found it live, decodes it and sees it unexpired. -/
theorem exchanges_cases (h : store.Exchanges deps x token) (hexpires : ExpiresAt store.rows token expiry) :
    token ∈ liveTokens store.rows ∧ (∃ claims, decodeToken deps.jwt (x.clock 0) token .refresh = .ok claims) ∧
      ¬expiry.utc < (x.clock 1).utc := by
  obtain ⟨htask, pair, hanswer⟩ := h
  have hregisters := registers_after deps store x
  rw [hanswer] at hregisters
  generalize (store.after deps x).rows = rows at hregisters
  cases hregisters with
  | keep htask' hnone hrows => exact absurd rfl (hnone pair)
  | grant htask' hfree =>
    rw [htask] at htask'
    cases htask'
  | exchange htask' hdecode hrow htoken hlive hunexpired hfree =>
    rw [htask] at htask'
    cases htask'
    rw [hexpires _ _ hrow htoken] at hunexpired
    exact ⟨⟨_, _, hrow, htoken, hlive⟩, ⟨_, hdecode⟩, hunexpired⟩

end Token

/-! ### A token over a history -/

section Rotation
variable {deps : Deps} {token jti : String} {expiry : DateTime}

/-- A task of the history exchanges the token. -/
def TokenStore.Spent (deps : Deps) (token : String) : TokenStore → List Dispatch → Prop
  | _, [] => False
  | store, x :: history => store.Exchanges deps x token ∨ (store.after deps x).Spent deps token history

theorem ExpiresAt.afterAll {store : TokenStore} {history : List Dispatch} (h : ExpiresAt store.rows token expiry)
    (hminted : MintedWith deps token jti) (hne : ∀ x ∈ history, x.jtis.refresh ≠ jti) :
    ExpiresAt (store.afterAll deps history).rows token expiry := by
  induction history generalizing store with
  | nil => exact h
  | cons x history ih =>
    exact ih (h.after hminted (hne x List.mem_cons_self)) fun x hx => hne x (List.mem_cons_of_mem _ hx)

theorem Undrawn.afterAll {store : TokenStore} {history : List Dispatch} (h : Undrawn deps store.rows jti)
    (hne : ∀ x ∈ history, x.jtis.refresh ≠ jti) : Undrawn deps (store.afterAll deps history).rows jti := by
  induction history generalizing store with
  | nil => exact h
  | cons x history ih =>
    exact ih (h.after (hne x List.mem_cons_self)) fun x hx => hne x (List.mem_cons_of_mem _ hx)

theorem dead_afterAll {store : TokenStore} {history : List Dispatch} (hdead : token ∉ liveTokens store.rows)
    (hminted : MintedWith deps token jti) (hne : ∀ x ∈ history, x.jtis.refresh ≠ jti) :
    token ∉ liveTokens (store.afterAll deps history).rows := by
  induction history generalizing store with
  | nil => exact hdead
  | cons x history ih =>
    exact ih (dead_after hdead hminted (hne x List.mem_cons_self)) fun x hx => hne x (List.mem_cons_of_mem _ hx)

/-- A live token stays live until it is exchanged, as long as no cleanup finds it expired; then it is dead for good. -/
theorem live_afterAll_iff {store : TokenStore} {history : List Dispatch} (hlive : token ∈ liveTokens store.rows)
    (hexpires : ExpiresAt store.rows token expiry) (hunexpired : ∀ x ∈ history, ¬expiry.utc < (x.clock 0).utc)
    (hminted : MintedWith deps token jti) (hne : ∀ x ∈ history, x.jtis.refresh ≠ jti) :
    token ∈ liveTokens (store.afterAll deps history).rows ↔ ¬store.Spent deps token history := by
  induction history generalizing store with
  | nil => exact ⟨fun _ => id, fun _ => hlive⟩
  | cons x history ih =>
    have hhead := hne x List.mem_cons_self
    have htail : ∀ x ∈ history, x.jtis.refresh ≠ jti := fun x hx => hne x (List.mem_cons_of_mem _ hx)
    by_cases hexchanges : store.Exchanges deps x token
    · have hdead := dead_afterAll (dead_of_exchanges hexchanges hminted hhead) hminted htail
      exact ⟨fun hmem => absurd hmem hdead, fun hkept => absurd (Or.inl hexchanges) hkept⟩
    · have hlive' := live_after hlive hexpires (hunexpired x List.mem_cons_self) hexchanges
      have hrest := ih hlive' (hexpires.after hminted hhead) (fun x hx => hunexpired x (List.mem_cons_of_mem _ hx)) htail
      exact hrest.trans (not_congr (or_iff_right hexchanges).symm)

/-- When an issued refresh token can be decoded. -/
theorem decodeToken_encode_iff {now : DateTime} {c : IssuedClaims} (htype : c.type = .refresh) :
    (∃ claims, decodeToken deps.jwt now (deps.jwt.encode c) .refresh = .ok claims) ↔
      c.iat * 1000000 ≤ now.timestamp ∧ now.timestamp < c.exp * 1000000 := by
  unfold decodeToken
  rw [deps.jwt.decode_encode]
  by_cases hiat : now.timestamp < c.iat * 1000000
  · rw [if_pos hiat]
    refine Iff.intro (fun hdecode => ?_) fun h => absurd hiat (Int.not_lt.mpr h.1)
    obtain ⟨claims, hdecode⟩ := hdecode
    cases hdecode
  · rw [if_neg hiat]
    by_cases hexp : c.exp * 1000000 ≤ now.timestamp
    · rw [if_pos hexp]
      refine Iff.intro (fun hdecode => ?_) fun h => absurd h.2 (Int.not_lt.mpr hexp)
      obtain ⟨claims, hdecode⟩ := hdecode
      cases hdecode
    · have htyped : c.dict "type" = some (.str TokenType.refresh.value) := by rw [← htype]; rfl
      rw [if_neg hexp]
      exact ⟨fun _ => ⟨Int.not_lt.mp hiat, Int.not_le.mp hexp⟩, fun _ => ⟨c.dict, if_pos htyped⟩⟩

theorem seconds_le_timestamp {d : DateTime} (h : 62135596800 * 1000000 ≤ d.utc) : d.seconds * 1000000 ≤ d.timestamp := by
  have hpos : 0 ≤ d.timestamp := by
    unfold DateTime.timestamp
    omega
  rw [DateTime.seconds, Int.tdiv_eq_ediv_of_nonneg hpos]
  omega

theorem mem_readings {x : Dispatch} {k n j : Nat} (hlow : k ≤ j) (hhigh : j < k + n) :
    (x.clock j).utc ∈ x.readings k n :=
  List.mem_map.mpr ⟨j - k, List.mem_range.mpr (by omega), by rw [Nat.add_sub_cancel' hlow]⟩

theorem mem_instants {x : Dispatch} {k : Nat} (hk : k < 2) : (x.clock k).utc ∈ x.instants := by
  unfold Dispatch.instants
  split
  · exact List.mem_append_left _ (List.mem_append_left _ (mem_readings (Nat.zero_le k) (by omega)))
  · exact List.mem_append_left _ (List.mem_append_left _ (mem_readings (Nat.zero_le k) (by omega)))
  · exact mem_readings (Nat.zero_le k) (by omega)

theorem signed_mem {x : Dispatch} {c : Call} (htask : x.task = .call c) : x.jtis.signed.utc ∈ x.instants := by
  rw [Dispatch.instants, htask]
  cases c <;> simp

/-- In a history whose clock does not go back, the instants of the last task are not before the others. -/
theorem Ordered.le_last {history : List Dispatch} {x last : Dispatch} (h : Ordered (history ++ [last])) (hx : x ∈ history)
    {u u' : Int} (hu : u ∈ x.instants) (hu' : u' ∈ last.instants) : 62135596800 * 1000000 ≤ u ∧ u ≤ u' := by
  obtain ⟨hepoch, hpairwise⟩ := List.pairwise_cons.mp h
  rw [List.flatMap_append, List.pairwise_append] at hpairwise
  have hmem : u ∈ history.flatMap Dispatch.instants := List.mem_flatMap.mpr ⟨x, hx, hu⟩
  refine ⟨hepoch u ?_, hpairwise.2.2 u hmem u' ?_⟩
  · rw [List.flatMap_append]
    exact List.mem_append_left _ hmem
  · rwa [List.flatMap_singleton]

/-- The refresh token of a pair works once: presented after any other tasks, it is answered with a pair exactly if none of
    them has exchanged it, its `exp` has not passed when it is decoded, and its row has not expired when it is read. -/
theorem refresh_token_works_once {store : TokenStore} {granting again : Dispatch} {between : List Dispatch}
    {pair : TokenResponse} (hdrawn : Drawn deps store (granting :: between ++ [again]))
    (hordered : Ordered (granting :: between ++ [again])) (hgranted : store.answer deps granting = some (.tokens pair))
    (htask : again.task = .call (.refresh pair.refreshToken)) :
    (∃ pair', ((store.after deps granting).afterAll deps between).answer deps again = some (.tokens pair')) ↔
      ¬(store.after deps granting).Spent deps pair.refreshToken between ∧
        (again.clock 0).timestamp < (granting.exp deps).seconds * 1000000 ∧
          (again.clock 1).utc ≤ (granting.expiry deps).utc := by
  obtain ⟨⟨c, hc, hjti, htype, hiat, hexp⟩, hlive, hexpires⟩ := granted hgranted
  obtain ⟨call, hcall⟩ := call_of_granted hgranted
  have hminted : MintedWith deps pair.refreshToken granting.jtis.refresh := ⟨c, hc, hjti, htype⟩
  have hdistinct := hdrawn.distinct
  rw [List.map_append, List.nodup_append] at hdistinct
  obtain ⟨hfirst, -, hlast⟩ := hdistinct
  have hbetween : ∀ x ∈ between, x.jtis.refresh ≠ granting.jtis.refresh := fun x hx heq =>
    (List.nodup_cons.mp hfirst).1 (List.mem_map.mpr ⟨x, hx, heq⟩)
  have hagain : ∀ x ∈ granting :: between, x.jtis.refresh ≠ again.jtis.refresh := fun x hx =>
    hlast _ (List.mem_map_of_mem hx) _ (List.mem_map_of_mem (List.mem_singleton_self again))
  have hundrawn : Undrawn deps ((store.after deps granting).afterAll deps between).rows again.jtis.refresh := by
    refine Undrawn.afterAll (Undrawn.after ?_ (hagain granting List.mem_cons_self)) fun x hx =>
      hagain x (List.mem_cons_of_mem _ hx)
    exact fun id r c => hdrawn.unused again (List.mem_append_right _ (List.mem_singleton_self again)) id r c
  have hexpires' := hexpires.afterAll hminted hbetween
  have hunexpired : ∀ {u}, u ∈ again.instants → u ≤ (granting.expiry deps).utc →
      ∀ x ∈ between, ¬(granting.expiry deps).utc < (x.clock 0).utc := by
    intro u hu hle x hx
    have hordered' := hordered.le_last (List.mem_cons_of_mem _ hx) (mem_instants (by omega : 0 < 2)) hu
    omega
  have hdecodes : (∃ claims, decodeToken deps.jwt (again.clock 0) pair.refreshToken .refresh = .ok claims) ↔
      (again.clock 0).timestamp < (granting.exp deps).seconds * 1000000 := by
    rw [hc, decodeToken_encode_iff htype, hiat, hexp]
    refine and_iff_right ?_
    have hminted' := hordered.le_last List.mem_cons_self (signed_mem hcall) (mem_instants (by omega : 0 < 2))
    have hseconds := seconds_le_timestamp hminted'.1
    unfold DateTime.timestamp at hseconds ⊢
    omega
  constructor
  · intro hanswer
    obtain ⟨hmem, hdecode, hread⟩ := exchanges_cases ⟨htask, hanswer⟩ hexpires'
    have hlate := hunexpired (mem_instants (by omega : 1 < 2)) (Int.not_lt.mp hread)
    exact ⟨(live_afterAll_iff hlive hexpires hlate hminted hbetween).mp hmem, hdecodes.mp hdecode, Int.not_lt.mp hread⟩
  · rintro ⟨hkept, hbefore, hread⟩
    obtain ⟨claims, hdecode⟩ := hdecodes.mpr hbefore
    have hlate := hunexpired (mem_instants (by omega : 1 < 2)) hread
    exact exchanged htask ((live_afterAll_iff hlive hexpires hlate hminted hbetween).mpr hkept) ⟨_, hminted⟩ hdecode
      hexpires' (Int.not_lt.mpr hread) hundrawn

end Rotation

/-- One user logs in, and presents the token twice. -/
def adaLogin : Dispatch := ⟨.call (.login "ada" "secret"), ⟨"", "a", dawn, dawn⟩, fun _ => dawn⟩

def adaPair : TokenResponse := mintedPair readableDeps "ada" (.str "ROLE_USER") ⟨"", "a", dawn, dawn⟩ dawn

/-- A refresh with the first token of the pair. -/
def adaRefresh (jti : String) : Dispatch := ⟨.call (.refresh adaPair.refreshToken), ⟨"", jti, dawn, dawn⟩, fun _ => dawn⟩

theorem ada_refreshes_once :
    (∃ pair, ((adaOnly.toTokenStore.after readableDeps adaLogin).afterAll readableDeps []).answer readableDeps
      (adaRefresh "b") = some (.tokens pair)) ∧
      ¬∃ pair,
        ((adaOnly.toTokenStore.after readableDeps adaLogin).afterAll readableDeps [adaRefresh "b"]).answer readableDeps
        (adaRefresh "c") = some (.tokens pair) := by
  have hdrawn : ∀ history : List Dispatch, (history.map fun x => x.jtis.refresh).Nodup →
      Drawn readableDeps adaOnly.toTokenStore history := fun history hdistinct =>
    ⟨hdistinct, fun x hx id r c hr => by cases hr⟩
  have honce : Drawn readableDeps adaOnly.toTokenStore (adaLogin :: [] ++ [adaRefresh "b"]) := hdrawn _ (by decide)
  have htwice : Drawn readableDeps adaOnly.toTokenStore (adaLogin :: [adaRefresh "b"] ++ [adaRefresh "c"]) :=
    hdrawn _ (by decide)
  have hgranted : adaOnly.toTokenStore.answer readableDeps adaLogin = some (.tokens adaPair) := by
    rw [TokenStore.answer, (task_meets_spec readableDeps adaOnly.toTokenStore adaLogin).1]
    rfl
  have hlate : (dawn.timestamp < (adaLogin.exp readableDeps).seconds * 1000000) ∧
      dawn.utc ≤ (adaLogin.expiry readableDeps).utc := by decide
  have hfirst := (refresh_token_works_once honce (by decide) hgranted rfl).mpr ⟨id, hlate.1, hlate.2⟩
  have hsecond := refresh_token_works_once htwice (by decide) hgranted rfl
  exact ⟨hfirst, fun hanswer => (hsecond.mp hanswer).1 (Or.inl ⟨rfl, hfirst⟩)⟩

end IrisService.Auth
