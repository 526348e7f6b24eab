import IrisService.Auth.JobTokens
import IrisService.Auth.RefreshRuns

/-! Accounts that change between the links of a chain of refreshes.

A refresh copies the name and the role out of the token that it is given, and never reads `app_user`. -/

namespace IrisService.Auth
open ReadCommitted Db Runs Orders

/-- The store, and for each issued refresh token the account that the login at the head of its chain has read;
    no code reads the second. -/
structure World where
  db : Db Row Job
  account : String → Option AppUser

namespace World

/-- The account behind the pair that the job issues. -/
def behind (w : World) : Job → Option AppUser
  | .call (.login _ _ _ (.checked user)) => some user
  | .call (.refresh token _ _) => w.account token
  | _ => none

/-- The refresh token that an action registers. -/
def registers {S : Type} (seq : Table → Nat) : Action Row S → Option String
  | .insert .refreshToken row _ => some (RefreshToken.token (row (seq .refreshToken)))
  | _ => none

/-- One event; a registered token is noted with the account that it was issued to. -/
def step (deps : Deps) (w : World) : Event DateTime → World
  | .step i now =>
    let job := (w.db.client i).state
    { db := jobStep deps w.db (.step i now)
      account :=
        match registers w.db.seq (jobAct deps now job (w.db.view i)) with
        | some token => Function.update w.account token (w.behind job)
        | none => w.account }
  | .fail i => { w with db := jobStep deps w.db (.fail i) }

@[simp] theorem registers_map {S S' : Type} (seq : Table → Nat) (f : S → S') (a : Action Row S) :
    registers seq (a.map f) = registers seq a := by
  cases a with
  | insert t row s => cases t <;> rfl
  | _ => rfl

end World

/-- A store at rest whose refresh tokens were issued to accounts that were enabled then. -/
structure IssuedStore (deps : Deps) extends TokenStore where
  account : String → Option AppUser
  issued : ∀ token user, account token = some user → user.enabled = true ∧
    ∃ c, token = deps.jwt.encode c ∧ c.sub = user.username ∧ c.role = .str user.role
  known : ∀ id r, rows .refreshToken id = some r → account (RefreshToken.token r) ≠ none

/-- The store when the tasks have just been received. -/
def IssuedStore.serve {deps : Deps} (store : IssuedStore deps) (draws : Draws deps store.toTokenStore)
    (tasks : Nat → Task) : World := ⟨store.toTokenStore.serve draws tasks, store.account⟩

/-! ### The law -/

/-- Both tokens of the pair name the user and carry the role. -/
def Carries (deps : Deps) (pair : TokenResponse) (username : String) (role : Json) : Prop :=
  (∃ c, pair.accessToken = deps.jwt.encode c ∧ c.sub = username ∧ c.role = role) ∧
    ∃ c, pair.refreshToken = deps.jwt.encode c ∧ c.sub = username ∧ c.role = role

/-- A refresh that issues a pair does so for an account that is stored and enabled, with the role stored for it. -/
def GrantsAsLogin (deps : Deps) (w : World) : Event DateTime → Prop
  | .step i now => ∀ token jtis claims t row pair, (w.db.client i).state = .call (.refresh token jtis (.revoked claims)) →
      jobAct deps now (w.db.client i).state (w.db.view i) =
          .insert t row (fun _ => .call (.refresh token jtis (.flushed pair))) →
        ∃ id user, w.db.committed .appUser id = some user ∧ claims "sub" = some (.str (AppUser.username user)) ∧
          AppUser.enabled user = true ∧ Carries deps pair user.username (.str user.role)
  | .fail _ => True

/-- The account is stored under its name, with the role and the `enabled` flag that were read. -/
def StillStored (rows : Rows Row) (account : AppUser) : Prop :=
  ∃ id user, rows .appUser id = some user ∧ AppUser.username user = account.username ∧
    AppUser.role user = account.role ∧ AppUser.enabled user = account.enabled

/-- Where a refresh is about to issue a pair, the account is stored as the login at the head of the chain read it. -/
def AccountKept (w : World) : Event DateTime → Prop
  | .step i _ => ∀ token jtis claims account, (w.db.client i).state = .call (.refresh token jtis (.revoked claims)) →
      w.account token = some account → StillStored w.db.committed account
  | .fail _ => True

/-! ### What a pair carries -/

/-- The pair that `_issue_token_pair` mints. -/
def mintedPair (deps : Deps) (username : String) (role : Json) (jtis : Jtis) (now : DateTime) : TokenResponse where
  accessToken := (issueAccessToken deps.jwt deps.settings username role now jtis.access).1
  refreshToken := (issueRefreshToken deps.jwt deps.settings username role jtis.signed jtis.refresh).1
  expiresIn := (issueAccessToken deps.jwt deps.settings username role now jtis.access).2

section Pairs
open World
variable {deps : Deps} {now : DateTime} {v : View Row} {username : String} {role : Json} {jtis : Jtis}

theorem mintedPair_carries (deps : Deps) (username : String) (role : Json) (jtis : Jtis) (now : DateTime) :
    Carries deps (mintedPair deps username role jtis now) username role :=
  ⟨⟨_, rfl, rfl, rfl⟩, ⟨_, rfl, rfl, rfl⟩⟩

theorem issueTokenPair_registers {S : Type} {flushed : TokenResponse → S} {failed : Answer → S} {seq : Table → Nat}
    {token : String} (h : registers seq (issueTokenPair deps username role jtis now v flushed failed) = some token) :
    token = (mintedPair deps username role jtis now).refreshToken := by
  unfold issueTokenPair at h
  simp only at h
  split at h
  · exact (Option.some.inj h).symm
  · cases h

/-- A pair is registered by a login that has read the account, or by a refresh that has revoked its token. -/
theorem registers_cases {seq : Table → Nat} {job : Job} {token : String}
    (h : registers seq (jobAct deps now job v) = some token) :
    (∃ name password jtis user, job = .call (.login name password jtis (.checked user)) ∧
        token = (mintedPair deps user.username (.str user.role) jtis now).refreshToken) ∨
      ∃ old jtis claims username role, job = .call (.refresh old jtis (.revoked claims)) ∧
        claims "sub" = some (.str username) ∧ claims "role" = some role ∧
          token = (mintedPair deps username role jtis now).refreshToken := by
  cases job with
  | call session =>
    cases session with
    | login name password jtis st =>
      simp only [jobAct, act, registers_map] at h
      cases st with
      | checked user => exact Or.inl ⟨name, password, jtis, user, rfl, issueTokenPair_registers h⟩
      | _ =>
        simp only [login] at h
        (repeat' split at h) <;> cases h
    | refresh old jtis st =>
      simp only [jobAct, act, registers_map] at h
      cases st with
      | revoked claims =>
        simp only [refresh] at h
        split at h
        · rename_i username role hsub hrole
          exact Or.inr ⟨old, jtis, claims, username, role, rfl, hsub, hrole, issueTokenPair_registers h⟩
        · cases h
        · cases h
      | _ =>
        simp only [refresh, update] at h
        (repeat' split at h) <;> cases h
  | cleanup st =>
    simp only [jobAct, registers_map] at h
    cases st <;> cases h
  | administer change st =>
    simp only [jobAct, registers_map] at h
    cases st <;> cases change <;> simp only [administer, update] at h <;> (repeat' split at h) <;> cases h

end Pairs

/-! ### What a call has learnt -/

/-- A login has checked that the account is enabled; a refresh knows the claims of its token, and once it has found
    the row, that the token was issued to an account. -/
def Informed (deps : Deps) (account : String → Option AppUser) : Job → Prop
  | .call (.login _ _ _ (.checked user)) => user.enabled = true
  | .call (.refresh token _ (.decoded claims)) => Decoded deps token claims
  | .call (.refresh token _ (.checked claims _ _)) | .call (.refresh token _ (.revoked claims)) =>
    Decoded deps token claims ∧ account token ≠ none
  | _ => True

section Informed
variable {deps : Deps} {account account' : String → Option AppUser} {job : Job}

theorem Informed.mono (h : Informed deps account job) (hgrow : ∀ token, account token ≠ none → account' token ≠ none) :
    Informed deps account' job := by
  unfold Informed at h ⊢
  split
  · exact h
  · exact h
  · exact ⟨h.1, hgrow _ h.2⟩
  · exact ⟨h.1, hgrow _ h.2⟩
  · trivial

theorem login_enabled (deps : Deps) (username password : String) (jtis : Jtis) (now : DateTime) (st : Login)
    (v : View Row) :
    (login deps username password jtis now st v).All fun st' => ∀ user, st' = .checked user → user.enabled = true := by
  cases st with
  | start =>
    simp only [login]
    split
    · exact fun _ h => by cases h
    · split
      · exact fun _ h => by cases h
      · rename_i hok
        intro user h
        cases h
        simp only [Bool.or_eq_true, not_or, Bool.not_eq_true, Bool.not_eq_false'] at hok
        exact hok.1
    · exact fun _ h => by cases h
  | checked user =>
    simp only [login, issueTokenPair]
    split
    · exact fun _ _ h => by cases h
    · exact fun _ h => by cases h
  | _ => exact fun _ h => by cases h

theorem jobAct_informed {now : DateTime} {v : View Row} (h : Informed deps account job)
    (hknown : ∀ id r, v.rows .refreshToken id = some r → account (RefreshToken.token r) ≠ none) :
    (jobAct deps now job v).All (Informed deps account) := by
  cases job with
  | call session =>
    cases session with
    | login username password jtis st =>
      have henabled := login_enabled deps username password jtis now st v
      simp only [jobAct, act]
      refine Action.all_map.mpr (Action.all_map.mpr ?_)
      generalize login deps username password jtis now st v = a at henabled
      have hst : ∀ st' : Login, (∀ user, st' = .checked user → user.enabled = true) →
          Informed deps account (.call (.login username password jtis st')) := by
        intro st' hst'
        cases st' with
        | checked user => exact hst' user rfl
        | _ => trivial
      exact henabled.imp hst
    | refresh token jtis st =>
      have ht : Turns deps now v (.refresh token jtis st) (act deps now (.refresh token jtis st) v) := act_turns _
      simp only [jobAct]
      refine Action.all_map.mpr ?_
      generalize act deps now (.refresh token jtis st) v = a at ht
      cases ht with
      | decode hdecode => exact ⟨now, hdecode⟩
      | select hrow htoken => exact ⟨h, htoken ▸ hknown _ _ hrow⟩
      | revoke hrow => exact h
      | issue hminted => exact fun _ => trivial
      | _ => trivial
  | _ => exact Action.all_map.mpr (Action.all_of_forall fun _ => trivial)

theorem refused_informed (job : Job) : Informed deps account job.refused := by
  cases job with
  | call session =>
    cases session with
    | login username password jtis st => cases st <;> trivial
    | refresh token jtis st => cases st <;> trivial
  | cleanup st => cases st <;> trivial
  | administer change st => cases st <;> trivial

end Informed

/-! ### The invariant -/

/-- What holds in every run. -/
structure AccountInv (deps : Deps) (jtis : Nat → Jtis) (w : World) : Prop where
  tokens : Tokens deps jtis w.db
  issued : ∀ token user, w.account token = some user → user.enabled = true ∧
    ∃ c, token = deps.jwt.encode c ∧ c.sub = user.username ∧ c.role = .str user.role
  known : ∀ id r, w.db.Version .refreshToken id r → w.account (RefreshToken.token r) ≠ none
  informed : ∀ i, Informed deps w.account (w.db.client i).state

namespace AccountInv
variable {deps : Deps} {jtis : Nat → Jtis} {w : World} {i : Nat} {now : DateTime}

/-- The claims of a refresh about to issue a pair are those of an account. -/
theorem claims_eq (h : AccountInv deps jtis w) {token : String} {js : Jtis} {claims : JwtClaims}
    (hs : (w.db.client i).state = .call (.refresh token js (.revoked claims))) :
    ∃ user, w.account token = some user ∧ user.enabled = true ∧ claims "sub" = some (.str user.username) ∧
      claims "role" = some (.str user.role) := by
  have hinformed := h.informed i
  rw [hs] at hinformed
  obtain ⟨⟨now, hdecode⟩, haccount⟩ := hinformed
  obtain ⟨user, huser⟩ := Option.ne_none_iff_exists'.mp haccount
  obtain ⟨henabled, c, rfl, hsub, hrole⟩ := h.issued token user huser
  refine ⟨user, huser, henabled, ?_, ?_⟩
  · rw [decodeToken_encode hdecode, ← hsub]
    rfl
  · rw [decodeToken_encode hdecode, ← hrole]
    rfl

/-- The token that a step registers carries the account behind it. -/
theorem registers_issued (h : AccountInv deps jtis w) {token : String}
    (hreg : World.registers w.db.seq (jobAct deps now (w.db.client i).state (w.db.view i)) = some token) :
    ∃ user, w.behind (w.db.client i).state = some user ∧ user.enabled = true ∧
      ∃ c, token = deps.jwt.encode c ∧ c.sub = user.username ∧ c.role = .str user.role := by
  rcases registers_cases hreg with ⟨name, password, js, user, hs, rfl⟩
    | ⟨old, js, claims, username, role, hs, hsub, hrole, rfl⟩
  · have hinformed := h.informed i
    rw [hs] at hinformed ⊢
    exact ⟨user, rfl, hinformed, _, rfl, rfl, rfl⟩
  · obtain ⟨user, huser, henabled, hsub', hrole'⟩ := h.claims_eq hs
    rw [hsub] at hsub'
    rw [hrole] at hrole'
    cases hsub'
    cases hrole'
    rw [hs]
    exact ⟨user, huser, henabled, _, rfl, rfl, rfl⟩

/-- A step adds to what is known of the tokens, or leaves it. -/
theorem account_step (h : AccountInv deps jtis w) (i : Nat) (now : DateTime) (token : String) :
    (w.step deps (.step i now)).account token = w.account token ∨
      World.registers w.db.seq (jobAct deps now (w.db.client i).state (w.db.view i)) = some token ∧
        ∃ user, (w.step deps (.step i now)).account token = some user ∧ user.enabled = true ∧
          ∃ c, token = deps.jwt.encode c ∧ c.sub = user.username ∧ c.role = .str user.role := by
  cases hreg : World.registers w.db.seq (jobAct deps now (w.db.client i).state (w.db.view i)) with
  | none => exact Or.inl (by simp only [World.step, hreg])
  | some new =>
    by_cases heq : token = new
    · subst heq
      obtain ⟨user, huser, henabled, hc⟩ := h.registers_issued hreg
      exact Or.inr ⟨rfl, user, by simp only [World.step, hreg, Function.update_self, huser], henabled, hc⟩
    · exact Or.inl (by simp only [World.step, hreg, Function.update_of_ne heq])

theorem account_grows (h : AccountInv deps jtis w) (token : String) (hknown : w.account token ≠ none) :
    (w.step deps (.step i now)).account token ≠ none := by
  rcases h.account_step i now token with hsame | ⟨-, user, huser, -⟩
  · rwa [hsame]
  · simp [huser]

theorem known_step (h : AccountInv deps jtis w) {id : Nat} {r : RefreshToken}
    (hr : (w.step deps (.step i now)).db.Version .refreshToken id r) :
    (w.step deps (.step i now)).account r.token ≠ none := by
  have ha := jobAct_tokenStep deps now (w.db.client i).state (w.db.view i)
  rcases h.tokens.version_perform ha hr with ⟨r', hr', ht⟩ | ⟨rfl, -, -, -, row, s, heq, rfl⟩
  · rw [← ht]
    exact h.account_grows _ (h.known id r' hr')
  · have hreg : World.registers w.db.seq (jobAct deps now (w.db.client i).state (w.db.view i)) =
        some (RefreshToken.token (row (w.db.seq .refreshToken))) := by
      rw [heq]
      rfl
    obtain ⟨user, huser, -⟩ := h.registers_issued hreg
    simp [World.step, hreg, huser]

theorem step (h : AccountInv deps jtis w) (hdistinct : ∀ i j, (jtis i).refresh = (jtis j).refresh → i = j)
    (e : Event DateTime) : AccountInv deps jtis (w.step deps e) := by
  cases e with
  | step i now =>
    refine ⟨h.tokens.step hdistinct (.step i now), fun token user huser => ?_, fun id r hr => h.known_step hr, fun j => ?_⟩
    · rcases h.account_step i now token with hsame | ⟨-, user', huser', hissued⟩
      · rw [hsame] at huser
        exact h.issued token user huser
      · rw [huser'] at huser
        cases huser
        exact hissued
    · suffices hbefore : Informed deps w.account ((w.step deps (.step i now)).db.client j).state from
        hbefore.mono fun token => h.account_grows token
      by_cases hne : j = i
      · subst hne
        have hview : ∀ id r, (w.db.view j).rows .refreshToken id = some r → w.account (RefreshToken.token r) ≠ none :=
          fun id r hr => h.known id r (version_of_view hr)
        exact perform_state (P := Informed deps w.account) (h.informed j) (jobAct_informed (h.informed j) hview)
      · show Informed deps w.account ((jobStep deps w.db (.step i now)).client j).state
        rw [jobStep, step_client_of_ne (p := jobs deps) (e := .step i now) hne]
        exact h.informed j
  | fail i =>
    refine ⟨h.tokens.step hdistinct (.fail i), h.issued, fun id r hr => ?_, fun j => ?_⟩
    · rcases h.tokens.version_perform (refused_tokenStep deps _ _) hr with ⟨r', hr', ht⟩ | ⟨-, -, -, -, row, s, heq, -⟩
      · rw [← ht]
        exact h.known id r' hr'
      · cases heq
    · show Informed deps w.account ((jobStep deps w.db (.fail i)).client j).state
      by_cases hne : j = i
      · subst hne
        exact perform_state (a := .rollback _) (P := Informed deps w.account) (h.informed j) (refused_informed _)
      · rw [jobStep, step_client_of_ne (p := jobs deps) (e := .fail i) hne]
        exact h.informed j

/-- A refresh that has revoked its token issues the pair of the account. -/
theorem issues_pair (h : AccountInv deps jtis w) {token : String} {js : Jtis} {claims : JwtClaims} {user : AppUser}
    (hs : (w.db.client i).state = .call (.refresh token js (.revoked claims)))
    (hsub : claims "sub" = some (.str user.username)) (hrole : claims "role" = some (.str user.role)) (now : DateTime) :
    ∃ row : Nat → Row .refreshToken, jobAct deps now (w.db.client i).state (w.db.view i) = .insert .refreshToken row
      (fun _ => .call (.refresh token js (.flushed (mintedPair deps user.username (.str user.role) js now)))) := by
  have hfree : withToken (w.db.view i) (mintedPair deps user.username (.str user.role) js now).refreshToken = [] := by
    rw [List.eq_nil_iff_forall_not_mem]
    rintro ⟨id, r⟩ hmem
    obtain ⟨hr, ht⟩ := mem_withToken hmem
    -- No version of a row has the `uuid4` of a token that is still to be minted.
    have hunissued := h.tokens.unissued i (by rw [hs]; rfl) id r _ (version_of_view hr) ht
    exact hunissued (congrArg Jtis.refresh (h.tokens.drawn i js (by rw [hs]; rfl)))
  refine ⟨fun _ => newToken (mintedPair deps user.username (.str user.role) js now).refreshToken user.username
    (js.stored.addSeconds (issueRefreshToken deps.jwt deps.settings user.username (.str user.role) js.signed js.refresh).2)
    now, ?_⟩
  rw [hs]
  simp only [jobAct, act, refresh, hsub, hrole]
  have hissue : issueTokenPair deps user.username (.str user.role) js now (w.db.view i) Refresh.flushed Refresh.done =
      .insert .refreshToken _ fun _ => .flushed (mintedPair deps user.username (.str user.role) js now) :=
    if_pos (by rw [← List.isEmpty_iff] at hfree; exact hfree)
  rw [hissue]
  rfl

/-- A refresh about to issue a pair grants what a login would exactly when the account is stored as it was read. -/
theorem grantsAsLogin_iff (h : AccountInv deps jtis w) (e : Event DateTime) :
    GrantsAsLogin deps w e ↔ AccountKept w e := by
  cases e with
  | fail i => exact Iff.rfl
  | step i now =>
    constructor
    · intro hgrants token js claims account hs haccount
      obtain ⟨user, huser, henabled, hsub, hrole⟩ := h.claims_eq hs
      obtain rfl : user = account := Option.some.inj (huser.symm.trans haccount)
      obtain ⟨row, hact⟩ := h.issues_pair hs hsub hrole now
      obtain ⟨id, stored, hstored, hsub', henabled', -, c, hc, -, hcrole⟩ := hgrants token js claims _ row _ hs hact
      obtain ⟨-, c', hc', -, hcrole'⟩ := mintedPair_carries deps user.username (.str user.role) js now
      have hcc : c = c' := deps.jwt.encode_injective c c' (hc.symm.trans hc')
      rw [hsub] at hsub'
      refine ⟨id, stored, hstored, ?_, ?_, henabled'.trans henabled.symm⟩
      · exact (Json.str.inj (Option.some.inj hsub')).symm
      · rw [hcc, hcrole'] at hcrole
        exact (Json.str.inj hcrole).symm
    · intro hkept token js claims t row pair hs hact
      obtain ⟨user, huser, henabled, hsub, hrole⟩ := h.claims_eq hs
      obtain ⟨row', hact'⟩ := h.issues_pair hs hsub hrole now
      obtain ⟨id, stored, hstored, hname, hrole', henabled'⟩ := hkept token js claims user hs huser
      obtain ⟨-, -, hs'⟩ := Action.insert.inj (hact.symm.trans hact')
      cases congrFun hs' 0
      refine ⟨id, stored, hstored, by rw [hname, hsub], henabled'.trans henabled, ?_⟩
      rw [hname, hrole']
      exact mintedPair_carries deps _ _ _ _

end AccountInv

theorem IssuedStore.accountInv {deps : Deps} (store : IssuedStore deps) (draws : Draws deps store.toTokenStore)
    (tasks : Nat → Task) : AccountInv deps draws.jtis (store.serve draws tasks) where
  tokens := store.toTokenStore.tokens draws tasks
  issued := store.issued
  known id r hr := by
    rcases hr with hr | ⟨i, hw⟩
    · exact store.known id r hr
    · cases hw
  informed i := by
    show Informed deps store.account ((tasks i).open (draws.jtis i))
    cases tasks i with
    | call c => cases c <;> trivial
    | _ => trivial

/-- In every run the refreshes grant what a login would exactly when each of them meets the account as it was read. -/
theorem refresh_grants_as_login_iff (deps : Deps) (store : IssuedStore deps) (draws : Draws deps store.toTokenStore)
    (tasks : Nat → Task) (es : List (Event DateTime)) :
    Meets (World.step deps) (GrantsAsLogin deps) (store.serve draws tasks) es ↔
      Meets (World.step deps) AccountKept (store.serve draws tasks) es := by
  have hinv := store.accountInv draws tasks
  have hstep : ∀ (w : World) (e : Event DateTime), AccountInv deps draws.jtis w →
    AccountInv deps draws.jtis (w.step deps e) :=
    fun w e hw => hw.step draws.distinct e
  constructor
  · intro hgrants
    exact hgrants.mono_of_inv hinv (fun w e hw _ => hstep w e hw) fun w e hw => (hw.grantsAsLogin_iff e).mp
  · intro hkept
    exact hkept.mono_of_inv hinv (fun w e hw _ => hstep w e hw) fun w e hw => (hw.grantsAsLogin_iff e).mpr

/-! ### A disabled user -/

/-- One user, who has not logged in yet. -/
def adaOnly : IssuedStore readableDeps where
  rows
    | .appUser, 1 => some ⟨"ada", "secret", "ROLE_USER", true⟩
    | _, _ => none
  seq _ := 2
  fresh t id h := by
    rcases id with _ | _ | id
    · cases h
    · simp at h
    · cases t <;> rfl
  unique id id' r r' h := by cases h
  account _ := none
  issued _ _ h := by cases h
  known id r h := by cases h

/-- Refresh tokens drawn for the tasks. -/
def adaDraws : Draws readableDeps adaOnly.toTokenStore where
  jtis i := ⟨"", String.ofList (List.replicate i 'a'), dawn, dawn⟩
  distinct _ _ h := letters_injective h
  unused i id r c h := by cases h

/-- A login, an administrator who disables the user, and a refresh with the token of the login. -/
def disabledUser : Nat → Task
  | 0 => .call (.login "ada" "secret")
  | 1 => .administer (.update 1 fun user => { user with enabled := false })
  | _ => .call (.refresh (mintedPair readableDeps "ada" (.str "ROLE_USER") (adaDraws.jtis 0) dawn).refreshToken)

/-- A login, a cleanup and a refresh, one after another. -/
def afterwards : List (Event DateTime) := [0, 0, 0, 0, 1, 1, 2, 2, 2].map fun i => .step i dawn

theorem refreshed_disabled_user : ¬∀ (deps : Deps) (store : IssuedStore deps) (draws : Draws deps store.toTokenStore)
    (tasks : Nat → Task) (es : List (Event DateTime)),
      Meets (World.step deps) (GrantsAsLogin deps) (store.serve draws tasks) es := by
  intro h
  have hrun := h readableDeps adaOnly adaDraws disabledUser (afterwards ++ [.step 2 dawn])
  have hlast := (meets_append.mp hrun).2.1
  obtain ⟨id, user, huser, -, henabled, -⟩ := hlast _ _ _ _ _ _ rfl rfl
  match id with
  | 0 => cases huser
  | 1 =>
    cases huser
    cases henabled
  | id + 2 => cases huser

end IrisService.Auth
