import IrisService.Auth.AccountRuns
import IrisService.Auth.Deps

/-! Where the name and the role of an access token come from.

No code reads `app_user` when it is presented: what `GET /auth/me` answers is what a login has read, through any chain of
refreshes. -/

namespace IrisService.Auth
open ReadCommitted Db Runs Orders

/-! ### GET /auth/me -/

/-- What `GET /auth/me` is answered. -/
inductive MeReply where
  | me (username role : String)
  | http (exc : HTTPException)
  /-- An exception that no handler catches, by its class. -/
  | raised (exc : String)
  deriving DecidableEq, Repr

/-- `me`, with the response model `dict[str, str]`. -/
def me : RestCaller → MeReply
  | .user ⟨.str username, .str role⟩ => .me username role
  | .user _ => .raised "ResponseValidationError"
  | .http exc => .http exc
  | .raised exc => .raised exc

/-- The answer to a caller with the token in the `Authorization` header and no API key. -/
def meWith (deps : Deps) (now : DateTime) (token : String) : MeReply :=
  me (currentUser deps.jwt now none (some ⟨"Bearer", token⟩))

/-- An access token is good from the second it was minted in until its lifetime is over. -/
def accessReply (deps : Deps) (name : String) (role : Json) (minted now : DateTime) : MeReply :=
  if now.timestamp < minted.seconds * 1000000 then
    .http ⟨401, .text "Invalid token: The token is not yet valid (iat)"⟩
  else if (minted.addSeconds (deps.settings.accessTokenExpireMinutes * 60)).seconds * 1000000 ≤ now.timestamp then
    .http ⟨401, .text "Token expired"⟩
  else me (.user ⟨.str name, role⟩)

section Presented
variable (deps : Deps) (name : String) (role : Json) (jtis : Jtis) (minted now : DateTime)

theorem meWith_accessToken :
    meWith deps now (mintedPair deps name role jtis minted).accessToken = accessReply deps name role minted now := by
  have hscheme : Str.lower "Bearer" = "bearer" := by decide +kernel
  simp only [meWith, currentUser, hscheme, ne_eq, not_true_eq_false, if_false, mintedPair, issueAccessToken, encode,
    decodeToken, deps.jwt.decode_encode, accessReply]
  by_cases hearly : now.timestamp < minted.seconds * 1000000
  · simp only [if_pos hearly]
    rfl
  · by_cases hlate : (minted.addSeconds (deps.settings.accessTokenExpireMinutes * 60)).seconds * 1000000 ≤ now.timestamp
    · simp only [if_neg hearly, if_pos hlate]
      rfl
    · simp only [if_neg hearly, if_neg hlate]
      rfl

/-- A refresh token is not an access token. -/
theorem meWith_refreshToken (username role' : String) :
    meWith deps now (mintedPair deps name role jtis minted).refreshToken ≠ .me username role' := by
  have hscheme : Str.lower "Bearer" = "bearer" := by decide +kernel
  simp only [meWith, currentUser, hscheme, ne_eq, not_true_eq_false, if_false, mintedPair, issueRefreshToken, encode,
    decodeToken, deps.jwt.decode_encode]
  split
  · simp [me]
  · simp [me]
  · rename_i claims hdecode
    split at hdecode
    · cases hdecode
    · cases hdecode
    · cases hdecode
    · rename_i claims' hclaims
      split at hclaims
      · cases hclaims
      · split at hclaims
        · cases hclaims
        · cases hclaims
          simp [IssuedClaims.dict, TokenType.value] at hdecode

end Presented

/-! ### Who vouches for a name and a role -/

/-- One of the steps is that of a login which finds the account: stored under the name, enabled, with the role, and with
    the password that the login was sent. -/
def LoggedIn (deps : Deps) (d₀ : Db Row Job) (es : List (Event DateTime)) (name : String) (role : Json) : Prop :=
  ∃ before i now after, es = before ++ .step i now :: after ∧ ∃ password jtis id user,
    ((run (jobStep deps) d₀ before).client i).state = .call (.login name password jtis .start) ∧
      (run (jobStep deps) d₀ before).committed .appUser id = some user ∧ AppUser.username user = name ∧
        AppUser.enabled user = true ∧ deps.verifyPassword password (AppUser.passwordHash user) = true ∧
          role = .str (AppUser.role user)

/-- The refresh token can be decoded, to the name and the role. -/
def Names (deps : Deps) (token name : String) (role : Json) : Prop :=
  ∃ claims, Decoded deps token claims ∧ claims "sub" = some (.str name) ∧ claims "role" = some role

/-- A login has, or one of the refresh tokens that were stored at first. -/
def Vouched (deps : Deps) (d₀ : Db Row Job) (es : List (Event DateTime)) (name : String) (role : Json) : Prop :=
  LoggedIn deps d₀ es name role ∨
    ∃ id r, d₀.committed .refreshToken id = some r ∧ Names deps (RefreshToken.token r) name role

/-- The pair was minted for a name and a role that are vouched for, at one of the instants. -/
def MintedFor (deps : Deps) (vouched : String → Json → Prop) (at_ : DateTime → Prop) (pair : TokenResponse) : Prop :=
  ∃ name role jtis minted, vouched name role ∧ at_ minted ∧ pair = mintedPair deps name role jtis minted

/-- What a job holds at each point of its code is vouched for. -/
def Backed (deps : Deps) (vouched : String → Json → Prop) (at_ : DateTime → Prop) : Job → Prop
  | .call (.login _ _ _ (.checked user)) => vouched user.username (.str user.role)
  | .call (.refresh token _ (.decoded claims)) => Decoded deps token claims
  | .call (.refresh _ _ (.checked claims _ _)) | .call (.refresh _ _ (.revoked claims)) =>
    ∀ name role, claims "sub" = some (.str name) → claims "role" = some role → vouched name role
  | .call (.login _ _ _ (.flushed pair)) | .call (.login _ _ _ (.answered pair))
  | .call (.login _ _ _ (.done (.tokens pair))) | .call (.refresh _ _ (.flushed pair))
  | .call (.refresh _ _ (.answered pair)) | .call (.refresh _ _ (.done (.tokens pair))) => MintedFor deps vouched at_ pair
  | _ => True

section Backed
variable {deps : Deps} {vouched vouched' : String → Json → Prop} {at_ at_' : DateTime → Prop} {job : Job} {now : DateTime}
  {v : View Row} {pair : TokenResponse}

theorem MintedFor.mono (h : MintedFor deps vouched at_ pair)
    (hvouched : ∀ name role, vouched name role → vouched' name role)
    (hat : ∀ t, at_ t → at_' t) : MintedFor deps vouched' at_' pair := by
  obtain ⟨name, role, jtis, minted, hname, hminted, hpair⟩ := h
  exact ⟨name, role, jtis, minted, hvouched name role hname, hat minted hminted, hpair⟩

theorem Backed.mono (h : Backed deps vouched at_ job) (hvouched : ∀ name role, vouched name role → vouched' name role)
    (hat : ∀ t, at_ t → at_' t) : Backed deps vouched' at_' job := by
  unfold Backed at h ⊢
  split
  · exact hvouched _ _ h
  · exact h
  · exact fun name role hsub hrole => hvouched _ _ (h name role hsub hrole)
  · exact fun name role hsub hrole => hvouched _ _ (h name role hsub hrole)
  · exact h.mono hvouched hat
  · exact h.mono hvouched hat
  · exact h.mono hvouched hat
  · exact h.mono hvouched hat
  · exact h.mono hvouched hat
  · exact h.mono hvouched hat
  · trivial

/-- What is answered has been held. -/
theorem Backed.answered (h : Backed deps vouched at_ job) (hanswer : job.answer? = some (.tokens pair)) :
    MintedFor deps vouched at_ pair := by
  cases job with
  | call session =>
    cases session with
    | login username password jtis st =>
      cases st with
      | answered pair' =>
        cases hanswer
        exact h
      | done a =>
        cases hanswer
        exact h
      | _ => cases hanswer
    | refresh token jtis st =>
      cases st with
      | answered pair' =>
        cases hanswer
        exact h
      | done a =>
        cases hanswer
        exact h
      | _ => cases hanswer
  | _ => cases hanswer

/-! ### Steps -/

/-- `_issue_token_pair` hands on what it was given. -/
theorem issueTokenPair_all {S : Type} {name : String} {role : Json} {jtis : Jtis} {flushed : TokenResponse → S}
    {failed : Answer → S} {P : S → Prop} (hflushed : P (flushed (mintedPair deps name role jtis now)))
    (hfailed : P (failed (.raised "IntegrityError"))) :
    (issueTokenPair deps name role jtis now v flushed failed).All P := by
  unfold issueTokenPair
  simp only
  split
  · exact fun _ => hflushed
  · exact hfailed

theorem login_backed {username password : String} {jtis : Jtis} {st : Login}
    (h : Backed deps vouched at_ (.call (.login username password jtis st))) (hnow : at_ now)
    (hstart : ∀ id user, st = .start → v.rows .appUser id = some user → AppUser.username user = username →
      AppUser.enabled user = true → deps.verifyPassword password (AppUser.passwordHash user) = true →
        vouched username (.str (AppUser.role user))) :
    (login deps username password jtis now st v).All fun st' =>
      Backed deps vouched at_ (.call (.login username password jtis st')) := by
  cases st with
  | start =>
    simp only [login]
    split
    · trivial
    · rename_i id user hfound
      split
      · trivial
      · rename_i hok
        obtain ⟨hmem, hname⟩ := List.mem_filter.mp (hfound ▸ List.mem_singleton_self (id, user))
        simp only [Bool.or_eq_true, not_or, Bool.not_eq_true, Bool.not_eq_false'] at hok
        obtain rfl : user.username = username := of_decide_eq_true hname
        exact hstart id user rfl (mem_select hmem) rfl hok.1 hok.2
    · trivial
  | checked user => exact issueTokenPair_all ⟨_, _, _, _, h, hnow, rfl⟩ trivial
  | flushed pair => exact h
  | answered pair => exact h
  | done a => exact h

theorem refresh_backed {token : String} {jtis : Jtis} {st : Refresh}
    (h : Backed deps vouched at_ (.call (.refresh token jtis st))) (hnow : at_ now)
    (hstored : ∀ id r, v.rows .refreshToken id = some r → ∀ name role, Names deps (RefreshToken.token r) name role →
      vouched name role) :
    (refresh deps token jtis now st v).All fun st' => Backed deps vouched at_ (.call (.refresh token jtis st')) := by
  cases st with
  | start =>
    simp only [refresh]
    split
    · trivial
    · trivial
    · rename_i claims hdecode
      exact ⟨now, hdecode⟩
  | decoded claims =>
    simp only [refresh]
    split
    · trivial
    · rename_i id record hfound
      split
      · trivial
      · obtain ⟨hrow, rfl⟩ := mem_withToken (hfound ▸ List.mem_singleton_self (id, record))
        exact fun name role hsub hrole => hstored id record hrow name role ⟨claims, h, hsub, hrole⟩
    · trivial
  | checked claims id record =>
    simp only [refresh, update]
    split
    · exact h
    · trivial
  | revoked claims =>
    simp only [refresh]
    split
    · rename_i name role hsub hrole
      exact issueTokenPair_all ⟨_, _, _, _, h name role hsub hrole, hnow, rfl⟩ trivial
    · trivial
    · trivial
  | flushed pair => exact h
  | answered pair => exact h
  | done a => exact h

theorem jobAct_backed (h : Backed deps vouched at_ job) (hnow : at_ now)
    (hstart : ∀ username password jtis id user, job = .call (.login username password jtis .start) →
      v.rows .appUser id = some user → AppUser.username user = username → AppUser.enabled user = true →
        deps.verifyPassword password (AppUser.passwordHash user) = true → vouched username (.str (AppUser.role user)))
    (hstored : ∀ id r, v.rows .refreshToken id = some r → ∀ name role, Names deps (RefreshToken.token r) name role →
      vouched name role) : (jobAct deps now job v).All (Backed deps vouched at_) := by
  cases job with
  | call session =>
    cases session with
    | login username password jtis st =>
      refine Action.all_map.mpr (Action.all_map.mpr (login_backed h hnow fun id user hst => ?_))
      exact hstart username password jtis id user (by rw [hst])
    | refresh token jtis st => exact Action.all_map.mpr (Action.all_map.mpr (refresh_backed h hnow hstored))
  | _ => exact Action.all_map.mpr (Action.all_of_forall fun _ => trivial)

theorem refused_backed (h : Backed deps vouched at_ job) : Backed deps vouched at_ job.refused := by
  cases job with
  | call session =>
    cases session with
    | login username password jtis st => cases st <;> first | exact h | trivial
    | refresh token jtis st => cases st <;> first | exact h | trivial
  | cleanup st => cases st <;> trivial
  | administer change st => cases st <;> trivial

/-- A refresh token that is registered now names what the job holds. -/
theorem registers_names {seq : Table → Nat} {token name : String} {role : Json} (h : Backed deps vouched at_ job)
    (hreg : World.registers seq (jobAct deps now job v) = some token) (hnames : Names deps token name role) :
    vouched name role := by
  obtain ⟨claims, ⟨t, hdecode⟩, hsub, hrole⟩ := hnames
  rcases registers_cases hreg with ⟨_, _, jtis, user, rfl, rfl⟩
    | ⟨_, jtis, claims', username, role', rfl, hsub', hrole', rfl⟩
  · have hclaims := decodeToken_encode hdecode
    rw [hclaims] at hsub hrole
    cases hsub
    cases hrole
    exact h
  · have hclaims := decodeToken_encode hdecode
    rw [hclaims] at hsub hrole
    cases hsub
    cases hrole
    exact h _ _ hsub' hrole'

end Backed

/-! ### Runs -/

theorem Vouched.mono {deps : Deps} {d₀ : Db Row Job} {es es' : List (Event DateTime)} {name : String} {role : Json}
    (h : Vouched deps d₀ es name role) : Vouched deps d₀ (es ++ es') name role :=
  h.imp_left fun ⟨before, i, now, after, hes, hlogin⟩ => ⟨before, i, now, after ++ es', by rw [hes]; simp, hlogin⟩

/-- After the events `es` from `d₀` on. -/
structure VouchInv (deps : Deps) (d₀ : Db Row Job) (es : List (Event DateTime)) (d : Db Row Job) : Prop where
  idle : d.Idle Job.inFlight
  stored : ∀ id r, d.Version .refreshToken id r → ∀ name role, Names deps (RefreshToken.token r) name role →
    Vouched deps d₀ es name role
  backed : ∀ i, Backed deps (Vouched deps d₀ es) (fun now => .step i now ∈ es) (d.client i).state

namespace VouchInv
variable {deps : Deps} {d₀ d : Db Row Job} {es : List (Event DateTime)} {e : Event DateTime} {i : Nat} {now : DateTime}

/-- The account that a login finds is committed. -/
theorem starts (h : VouchInv deps d₀ es (Runs.run (jobStep deps) d₀ es)) {username password : String} {jtis : Jtis}
    {id : Nat}
    {user : AppUser} (hstate : ((Runs.run (jobStep deps) d₀ es).client i).state =
      .call (.login username password jtis .start))
    (hrow : ((Runs.run (jobStep deps) d₀ es).view i).rows .appUser id = some user) (hname : user.username = username)
    (henabled : user.enabled = true) (hpassword : deps.verifyPassword password user.passwordHash = true) :
    Vouched deps d₀ (es ++ [.step i now]) username (.str user.role) := by
  have hwrites : ((Runs.run (jobStep deps) d₀ es).client i).writes = .empty := h.idle i (by rw [hstate]; rfl)
  rw [view_rows, hwrites, Writes.onto_empty] at hrow
  exact Or.inl ⟨es, i, now, [], rfl, password, jtis, id, user, hstate, hrow, hname, henabled, hpassword, rfl⟩

/-- What a job held before the step is vouched for after it. -/
theorem backed_mono (h : VouchInv deps d₀ es d) (j : Nat) :
    Backed deps (Vouched deps d₀ (es ++ [e])) (fun now => .step j now ∈ es ++ [e]) (d.client j).state :=
  (h.backed j).mono (fun _ _ hold => hold.mono) fun _ ht => List.mem_append_left _ ht

/-- So is what the tokens named that a job sees. -/
theorem stored_view (h : VouchInv deps d₀ es d) {id : Nat} {r : RefreshToken}
    (hr : (d.view i).rows .refreshToken id = some r) (name : String) (role : Json) (hnames : Names deps r.token name role) :
    Vouched deps d₀ (es ++ [e]) name role := (h.stored id r (version_of_view hr) name role hnames).mono

theorem step (h : VouchInv deps d₀ es (Runs.run (jobStep deps) d₀ es)) (e : Event DateTime) :
    VouchInv deps d₀ (es ++ [e]) (jobStep deps (Runs.run (jobStep deps) d₀ es) e) := by
  have hothers : ∀ j, j ≠ e.client → Backed deps (Vouched deps d₀ (es ++ [e])) (fun now => .step j now ∈ es ++ [e])
      ((jobStep deps (Runs.run (jobStep deps) d₀ es) e).client j).state := by
    intro j hne
    rw [jobStep, step_client_of_ne hne]
    exact h.backed_mono j
  cases e with
  | step i now =>
    refine ⟨idle_jobStep h.idle _, fun id r hr name role hnames => ?_, fun j => ?_⟩
    · rcases perform_version hr with hr | ⟨row, s, hact, rfl, rfl⟩ | ⟨cs, s, hact, hmem⟩
      · exact (h.stored id r hr name role hnames).mono
      · have hreg : World.registers (Runs.run (jobStep deps) d₀ es).seq (jobAct deps now
            ((Runs.run (jobStep deps) d₀ es).client i).state ((Runs.run (jobStep deps) d₀ es).view i)) =
              some (RefreshToken.token (row ((Runs.run (jobStep deps) d₀ es).seq .refreshToken))) := by
          rw [show jobAct deps now _ _ = .insert .refreshToken row s from hact]
          rfl
        exact registers_names (h.backed_mono i) hreg hnames
      · have hkeeps := (jobAct_tokenStep deps now ((Runs.run (jobStep deps) d₀ es).client i).state
          ((Runs.run (jobStep deps) d₀ es).view i)).keeps
        rw [show jobAct deps now _ _ = .write cs s from hact] at hkeeps
        obtain ⟨r', hr', htoken⟩ := hkeeps id r hmem
        exact h.stored_view hr' name role (by rw [htoken]; exact hnames)
    · by_cases hne : j = i
      · subst hne
        refine perform_state (P := Backed deps _ _) (h.backed_mono j) (jobAct_backed (h.backed_mono j) ?_ ?_ ?_)
        · exact List.mem_append_right _ (List.mem_singleton_self _)
        · intro username password jtis id user hstate hrow hname henabled hpassword
          exact h.starts hstate hrow hname henabled hpassword
        · exact fun id r hr => h.stored_view hr
      · exact hothers j hne
  | fail i =>
    refine ⟨idle_jobStep h.idle _, fun id r hr name role hnames => ?_, fun j => ?_⟩
    · rcases perform_version (a := .rollback _) hr with hr | ⟨row, s, hact, -⟩ | ⟨cs, s, hact, -⟩
      · exact (h.stored id r hr name role hnames).mono
      · cases hact
      · cases hact
    · by_cases hne : j = i
      · subst hne
        exact perform_state (a := .rollback _) (P := Backed deps _ _) (h.backed_mono j) (refused_backed (h.backed_mono j))
      · exact hothers j hne

theorem start {store : TokenStore} (draws : Draws deps store) (tasks : Nat → Task) :
    VouchInv deps (store.serve draws tasks) [] (store.serve draws tasks) where
  idle _ _ := rfl
  stored id r hr name role hnames := by
    rcases hr with hr | ⟨i, hw⟩
    · exact Or.inr ⟨id, r, hr, hnames⟩
    · cases hw
  backed i := by
    show Backed deps _ _ ((tasks i).open (draws.jtis i))
    cases tasks i with
    | call c => cases c <;> trivial
    | _ => trivial

theorem run {store : TokenStore} (draws : Draws deps store) (tasks : Nat → Task) (es : List (Event DateTime)) :
    VouchInv deps (store.serve draws tasks) es (Runs.run (jobStep deps) (store.serve draws tasks) es) :=
  run_induction (start draws tasks) (fun _ e h => h.step e) es

end VouchInv

/-- No refresh, cleanup or change of the accounts gives anyone a name or a role. Whatever runs at the same time, each pair
    that is answered has an access token that `GET /auth/me` answers, from the second of its minting until its lifetime is
    over, with a name and a role that a login with the right password has read from an enabled account, or that a refresh
    token stored at first had; its refresh token opens nothing there. -/
theorem access_vouched (deps : Deps) (store : TokenStore) (draws : Draws deps store) (tasks : Nat → Task)
    (es : List (Event DateTime)) (i : Nat) (pair : TokenResponse)
    (hanswer : ((run (jobStep deps) (store.serve draws tasks) es).client i).state.answer? = some (.tokens pair)) :
    ∃ name role minted, Vouched deps (store.serve draws tasks) es name role ∧ .step i minted ∈ es ∧
      (∀ now, meWith deps now pair.accessToken = accessReply deps name role minted now) ∧
      ∀ now username role', meWith deps now pair.refreshToken ≠ .me username role' := by
  obtain ⟨name, role, jtis, minted, hvouched, hminted, rfl⟩ := ((VouchInv.run draws tasks es).backed i).answered hanswer
  refine ⟨name, role, minted, hvouched, hminted, fun now => ?_, fun now username role' => ?_⟩
  · exact meWith_accessToken deps name role jtis minted now
  · exact meWith_refreshToken deps name role jtis minted now username role'

/-- The run to the answer of the refresh, whose user has been disabled. -/
def refreshedAfterwards : List (Event DateTime) := afterwards ++ [.step 2 dawn, .step 2 dawn]

def pairOfDisabled : TokenResponse := mintedPair readableDeps "ada" (.str "ROLE_USER") (adaDraws.jtis 2) dawn

theorem disabled_user_vouched : ∃ name role minted,
    Vouched readableDeps (adaOnly.toTokenStore.serve adaDraws disabledUser) refreshedAfterwards name role ∧
      .step 2 minted ∈ refreshedAfterwards ∧
      (∀ now, meWith readableDeps now pairOfDisabled.accessToken = accessReply readableDeps name role minted now) ∧
      ∀ now username role', meWith readableDeps now pairOfDisabled.refreshToken ≠ .me username role' :=
  access_vouched readableDeps adaOnly.toTokenStore adaDraws disabledUser refreshedAfterwards 2 pairOfDisabled rfl

end IrisService.Auth
