import IrisService.Auth.RefreshSteps
import IrisService.Library.Runs

/-! Rotation of refresh tokens over whole runs: one call at most is answered with a pair for each token. -/

namespace IrisService.Auth
open ReadCommitted Db Runs

/-- A registry of issued tokens, at rest. -/
structure Registry (deps : Deps) where
  rows : Rows Row
  seq : Table → Nat
  fresh : ∀ t id, seq t ≤ id → rows t id = none
  issued : ∀ id r, rows .refreshToken id = some r →
    ∃ c, IssuedClaims.type c = .refresh ∧ RefreshToken.token r = deps.jwt.encode c
  /-- `uq_refresh_token_token` -/
  unique : ∀ id id' r r', rows .refreshToken id = some r → rows .refreshToken id' = some r' →
    RefreshToken.token r = RefreshToken.token r' → id = id'

/-- The `uuid4` values of the calls: distinct from each other and from those of the registry. -/
structure Uuids {deps : Deps} (registry : Registry deps) where
  jtis : Nat → Jtis
  distinct : ∀ i j, (jtis i).refresh = (jtis j).refresh → i = j
  unused : ∀ i id r c, registry.rows .refreshToken id = some r → RefreshToken.token r = deps.jwt.encode c →
    c.jti ≠ (jtis i).refresh

/-- The store when the calls have just been received. -/
def Registry.serve {deps : Deps} (registry : Registry deps) (uuids : Uuids registry) (calls : Nat → Call) : State :=
  Db.start registry.rows registry.seq fun i => (calls i).open (uuids.jtis i)

/-! ### The invariant -/

/-- The transaction of client `i` has revoked the row of the token. -/
def Spending (d : State) (i : Nat) (token : String) : Prop :=
  ∃ id r, (d.client i).writes .refreshToken id = some (some r) ∧ RefreshToken.token r = token ∧
    RefreshToken.revoked r = true

/-- The row of the token is revoked for good. -/
def Spent (d : State) (token : String) : Prop :=
  (∃ id r, d.committed .refreshToken id = some r ∧ RefreshToken.token r = token) ∧
    ∀ id r, d.Version .refreshToken id r → RefreshToken.token r = token → RefreshToken.revoked r = true

/-- The token has been decoded to these claims. -/
def Decoded (deps : Deps) (token : String) (claims : JwtClaims) : Prop :=
  ∃ now, decodeToken deps.jwt now token .refresh = .ok claims

/-- What holds of a call at each point of its code. -/
def Local (deps : Deps) (d : State) (i : Nat) : Session → Prop
  | .refresh token _ (.decoded claims) => Decoded deps token claims
  | .refresh token _ (.checked claims id _) => Decoded deps token claims ∧
      ∃ r, (d.view i).rows .refreshToken id = some r ∧ RefreshToken.token r = token
  | .refresh token _ (.revoked claims) => Decoded deps token claims ∧ Spending d i token
  | .refresh token _ (.flushed _) | .refresh token _ (.answered _) => Spending d i token
  | .refresh token _ (.done (.tokens _)) => Spent d token
  | .refresh _ _ (.done (.http exc)) => ∃ detail, Answer.http exc = unauthorized detail
  | .refresh _ _ (.done (.raised _)) => False
  | _ => True

/-- What holds in every run of orderly steps. -/
structure RotationInv (deps : Deps) (jtis : Nat → Jtis) (d : State) : Prop where
  wf : d.Wf
  kept : ∀ i id, (d.client i).writes .refreshToken id ≠ some none
  issued : ∀ id r, d.Version .refreshToken id r → ∃ c, c.type = .refresh ∧ RefreshToken.token r = deps.jwt.encode c
  same : ∀ id id' r r', d.Version .refreshToken id r → d.Version .refreshToken id' r' →
    (RefreshToken.token r = RefreshToken.token r' ↔ id = id')
  drawn : ∀ i, (d.client i).state.jtis = jtis i
  unissued : ∀ i, (d.client i).state.pending = true → ∀ id r c, d.Version .refreshToken id r →
    RefreshToken.token r = deps.jwt.encode c → c.jti ≠ (jtis i).refresh
  here : ∀ i, Local deps d i (d.client i).state
  alone : ∀ i j token, (d.client i).state.holds = some token → (d.client j).state.holds = some token → i = j

/-- A call whose SELECT finds the token usable is the only one that has it in hand. -/
def LoneSelect (d : State) (e : Nat × DateTime) : Prop :=
  ∀ token jtis claims, (d.client e.1).state = .refresh token jtis (.decoded claims) → Usable (d.view e.1) e.2 token →
    ∀ j, j ≠ e.1 → (d.client j).state.inHand ≠ some token

/-- What each step of a run has to meet. -/
structure Orderly (deps : Deps) (d : State) (e : Nat × DateTime) : Prop where
  /-- PyJWT raises nothing but an `InvalidTokenError` on the token of a call. -/
  decodes : ∀ token jtis exc, (d.client e.1).state = .refresh token jtis .start →
    decodeToken deps.jwt e.2 token .refresh ≠ .error (.raised exc)
  lone : LoneSelect d e

namespace RotationInv
variable {deps : Deps} {jtis : Nat → Jtis} {d : State} {i : Nat} {now : DateTime} {a : Action Row Session}

/-- The version that a step adds is an old one revoked, or a token just minted. -/
theorem version_perform (h : RotationInv deps jtis d) (ht : Turns deps now (d.view i) (d.client i).state a) {id : Nat}
    {r : RefreshToken} (hr : (d.perform i a).Version .refreshToken id r) :
    (∃ r', d.Version .refreshToken id r' ∧ RefreshToken.token r' = r.token ∧
      (RefreshToken.revoked r' = true → r.revoked = true)) ∨
    id = d.seq .refreshToken ∧ (d.client i).state.pending = true ∧ Minted deps (jtis i) r ∧
      ∃ row s, a = .insert .refreshToken row s ∧ r = row id ∧ ∀ id, (s id).pending = false := by
  rcases perform_version hr with hr | ⟨row, s, rfl, hid, rfl⟩ | ⟨cs, s, rfl, hmem⟩
  · exact Or.inl ⟨r, hr, rfl, fun hv => hv⟩
  · have hdrawn := h.drawn i
    generalize hs : (d.client i).state = s₀ at ht hdrawn ⊢
    cases ht with
    | issue hminted =>
      refine Or.inr ⟨hid, rfl, ?_, _, _, rfl, rfl, fun _ => rfl⟩
      rw [← hdrawn]
      exact hminted
    | issueLogin hminted =>
      refine Or.inr ⟨hid, rfl, ?_, _, _, rfl, rfl, fun _ => rfl⟩
      rw [← hdrawn]
      exact hminted
  · generalize hs : (d.client i).state = s₀ at ht
    cases ht with
    | revoke hrow =>
      cases List.mem_singleton.mp hmem
      exact Or.inl ⟨_, version_of_view hrow, rfl, fun _ => rfl⟩

theorem version_lt (h : RotationInv deps jtis d) {id : Nat} {r : RefreshToken} (hr : d.Version .refreshToken id r) :
    id < d.seq .refreshToken := by
  by_contra hlt
  have hle := Nat.not_lt.mp hlt
  rcases hr with hr | ⟨j, hr⟩
  · rw [(h.wf.fresh .refreshToken id hle).1] at hr
    cases hr
  · rw [h.wf.writes_fresh hle] at hr
    cases hr

/-- A committed row stays, with its token. -/
theorem committed_perform (h : RotationInv deps jtis d) {id : Nat} {r : RefreshToken}
    (hr : d.committed .refreshToken id = some r) :
    ∃ r', (d.perform i a).committed .refreshToken id = some r' ∧ RefreshToken.token r' = r.token := by
  cases a with
  | commit s =>
    cases hw : (d.client i).writes .refreshToken id with
    | none => exact ⟨r, by simp only [perform, finish, view_rows, Writes.onto_of_none hw, hr], rfl⟩
    | some x =>
      cases x with
      | none => exact absurd hw (h.kept i id)
      | some r' =>
        refine ⟨r', by simp only [perform, finish, view_rows, Writes.onto_of_some hw], ?_⟩
        exact (h.same id id r' r (Or.inr ⟨i, hw⟩) (Or.inl hr)).mpr rfl
  | _ => exact ⟨r, by rw [perform_committed (by simp), hr], rfl⟩

/-- What a client sees of a row stays, with its token, while the others take steps. -/
theorem view_perform (h : RotationInv deps jtis d) {j id : Nat} {r : RefreshToken} (hne : j ≠ i)
    (hr : (d.view j).rows .refreshToken id = some r) :
    ∃ r', ((d.perform i a).view j).rows .refreshToken id = some r' ∧ RefreshToken.token r' = r.token := by
  rw [view_rows] at hr
  rw [view_rows, perform_client_of_ne hne]
  cases hw : (d.client j).writes .refreshToken id with
  | none =>
    rw [Writes.onto_of_none hw] at hr
    rw [Writes.onto_of_none hw]
    exact h.committed_perform hr
  | some x =>
    rw [Writes.onto_of_some hw] at hr
    rw [Writes.onto_of_some hw]
    exact ⟨r, hr, rfl⟩

theorem spent_perform (h : RotationInv deps jtis d) (ht : Turns deps now (d.view i) (d.client i).state a) (token : String)
    (hs : Spent d token) : Spent (d.perform i a) token := by
  obtain ⟨⟨id, r, hr, htoken⟩, hrevoked⟩ := hs
  refine ⟨?_, fun id' r' hr' htoken' => ?_⟩
  · obtain ⟨r', hr', hsame⟩ := h.committed_perform (i := i) (a := a) hr
    exact ⟨id, r', hr', hsame.trans htoken⟩
  · rcases h.version_perform ht hr' with ⟨r₀, hr₀, hsame, hmono⟩ | ⟨-, hpending, ⟨-, c, -, hjti, henc⟩, -⟩
    · exact hmono (hrevoked id' r₀ hr₀ (hsame.trans htoken'))
    · -- A token just minted is none of those the registry knows.
      refine absurd hjti (h.unissued i hpending id r c (Or.inl hr) ?_)
      rw [htoken, ← htoken', henc]

theorem local_others (h : RotationInv deps jtis d) (ht : Turns deps now (d.view i) (d.client i).state a) {j : Nat}
    (hne : j ≠ i) : Local deps (d.perform i a) j (d.client j).state := by
  have hj := h.here j
  have hspending : ∀ token, Spending d j token → Spending (d.perform i a) j token := by
    rintro token ⟨id, r, hw, htoken, hrevoked⟩
    exact ⟨id, r, by rwa [perform_client_of_ne hne], htoken, hrevoked⟩
  generalize (d.client j).state = s at hj ⊢
  cases s with
  | login username password jtis st => trivial
  | refresh token jtis st =>
    cases st with
    | start => trivial
    | decoded claims => exact hj
    | checked claims id record =>
      obtain ⟨hdecoded, r, hr, htoken⟩ := hj
      obtain ⟨r', hr', hsame⟩ := h.view_perform (i := i) (a := a) hne hr
      exact ⟨hdecoded, r', hr', hsame.trans htoken⟩
    | revoked claims => exact ⟨hj.1, hspending token hj.2⟩
    | flushed pair => exact hspending token hj
    | answered pair => exact hspending token hj
    | done a =>
      cases a with
      | tokens pair => exact h.spent_perform ht token hj
      | http exc => exact hj
      | raised exc => exact hj

/-- A token of the registry decodes to the claims it was issued with. -/
theorem claims_of_decoded (h : RotationInv deps jtis d) {id : Nat} {r : RefreshToken} {claims : JwtClaims}
    (hr : d.Version .refreshToken id r) (hdecoded : Decoded deps (RefreshToken.token r) claims) :
    ∃ username role, claims "sub" = some (.str username) ∧ claims "role" = some role := by
  obtain ⟨c, -, hc⟩ := h.issued id r hr
  obtain ⟨now, hdecode⟩ := hdecoded
  rw [hc] at hdecode
  rw [decodeToken_encode hdecode]
  exact ⟨c.sub, c.role, rfl, rfl⟩

theorem not_crash (h : RotationInv deps jtis d) (horderly : Orderly deps d (i, now)) {token : String} {js : Jtis}
    {st : Refresh} (hs : (d.client i).state = .refresh token js st) : ¬Crash deps now (d.view i) token js st := by
  have hhere := h.here i
  have hjs : js = jtis i := by
    have := h.drawn i
    rw [hs] at this
    exact this
  rw [hs] at hhere
  intro hcrash
  cases hcrash with
  | undecodable hdecode => exact horderly.decodes token js _ hs hdecode
  | several hne hr ht hr' ht' =>
    exact hne ((h.same _ _ _ _ (version_of_view hr) (version_of_view hr')).mp (ht.trans ht'.symm))
  | stale hnone =>
    obtain ⟨-, r, hr, -⟩ := hhere
    rw [hnone] at hr
    cases hr
  | key hno =>
    obtain ⟨hdecoded, id, r, hw, rfl, -⟩ := hhere
    exact hno (h.claims_of_decoded (Or.inr ⟨i, hw⟩) hdecoded)
  | taken hminted hr ht =>
    obtain ⟨-, c, -, hjti, henc⟩ := hminted
    refine h.unissued i (by rw [hs]; rfl) _ _ c (version_of_view hr) (ht.trans henc) ?_
    rw [hjti, hjs]

/-- A step ends a transaction with its row revoked for everybody. -/
theorem spent_commit (h : RotationInv deps jtis d) {token : String} {s : Session} (hs : Spending d i token) :
    Spent (d.perform i (.commit s)) token := by
  obtain ⟨id, r, hw, htoken, hrevoked⟩ := hs
  have hcommitted : (d.perform i (.commit s)).committed .refreshToken id = some r := by
    simp only [perform, finish, view_rows, Writes.onto_of_some hw]
  refine ⟨⟨id, r, hcommitted, htoken⟩, fun id' r' hr' htoken' => ?_⟩
  have hbefore : d.Version .refreshToken id' r' := by
    rcases perform_version hr' with hv | ⟨row, s', ha, -⟩ | ⟨cs, s', ha, -⟩
    · exact hv
    · cases ha
    · cases ha
  obtain rfl : id' = id := (h.same id' id r' r hbefore (Or.inr ⟨i, hw⟩)).mp (htoken'.trans htoken.symm)
  rcases hr' with hc | ⟨j, hj⟩
  · rw [hcommitted] at hc
    rw [← Option.some.inj hc]
    exact hrevoked
  · by_cases hne : j = i
    · subst hne
      simp [perform, finish] at hj
    · rw [perform_client_of_ne hne] at hj
      have hheld : ∀ {k x}, (d.client k).writes .refreshToken id' = some x → (d.client k).writes .refreshToken id' ≠ none :=
        fun hk => by simp [hk]
      exact absurd (h.wf.writes_unique (hheld hj) (hheld hw)) hne

theorem local_own (h : RotationInv deps jtis d) (horderly : Orderly deps d (i, now))
    (ht : Turns deps now (d.view i) (d.client i).state a) :
    Local deps (d.perform i a) i ((d.perform i a).client i).state := by
  have hhere := h.here i
  have hspent := h.spent_perform ht
  generalize hs : (d.client i).state = s at ht hhere
  cases ht with
  | @ended token js a =>
    simp only [perform, Function.update_self]
    cases a with
    | tokens pair => exact hspent token hhere
    | http exc => exact hhere
    | raised exc => exact hhere
  | overLogin => simp only [perform, Function.update_self]; trivial
  | decode hdecode =>
    simp only [perform, Function.update_self]
    exact ⟨now, hdecode⟩
  | select hrow htoken _ _ =>
    simp only [perform, Function.update_self]
    refine ⟨hhere, _, ?_, htoken⟩
    simpa only [view_rows, Function.update_self] using hrow
  | @revoke token js claims id record row hrow =>
    obtain ⟨hdecoded, r, hr, htoken⟩ := hhere
    rw [hrow] at hr
    cases hr
    simp only [perform]
    split
    · simp only [put, Function.update_self]
      refine ⟨hdecoded, id, { row with revoked := true }, ?_, htoken, rfl⟩
      simp only [Function.update_self, Writes.setAll_cons, Writes.setAll_nil, Writes.set_self]
    · rw [hs]
      exact ⟨hdecoded, row, hrow, htoken⟩
  | @issue token js claims row pair hminted =>
    obtain ⟨-, id, r, hw, htoken, hrevoked⟩ := hhere
    simp only [perform, put, Function.update_self]
    refine ⟨id, r, ?_, htoken, hrevoked⟩
    simp only [Function.update_self, Writes.setAll_cons, Writes.setAll_nil]
    rw [Writes.set_of_id_ne, hw]
    exact Nat.ne_of_lt (h.version_lt (Or.inr ⟨i, hw⟩))
  | answer =>
    obtain ⟨id, r, hw, htoken, hrevoked⟩ := hhere
    simp only [perform, Function.update_self]
    exact ⟨id, r, by simpa only [Function.update_self] using hw, htoken, hrevoked⟩
  | @commit token js pair =>
    have hcommit := h.spent_commit (s := .refresh token js (.done (.tokens pair))) hhere
    simp only [perform, finish, Function.update_self] at hcommit ⊢
    exact hcommit
  | refuse =>
    simp only [perform, finish, Function.update_self]
    exact ⟨_, rfl⟩
  | crash hcrash => exact absurd hcrash (h.not_crash horderly hs)
  | found => simp only [perform, Function.update_self]; trivial
  | issueLogin _ => simp only [perform, put, Function.update_self]; trivial
  | answerLogin => simp only [perform, Function.update_self]; trivial
  | commitLogin => simp only [perform, finish, Function.update_self]; trivial
  | refuseLogin => simp only [perform, finish, Function.update_self]; trivial

theorem kept_perform (h : RotationInv deps jtis d) (ht : Turns deps now (d.view i) (d.client i).state a) (j id : Nat) :
    ((d.perform i a).client j).writes .refreshToken id ≠ some none := by
  intro hw
  by_cases hne : j = i
  · subst hne
    have hset : ∀ {w : Writes Row} {r : RefreshToken} {id' : Nat}, w .refreshToken id ≠ some none →
        (w.set ⟨.refreshToken, id', some r⟩) .refreshToken id ≠ some none := by
      intro w r id' hold hw
      by_cases hid : id = id'
      · subst hid
        rw [Writes.set_self] at hw
        cases hw
      · rw [Writes.set_of_id_ne hid] at hw
        exact hold hw
    generalize (d.client j).state = s at ht
    cases ht with
    | revoke hrow =>
      simp only [perform] at hw
      split at hw
      · simp only [put, Function.update_self, Writes.setAll_cons, Writes.setAll_nil] at hw
        exact hset (h.kept j id) hw
      · exact h.kept j id hw
    | issue _ | issueLogin _ =>
      simp only [perform, put, Function.update_self, Writes.setAll_cons, Writes.setAll_nil] at hw
      exact hset (h.kept j id) hw
    | commit | refuse | crash _ | commitLogin | refuseLogin => simp [perform, finish] at hw
    | _ =>
      simp only [perform, Function.update_self] at hw
      exact h.kept j id hw
  · rw [perform_client_of_ne hne] at hw
    exact h.kept j id hw

theorem issued_perform (h : RotationInv deps jtis d) (ht : Turns deps now (d.view i) (d.client i).state a) (id : Nat)
    (r : RefreshToken) (hr : (d.perform i a).Version .refreshToken id r) :
    ∃ c, c.type = .refresh ∧ RefreshToken.token r = deps.jwt.encode c := by
  rcases h.version_perform ht hr with ⟨r', hr', hsame, -⟩ | ⟨-, -, ⟨-, c, htype, -, henc⟩, -⟩
  · rw [← hsame]
    exact h.issued id r' hr'
  · exact ⟨c, htype, henc⟩

/-- A token just minted is on no row. -/
theorem minted_ne (h : RotationInv deps jtis d) (hpending : (d.client i).state.pending = true) {r r' : RefreshToken}
    {id : Nat} (hminted : Minted deps (jtis i) r) (hr' : d.Version .refreshToken id r') :
    RefreshToken.token r' ≠ r.token := by
  obtain ⟨-, c, -, hjti, henc⟩ := hminted
  intro heq
  exact h.unissued i hpending id r' c hr' (heq.trans henc) hjti

theorem same_perform (h : RotationInv deps jtis d) (ht : Turns deps now (d.view i) (d.client i).state a) (id id' : Nat)
    (r r' : RefreshToken) (hr : (d.perform i a).Version .refreshToken id r)
    (hr' : (d.perform i a).Version .refreshToken id' r') : RefreshToken.token r = RefreshToken.token r' ↔ id = id' := by
  rcases h.version_perform ht hr with ⟨s, hs, hsame, -⟩ | ⟨rfl, hpending, hminted, hnew⟩
  · rcases h.version_perform ht hr' with ⟨s', hs', hsame', -⟩ | ⟨rfl, hpending, hminted, -⟩
    · rw [← hsame, ← hsame']
      exact h.same id id' s s' hs hs'
    · have hne := h.minted_ne hpending hminted hs
      have hlt := h.version_lt hs
      exact ⟨fun heq => absurd (hsame.trans heq) hne, fun heq => absurd heq (Nat.ne_of_lt hlt)⟩
  · rcases h.version_perform ht hr' with ⟨s', hs', hsame', -⟩ | ⟨rfl, -, -, row', s', ha, rfl, -⟩
    · have hne := h.minted_ne hpending hminted hs'
      have hlt := h.version_lt hs'
      exact ⟨fun heq => absurd (hsame'.trans heq.symm) hne, fun heq => absurd heq.symm (Nat.ne_of_lt hlt)⟩
    · -- Both are the row that this step inserts.
      obtain ⟨row, s, rfl, rfl, -⟩ := hnew
      cases ha
      exact ⟨fun _ => rfl, fun _ => rfl⟩

theorem drawn_perform (h : RotationInv deps jtis d) (ht : Turns deps now (d.view i) (d.client i).state a) (j : Nat) :
    ((d.perform i a).client j).state.jtis = jtis j := by
  by_cases hne : j = i
  · subst hne
    have hdrawn := h.drawn j
    refine perform_state (P := fun s : Session => s.jtis = jtis j) hdrawn ?_
    generalize (d.client j).state = s at ht hdrawn
    cases ht <;> first | exact hdrawn | exact fun _ => hdrawn
  · rw [perform_client_of_ne hne]
    exact h.drawn j

/-- A call that has not inserted its token yet did not have it inserted before. -/
theorem pending_perform (ht : Turns deps now (d.view i) (d.client i).state a) {j : Nat}
    (hj : ((d.perform i a).client j).state.pending = true) : (d.client j).state.pending = true := by
  by_cases hne : j = i
  · subst hne
    revert hj
    refine perform_state (P := fun s : Session => s.pending = true → (d.client j).state.pending = true) id ?_
    generalize (d.client j).state = s at ht
    cases ht <;> first | exact fun h => h | exact fun _ => rfl | exact fun _ _ => rfl | exact fun h => by cases h
  · rwa [perform_client_of_ne hne] at hj

theorem unissued_perform (h : RotationInv deps jtis d) (hdistinct : ∀ i j, (jtis i).refresh = (jtis j).refresh → i = j)
    (ht : Turns deps now (d.view i) (d.client i).state a) (j : Nat)
    (hj : ((d.perform i a).client j).state.pending = true) (id : Nat) (r : RefreshToken) (c : IssuedClaims)
    (hr : (d.perform i a).Version .refreshToken id r) (hc : RefreshToken.token r = deps.jwt.encode c) :
    c.jti ≠ (jtis j).refresh := by
  rcases h.version_perform ht hr with ⟨r', hr', hsame, -⟩ | ⟨-, -, ⟨-, c', -, hjti, henc⟩, row, s, rfl, -, hdone⟩
  · exact h.unissued j (pending_perform ht hj) id r' c hr' (hsame.trans hc)
  · obtain rfl : c = c' := deps.jwt.encode_injective c c' (hc.symm.trans henc)
    intro heq
    obtain rfl := hdistinct i j (hjti.symm.trans heq)
    simp only [perform, put, Function.update_self] at hj
    rw [hdone] at hj
    cases hj

/-- Who holds a token after a step held it before, or has just found it usable. -/
theorem holds_perform (ht : Turns deps now (d.view i) (d.client i).state a) {j : Nat} {token : String}
    (hj : ((d.perform i a).client j).state.holds = some token) : (d.client j).state.holds = some token ∨
      j = i ∧ Usable (d.view i) now token ∧ ∃ js claims, (d.client i).state = .refresh token js (.decoded claims) := by
  by_cases hne : j = i
  · subst hne
    revert hj
    refine perform_state (P := fun s : Session => s.holds = some token → _) Or.inl ?_
    generalize (d.client j).state = s at ht
    cases ht with
    | select hrow htoken hlive hexpires =>
      intro hs
      cases hs
      exact Or.inr ⟨rfl, ⟨_, _, hrow, htoken, hlive, hexpires⟩, _, _, rfl⟩
    | issue _ | issueLogin _ => exact fun _ hs => Or.inl hs
    | refuse | crash _ => exact fun hs => by cases hs
    | _ => exact fun hs => Or.inl hs
  · rw [perform_client_of_ne hne] at hj
    exact Or.inl hj

/-- Nobody holds a token that a SELECT finds usable, when nobody has it in hand. -/
theorem not_holds (h : RotationInv deps jtis d) {token : String} {j : Nat} (husable : Usable (d.view i) now token)
    (hhand : (d.client j).state.inHand ≠ some token) : (d.client j).state.holds ≠ some token := by
  intro hj
  have hhere := h.here j
  unfold Session.holds at hj
  split at hj
  · rename_i token' js pair hs
    cases hj
    rw [hs] at hhere
    obtain ⟨id, record, hrow, htoken, hlive, -⟩ := husable
    have hrevoked := hhere.2 id record (version_of_view hrow) htoken
    rw [hlive] at hrevoked
    cases hrevoked
  · exact hhand hj

theorem alone_perform (h : RotationInv deps jtis d) (ht : Turns deps now (d.view i) (d.client i).state a)
    (hlone : LoneSelect d (i, now)) (j k : Nat) (token : String)
    (hj : ((d.perform i a).client j).state.holds = some token) (hk : ((d.perform i a).client k).state.holds = some token) :
    j = k := by
  rcases holds_perform ht hj with hj' | ⟨rfl, husable, js, claims, hs⟩
  · rcases holds_perform ht hk with hk' | ⟨rfl, husable, js, claims, hs⟩
    · exact h.alone j k token hj' hk'
    · by_contra hne
      exact h.not_holds husable (hlone token js claims hs husable j hne) hj'
  · rcases holds_perform ht hk with hk' | ⟨rfl, -⟩
    · by_contra hne
      exact h.not_holds husable (hlone token js claims hs husable k (Ne.symm hne)) hk'
    · rfl

theorem turn (h : RotationInv deps jtis d) (hdistinct : ∀ i j, (jtis i).refresh = (jtis j).refresh → i = j)
    {e : Nat × DateTime} (horderly : Orderly deps d e) : RotationInv deps jtis (Auth.turn deps d e) := by
  have ht : Turns deps e.2 (d.view e.1) (d.client e.1).state (act deps e.2 (d.client e.1).state (d.view e.1)) := act_turns _
  exact
    { wf := h.wf.perform _
      kept := h.kept_perform ht
      issued := h.issued_perform ht
      same := h.same_perform ht
      drawn := h.drawn_perform ht
      unissued := h.unissued_perform hdistinct ht
      here := fun j => by
        by_cases hne : j = e.1
        · subst hne
          exact h.local_own horderly ht
        · have hothers := h.local_others ht hne
          rwa [← perform_client_of_ne hne] at hothers
      alone := h.alone_perform ht horderly.lone }

end RotationInv

/-! ### The law of rotation -/

/-- One call at most is answered with a pair for a token, and any other answer is a 401. -/
structure RotationLaw (d : State) : Prop where
  once : ∀ i j token js js' st st' pair pair', (d.client i).state = .refresh token js st →
    (d.client j).state = .refresh token js' st' → (d.client i).state.answer? = some (.tokens pair) →
      (d.client j).state.answer? = some (.tokens pair') → i = j
  others : ∀ i token js st a, (d.client i).state = .refresh token js st → (d.client i).state.answer? = some a →
    (∃ pair, a = .tokens pair) ∨ ∃ detail, a = unauthorized detail

theorem holds_of_answer {s : Session} {token : String} {js : Jtis} {st : Refresh} {pair : TokenResponse}
    (hs : s = .refresh token js st) (ha : s.answer? = some (.tokens pair)) : s.holds = some token := by
  subst hs
  cases st with
  | answered pair => rfl
  | done a =>
    cases ha
    rfl
  | _ => cases ha

theorem RotationLaw.of_inv {deps : Deps} {jtis : Nat → Jtis} {d : State} (h : RotationInv deps jtis d) : RotationLaw d where
  once i j token js js' st st' pair pair' hi hj hai haj :=
    h.alone i j token (holds_of_answer hi hai) (holds_of_answer hj haj)
  others i token js st a hs ha := by
    have hhere := h.here i
    rw [hs] at hhere ha
    cases st with
    | answered pair =>
      cases ha
      exact Or.inl ⟨pair, rfl⟩
    | done a' =>
      cases ha
      cases a with
      | tokens pair => exact Or.inl ⟨pair, rfl⟩
      | http exc => exact Or.inr hhere
      | raised exc => exact hhere.elim
    | _ => cases ha

theorem Registry.rotationInv {deps : Deps} (registry : Registry deps) (uuids : Uuids registry) (calls : Nat → Call) :
    RotationInv deps uuids.jtis (registry.serve uuids calls) where
  wf := Db.Wf.start registry.fresh
  kept i id hw := by cases hw
  issued id r hr := by
    rcases hr with hr | ⟨i, hw⟩
    · exact registry.issued id r hr
    · cases hw
  same id id' r r' hr hr' := by
    rcases hr with hr | ⟨i, hw⟩
    · rcases hr' with hr' | ⟨i, hw⟩
      · refine ⟨registry.unique id id' r r' hr hr', ?_⟩
        rintro rfl
        exact congrArg _ (Option.some.inj (hr.symm.trans hr'))
      · cases hw
    · cases hw
  drawn i := by
    show ((calls i).open (uuids.jtis i)).jtis = uuids.jtis i
    cases calls i <;> rfl
  unissued i _ id r c hr hc := by
    rcases hr with hr | ⟨i, hw⟩
    · exact uuids.unused i id r c hr hc
    · cases hw
  here i := by
    show Local deps _ i ((calls i).open (uuids.jtis i))
    cases calls i <;> trivial
  alone i j token hi _ := by
    have hnone : ((calls i).open (uuids.jtis i)).holds = none := by cases calls i <;> rfl
    rw [show ((registry.serve uuids calls).client i).state.holds = none from hnone] at hi
    cases hi

/-- When no call finds a token usable that another call has in hand, and PyJWT raises nothing unforeseen, each token buys
    one pair at most. -/
theorem rotation_law_of_lone_select (deps : Deps) (registry : Registry deps) (uuids : Uuids registry) (calls : Nat → Call)
    (es : List (Nat × DateTime)) (horderly : Meets (turn deps) (Orderly deps) (registry.serve uuids calls) es) :
    ∀ d ∈ states (turn deps) (registry.serve uuids calls) es, RotationLaw d := fun d hd =>
  .of_inv (horderly.states (registry.rotationInv uuids calls) (fun _ _ h hok => h.turn uuids.distinct hok) d hd)

/-! ### One token, two pairs -/

/-- One second after the epoch. -/
def dawn : DateTime := ⟨62135596801000000, some 0⟩

/-- Readable tokens, and passwords stored as they are. -/
def readableDeps : Deps := ⟨.readable, {}, fun password passwordHash => password = passwordHash⟩

/-- The claims of a stored token. -/
def adaClaims : IssuedClaims := ⟨"ada", .str "ROLE_USER", .refresh, "j0", 0, 2592000⟩

def adaToken : String := PyJwt.readable.encode adaClaims

/-- A registry with one token, issued at the epoch for thirty days. -/
def oneToken : Registry readableDeps where
  rows
    | .refreshToken, 1 => some ⟨adaToken, "ada", dawn.addSeconds 2592000, false, dawn⟩
    | _, _ => none
  seq _ := 2
  fresh t id h := by
    rcases id with _ | _ | id
    · cases h
    · simp at h
    · cases t <;> rfl
  issued id r h := by
    match id with
    | 0 => cases h
    | 1 =>
      cases h
      exact ⟨adaClaims, rfl, rfl⟩
    | id + 2 => cases h
  unique id id' r r' h h' _ := by
    match id, id' with
    | 1, 1 => rfl
    | 0, _ => cases h
    | id + 2, _ => cases h
    | _, 0 => cases h'
    | _, id' + 2 => cases h'

theorem letters_injective {i j : Nat} (h : String.ofList (List.replicate i 'a') = String.ofList (List.replicate j 'a')) :
    i = j := by
  have hlist := congrArg String.toList h
  rw [String.toList_ofList, String.toList_ofList] at hlist
  have hlength := congrArg List.length hlist
  rwa [List.length_replicate, List.length_replicate] at hlength

/-- The refresh token of call `i` gets the `uuid4` made of `i` letters. -/
def letters : Uuids oneToken where
  jtis i := ⟨"", String.ofList (List.replicate i 'a'), dawn, dawn⟩
  distinct _ _ h := letters_injective h
  unused i id r c h hc := by
    have hada : c = adaClaims := by
      match id with
      | 0 => cases h
      | 1 =>
        cases h
        exact (PyJwt.readable.encode_injective adaClaims c hc).symm
      | id + 2 => cases h
    subst hada
    intro h
    have hlist := congrArg String.toList h
    rw [String.toList_ofList] at hlist
    have hmem : 'j' ∈ List.replicate i 'a' := by
      rw [← hlist]
      decide
    exact absurd (List.eq_of_mem_replicate hmem) (by decide)

def bothCalls : State := oneToken.serve letters fun _ => .refresh adaToken

/-- The calls take their steps in this order, all at dawn. -/
def at_dawn (clients : List Nat) : List (Nat × DateTime) := clients.map fun i => (i, dawn)

/-- Both calls check the token before either has revoked it. -/
def crossedRefresh : List (Nat × DateTime) := at_dawn [0, 0, 1, 1, 0, 0, 0, 0, 1, 1, 1, 1]

theorem two_pairs_for_one_token : ¬∀ (deps : Deps) (registry : Registry deps) (uuids : Uuids registry)
    (calls : Nat → Call) (es : List (Nat × DateTime)),
      ∀ d ∈ states (turn deps) (registry.serve uuids calls) es, RotationLaw d := by
  intro h
  have hlaw := h readableDeps oneToken letters (fun _ => .refresh adaToken) crossedRefresh _ (run_mem_states _ _)
  have honce := hlaw.once 0 1 adaToken _ _ _ _ _ _ rfl rfl rfl rfl
  cases honce

/-- A readable token is read, or is an `InvalidTokenError`. -/
theorem readable_decodes (now : DateTime) (token : String) (expectedType : TokenType) (exc : String) :
    decodeToken .readable now token expectedType ≠ .error (.raised exc) := by
  intro h
  unfold decodeToken at h
  split at h
  · cases h
  · cases h
  · rename_i exc' hraised
    simp only [PyJwt.readable] at hraised
    split at hraised
    · cases hraised
    · split at hraised
      · cases hraised
      · split at hraised <;> cases hraised
  · split at h <;> cases h

/-- A call is alone with its token when the calls that have taken steps have none in hand. -/
theorem lone_select_at_dawn (clients : List Nat) {i : Nat} (h : ∀ j ∈ clients, j ≠ i →
    ((run (turn readableDeps) bothCalls (at_dawn clients)).client j).state.inHand = none) :
    LoneSelect (run (turn readableDeps) bothCalls (at_dawn clients)) (i, dawn) := by
  intro token js claims _ _ j hne
  have hnone : ((run (turn readableDeps) bothCalls (at_dawn clients)).client j).state.inHand = none := by
    by_cases hj : j ∈ clients
    · exact h j hj hne
    · rw [run_eq (f := fun s : State => s.client j) fun e he s => ?_]
      · rfl
      · obtain ⟨k, hk, rfl⟩ := List.mem_map.mp he
        refine perform_client_of_ne (i := k) ?_
        rintro rfl
        exact hj hk
  rw [hnone]
  exact fun hsome => by cases hsome

/-- The schedule is admitted when at each step the others that have taken steps have no token in hand. -/
theorem meets_at_dawn (clients : List Nat) (h : ∀ k < clients.length, ∀ j ∈ clients.take k, some j ≠ clients[k]? →
    ((run (turn readableDeps) bothCalls (at_dawn (clients.take k))).client j).state.inHand = none) :
    Meets (turn readableDeps) (Orderly readableDeps) bothCalls (at_dawn clients) := by
  refine meets_of_take fun k e he => ?_
  rw [at_dawn, List.getElem?_map] at he
  obtain ⟨i, hi, rfl⟩ := Option.map_eq_some_iff.mp he
  rw [at_dawn, ← List.map_take]
  refine ⟨fun _ _ _ _ => readable_decodes _ _ _ _, lone_select_at_dawn (clients.take k) fun j hj hne => ?_⟩
  obtain ⟨hk, -⟩ := List.getElem?_eq_some_iff.mp hi
  exact h k hk j hj (by simpa [hi] using hne)

theorem rotated_once : RotationLaw (run (turn readableDeps) bothCalls (at_dawn [0, 0, 0, 0, 0, 0, 1, 1])) :=
  rotation_law_of_lone_select readableDeps oneToken letters (fun _ => .refresh adaToken) _
    (meets_at_dawn [0, 0, 0, 0, 0, 0, 1, 1] (by decide)) _ (run_mem_states _ _)

end IrisService.Auth
