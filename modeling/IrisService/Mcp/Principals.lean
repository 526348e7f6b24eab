import IrisService.Auth.Deps
import IrisService.Mcp.Auth

/-! One request at the REST handlers and at the MCP server: `ApiKeyMiddleware`, then `current_user` on the one side
and `verify_token` on the other. -/

namespace IrisService.Mcp
open Auth

/-- The bearer token that `HTTPBearer` and the SDK's `BearerAuthBackend` find in the headers of a request. -/
structure BearerScheme where
  credentials : List Header → Option HTTPAuthorizationCredentials
  scheme : ∀ headers creds, credentials headers = some creds → Str.lower creds.scheme = "bearer"
  /-- The only `Authorization` header is the last one and says `Bearer` and a token. -/
  injected : ∀ headers token value, (∀ header ∈ headers, header.1 ≠ authorization) → token ≠ "" →
    latin1Encode token = some value →
    (credentials (headers ++ [(authorization, bytes "Bearer " ++ value)])).map
      HTTPAuthorizationCredentials.credentials = some token

/-- What both surfaces are configured with. -/
structure Surfaces where
  jwt : Jwt
  bearer : BearerScheme
  apiKey : String

namespace Surfaces
variable (surfaces : Surfaces) (now : DateTime) (headers : List Header)

/-- The scope of a request as the server makes it. -/
def scope (headers : List Header) : Scope := ⟨"http", headers, none⟩

/-- The caller as the REST routes see it. -/
def restCaller : RestCaller :=
  match apiKeyMiddleware surfaces.apiKey (scope headers) with
  | .error exc => .raised exc
  | .ok scope => currentUser surfaces.jwt.toPyJwt now scope.apiKeyUser (surfaces.bearer.credentials scope.headers)

/-- The caller as the MCP server sees it. -/
def mcpCaller : Verified :=
  match apiKeyMiddleware surfaces.apiKey (scope headers) with
  | .error exc => .raised exc
  | .ok scope => match surfaces.bearer.credentials scope.headers with
    | none => .rejected
    | some creds => verifyToken surfaces.jwt surfaces.apiKey now creds.credentials

end Surfaces

/-- Both surfaces know the caller by the same name and role, or both turn the request away. -/
inductive SamePrincipal : RestCaller → Verified → Prop where
  | user (username role : String) (access : AccessToken) :
      SamePrincipal (.user ⟨.str username, .str role⟩) (.accepted ⟨username, role⟩ access)
  | unauthorized (detail : Detail) : SamePrincipal (.http ⟨401, detail⟩) .rejected

/-- The token has the claims of a caller. -/
structure Names (claims : JwtClaims) (username role : String) : Prop where
  sub : claims "sub" = some (.str username)
  role : claims "role" = some (.str role)

/-- A bearer token on which the surfaces agree: PyJWT raises nothing unforeseen on it; an API key has to name the same
    principal as a token too, any other token is rejected, or its `sub` and `role` are strings and not empty. -/
def Surfaces.Agreed (surfaces : Surfaces) (now : DateTime) (token : String) : Prop :=
  match decodeToken surfaces.jwt.toPyJwt now token .access with
  | .error (.jwtError _) => surfaces.apiKey ≠ "" → token ≠ surfaces.apiKey
  | .error (.raised _) => False
  | .ok claims =>
    if surfaces.apiKey ≠ "" ∧ token = surfaces.apiKey then Names claims apiKeyUsername roleAdmin
    else ∃ username role, username ≠ "" ∧ role ≠ "" ∧ Names claims username role

variable {surfaces : Surfaces} {now : DateTime} {headers : List Header}

/-! ### A key that matches -/

theorem samePrincipal_of_matches (h : KeyMatches surfaces.apiKey (Surfaces.scope headers)) :
    SamePrincipal (surfaces.restCaller now headers) (surfaces.mcpCaller now headers) := by
  obtain ⟨value, hvalue, hcall⟩ := apiKeyMiddleware_of_matches rfl h
  have hcredentials := surfaces.bearer.injected
    ((Surfaces.scope headers).headers.filter fun header => header.1 ≠ authorization) surfaces.apiKey value
    (fun header hheader => by simpa using (List.mem_filter.mp hheader).2) h.1 hvalue
  obtain ⟨creds, hcreds, htoken⟩ := Option.map_eq_some_iff.mp hcredentials
  obtain ⟨access, haccess⟩ := verifyToken_apiKey surfaces.jwt h.1 now
  have hrest : surfaces.restCaller now headers = .user ⟨.str apiKeyUsername, .str apiKeyRole⟩ := by
    rw [Surfaces.restCaller, hcall]
    rfl
  have hmcp : surfaces.mcpCaller now headers = .accepted ⟨apiKeyUsername, roleAdmin⟩ access := by
    rw [Surfaces.mcpCaller, hcall]
    dsimp only
    rw [hcreds]
    dsimp only
    rw [htoken, haccess]
  rw [hrest, hmcp]
  exact .user apiKeyUsername roleAdmin access

/-! ### Tokens -/

theorem currentUser_ok {jwt : PyJwt} {creds : HTTPAuthorizationCredentials} {claims : JwtClaims}
    (hscheme : Str.lower creds.scheme = "bearer") (h : decodeToken jwt now creds.credentials .access = .ok claims) :
    currentUser jwt now none (some creds) = match claims "sub", claims "role" with
      | some sub, some role => .user ⟨sub, role⟩
      | _, _ => .raised "KeyError" := by
  refine (if_neg (not_not.mpr hscheme)).trans ?_
  generalize decodeToken jwt now creds.credentials .access = decoded at h
  subst h
  rfl

theorem currentUser_error {jwt : PyJwt} {creds : HTTPAuthorizationCredentials} {detail : String}
    (hscheme : Str.lower creds.scheme = "bearer")
    (h : decodeToken jwt now creds.credentials .access = .error (.jwtError detail)) :
    currentUser jwt now none (some creds) = .http ⟨401, .text detail⟩ := by
  simp only [currentUser, hscheme, ne_eq, not_true_eq_false, if_false, h]

theorem currentUser_raised {jwt : PyJwt} {creds : HTTPAuthorizationCredentials} {exc : String}
    (hscheme : Str.lower creds.scheme = "bearer")
    (h : decodeToken jwt now creds.credentials .access = .error (.raised exc)) :
    currentUser jwt now none (some creds) = .raised exc := by
  simp only [currentUser, hscheme, ne_eq, not_true_eq_false, if_false, h]

/-- The name and the role that a handler is given are those of the token. -/
theorem names_of_samePrincipal {jwt : PyJwt} {creds : HTTPAuthorizationCredentials} {claims : JwtClaims} {mcp : Verified}
    (hscheme : Str.lower creds.scheme = "bearer") (hclaims : decodeToken jwt now creds.credentials .access = .ok claims)
    (h : SamePrincipal (currentUser jwt now none (some creds)) mcp) :
    ∃ username role access, Names claims username role ∧ mcp = .accepted ⟨username, role⟩ access := by
  rw [currentUser_ok hscheme hclaims] at h
  split at h
  · rename_i sub role hsub hrole
    cases h with
    | user username role access => exact ⟨username, role, access, ⟨hsub, hrole⟩, rfl⟩
  · cases h

theorem samePrincipal_of_names {jwt : PyJwt} {creds : HTTPAuthorizationCredentials} {claims : JwtClaims}
    {username role : String} (hscheme : Str.lower creds.scheme = "bearer")
    (hclaims : decodeToken jwt now creds.credentials .access = .ok claims) (h : Names claims username role)
    (access : AccessToken) : SamePrincipal (currentUser jwt now none (some creds)) (.accepted ⟨username, role⟩ access) := by
  rw [currentUser_ok hscheme hclaims, h.sub, h.role]
  exact .user username role access

theorem verifyToken_error {jwt : Jwt} {apiKey token detail : String} (hkey : ¬ (apiKey ≠ "" ∧ token = apiKey))
    (h : decodeToken jwt.toPyJwt now token .access = .error (.jwtError detail)) :
    verifyToken jwt apiKey now token = .rejected := by
  rw [verifyToken, if_neg hkey, h]

theorem verifyToken_names {jwt : Jwt} {apiKey token username role : String} {claims : JwtClaims}
    (hkey : ¬ (apiKey ≠ "" ∧ token = apiKey)) (hclaims : decodeToken jwt.toPyJwt now token .access = .ok claims)
    (h : Names claims username role) : (∃ access, verifyToken jwt apiKey now token = .accepted ⟨username, role⟩ access) ↔
      username ≠ "" ∧ role ≠ "" := by
  have hverify : verifyToken jwt apiKey now token =
      if username = "" ∨ role = "" then .rejected
      else (jwt.expiresAt claims now).elim (.raised "ValueError")
        fun expiresAt => .accepted ⟨username, role⟩ ⟨token, username, scopesOf role, expiresAt⟩ := by
    obtain rfl : claimText claims "sub" = username := claimText_str h.sub
    obtain rfl : claimText claims "role" = role := claimText_str h.role
    refine (if_neg hkey).trans ?_
    generalize decodeToken jwt.toPyJwt now token .access = decoded at hclaims
    subst hclaims
    refine if_congr Iff.rfl rfl ?_
    cases jwt.expiresAt claims now <;> rfl
  rw [hverify]
  by_cases hempty : username = "" ∨ role = ""
  · rw [if_pos hempty]
    constructor
    · rintro ⟨access, haccess⟩
      cases haccess
    · intro hnames
      exact absurd hempty (not_or.mpr hnames)
  · rw [if_neg hempty]
    obtain ⟨expiresAt, hexpires⟩ := Option.ne_none_iff_exists'.mp (expiresAt_of_decode hclaims)
    rw [hexpires]
    exact ⟨fun _ => not_or.mp hempty, fun _ => ⟨_, rfl⟩⟩

theorem samePrincipal_token {creds : HTTPAuthorizationCredentials} (hscheme : Str.lower creds.scheme = "bearer") :
    SamePrincipal (currentUser surfaces.jwt.toPyJwt now none (some creds))
      (verifyToken surfaces.jwt surfaces.apiKey now creds.credentials) ↔ surfaces.Agreed now creds.credentials := by
  unfold Surfaces.Agreed
  by_cases hkey : surfaces.apiKey ≠ "" ∧ creds.credentials = surfaces.apiKey
  · obtain ⟨access, haccess⟩ := verifyToken_apiKey surfaces.jwt hkey.1 now
    have htoken : verifyToken surfaces.jwt surfaces.apiKey now creds.credentials =
        .accepted ⟨apiKeyUsername, roleAdmin⟩ access := by
      rw [hkey.2]
      exact haccess
    rw [htoken]
    cases hclaims : decodeToken surfaces.jwt.toPyJwt now creds.credentials .access with
    | error e =>
      cases e with
      | jwtError detail =>
        rw [currentUser_error hscheme hclaims]
        constructor
        · intro h
          cases h
        · intro h
          exact absurd hkey.2 (h hkey.1)
      | raised exc =>
        rw [currentUser_raised hscheme hclaims]
        exact iff_of_false nofun id
    | ok claims =>
      dsimp only
      rw [if_pos hkey]
      constructor
      · intro h
        obtain ⟨username, role, access', hnames, hsame⟩ := names_of_samePrincipal hscheme hclaims h
        cases hsame
        exact hnames
      · intro h
        exact samePrincipal_of_names hscheme hclaims h access
  · cases hclaims : decodeToken surfaces.jwt.toPyJwt now creds.credentials .access with
    | error e =>
      cases e with
      | jwtError detail =>
        rw [currentUser_error hscheme hclaims, verifyToken_error hkey hclaims]
        exact ⟨fun _ hset hsame => hkey ⟨hset, hsame⟩, fun _ => .unauthorized (.text detail)⟩
      | raised exc =>
        rw [currentUser_raised hscheme hclaims]
        exact iff_of_false nofun id
    | ok claims =>
      dsimp only
      rw [if_neg hkey]
      constructor
      · intro h
        obtain ⟨username, role, access, hnames, hsame⟩ := names_of_samePrincipal hscheme hclaims h
        obtain ⟨husername, hrole⟩ := (verifyToken_names hkey hclaims hnames).mp ⟨access, hsame⟩
        exact ⟨username, role, husername, hrole, hnames⟩
      · rintro ⟨username, role, husername, hrole, hnames⟩
        obtain ⟨access, haccess⟩ := (verifyToken_names hkey hclaims hnames).mpr ⟨husername, hrole⟩
        rw [haccess]
        exact samePrincipal_of_names hscheme hclaims hnames access

/-- The surfaces know one principal exactly when the key header matches, or there is no bearer token, or they agree
    on the token. -/
theorem samePrincipal_iff (surfaces : Surfaces) (now : DateTime) (headers : List Header) :
    SamePrincipal (surfaces.restCaller now headers) (surfaces.mcpCaller now headers) ↔
      KeyMatches surfaces.apiKey (Surfaces.scope headers) ∨
        ∀ creds, surfaces.bearer.credentials headers = some creds → surfaces.Agreed now creds.credentials := by
  by_cases hkey : KeyMatches surfaces.apiKey (Surfaces.scope headers)
  · exact ⟨fun _ => Or.inl hkey, fun _ => samePrincipal_of_matches hkey⟩
  · rw [or_iff_right hkey, Surfaces.restCaller, Surfaces.mcpCaller, apiKeyMiddleware_of_not_matches hkey]
    show SamePrincipal (currentUser surfaces.jwt.toPyJwt now none (surfaces.bearer.credentials headers))
      (match surfaces.bearer.credentials headers with
        | none => .rejected
        | some creds => verifyToken surfaces.jwt surfaces.apiKey now creds.credentials) ↔ _
    cases hcreds : surfaces.bearer.credentials headers with
    | none =>
      constructor
      · intro _ creds hsome
        cases hsome
      · intro _
        exact .unauthorized (.text "Missing Bearer token")
    | some creds =>
      rw [samePrincipal_token (surfaces.bearer.scheme headers creds hcreds)]
      constructor
      · rintro h creds' hsame
        cases hsame
        exact h
      · intro h
        exact h creds rfl

/-! ### A token without a role -/

/-- The scheme up to the first blank, the credentials after it. -/
def plainCredentials (value : String) : Option HTTPAuthorizationCredentials :=
  let scheme := String.ofList (value.toList.takeWhile (· ≠ ' '))
  let credentials := String.ofList (value.toList.dropWhile (· ≠ ' ')).tail
  if Str.lower scheme = "bearer" ∧ credentials ≠ "" then some ⟨scheme, credentials⟩ else none

theorem plainCredentials_bearer {token : String} (h : token ≠ "") :
    plainCredentials ("Bearer " ++ token) = some ⟨"Bearer", token⟩ := by
  have hscheme : Str.lower "Bearer" = "bearer" := by decide
  simp [plainCredentials, h, hscheme]

/-- The first `Authorization` header. -/
def BearerScheme.plain : BearerScheme where
  credentials headers := (headers.find? fun header => header.1 = authorization).bind fun header =>
    plainCredentials (latin1Decode header.2)
  scheme headers creds h := by
    obtain ⟨header, -, hcreds⟩ := Option.bind_eq_some_iff.mp h
    simp only [plainCredentials] at hcreds
    split at hcreds
    · rename_i hbearer
      cases hcreds
      exact hbearer.1
    · cases hcreds
  injected headers token value hothers htoken hvalue := by
    have hnone : headers.find? (fun header => header.1 = authorization) = none := by simpa using hothers
    have hlatin : latin1Encode "Bearer " = some (bytes "Bearer ") := by decide
    have hdecode : latin1Decode (bytes "Bearer " ++ value) = "Bearer " ++ token :=
      latin1Decode_encode (latin1Encode_append hlatin hvalue)
    simp [hnone, hdecode, plainCredentials_bearer htoken]

def rolelessClaims : JwtClaims
  | "sub" => some (.str "ada")
  | "type" => some (.str "access")
  | _ => none

theorem readable_ne (text : String) {c : Char} {rest : List Char} (htext : text.toList = c :: rest) (h0 : c ≠ '0')
    (h1 : c ≠ '1') (claims : IssuedClaims) : PyJwt.readable.encode claims ≠ text := by
  intro h
  have hlist : Readable.write claims = c :: rest := by
    rw [← htext, ← h]
    exact String.toList_ofList.symm
  unfold Readable.write at hlist
  cases hsub : claims.sub.toList with
  | nil => simp [hsub, Readable.escape, h0.symm] at hlist
  | cons x xs => simp [hsub, Readable.escape, h1.symm] at hlist

/-- Readable tokens, and one that was signed without a role. -/
def roleless : Jwt where
  encode := PyJwt.readable.encode
  decode now token := if token = "roleless" then .ok rolelessClaims else PyJwt.readable.decode now token
  encode_injective := PyJwt.readable.encode_injective
  decode_encode now c := by
    rw [if_neg (readable_ne "roleless" rfl (by decide) (by decide) c)]
    exact PyJwt.readable.decode_encode now c
  int
    | .num n => some n
    | _ => none
  int_exp now token claims exp hdecode hexp := by
    split at hdecode
    · cases hdecode
      cases hexp
    · simp only [PyJwt.readable] at hdecode
      split at hdecode
      · cases hdecode
      · split at hdecode
        · cases hdecode
        · split at hdecode
          · cases hdecode
          · cases hdecode
            cases hexp
            simp

/-- A token that carries them. -/
def rolelessSurfaces : Surfaces := ⟨roleless, .plain, "demo-api-key-2026"⟩

/-- `current_user` raises a `KeyError`; `verify_token` rejects the token. -/
theorem not_samePrincipal_roleless :
    ¬ ∀ (surfaces : Surfaces) (now : DateTime) (headers : List Header), surfaces.apiKey ≠ "" →
    SamePrincipal (surfaces.restCaller now headers) (surfaces.mcpCaller now headers) := by
  intro h
  have hsame := h rolelessSurfaces ⟨0, some 0⟩ [(authorization, bytes "Bearer roleless")] (by decide)
  have hrest : rolelessSurfaces.restCaller ⟨0, some 0⟩ [(authorization, bytes "Bearer roleless")] = .raised "KeyError" := by
    decide
  rw [hrest] at hsame
  cases hsame

end IrisService.Mcp
