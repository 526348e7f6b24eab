import IrisService.Auth.ApiKey
import IrisService.Auth.Jwt

/-! `mcp/auth.py`: the verifier of the bearer tokens of the MCP server, and the identity that the tools read. -/

namespace IrisService.Mcp
open Auth

/-- `ROLE_USER` -/
def roleUser : String := "ROLE_USER"

/-- `ROLE_ADMIN` -/
def roleAdmin : String := "ROLE_ADMIN"

/-- `API_KEY_TOKEN_TTL_SECONDS` -/
def apiKeyTokenTtlSeconds : Int := 3600

/-- The caller of a tool. -/
structure McpUser where
  username : String
  role : String
  deriving DecidableEq, Repr

/-- What `get_current_user` and `require_role` raise. -/
inductive McpError where
  | auth (text : String)
  | forbidden (text : String)
  deriving DecidableEq, Repr

/-- What the SDK is handed for a token that is accepted. -/
structure AccessToken where
  token : String
  clientId : String
  scopes : List String
  expiresAt : Int
  deriving DecidableEq, Repr

/-- PyJWT with `int()` on a claim, `none` where that raises. PyJWT lets no `exp` pass that `int()` refuses. -/
structure Jwt extends PyJwt where
  int : Json → Option Int
  int_exp : ∀ now token claims exp, decode now token = .ok claims → claims "exp" = some exp → int exp ≠ none

/-- How `verify_token` ends; a token that is accepted sets the context variable `_current_user`. -/
inductive Verified where
  | accepted (user : McpUser) (access : AccessToken)
  | rejected
  | raised (exc : String)
  deriving DecidableEq, Repr

/-- `str(claims.get(name) or "")` -/
def claimText (claims : JwtClaims) (name : String) : String :=
  match claims name with
  | none => ""
  | some value => if value.truthy then value.text else ""

/-- `int(claims.get("exp") or (time.time() + 60))` -/
def Jwt.expiresAt (jwt : Jwt) (claims : JwtClaims) (now : DateTime) : Option Int :=
  match claims "exp" with
  | none => some (now.seconds + 60)
  | some exp => if exp.truthy then jwt.int exp else some (now.seconds + 60)

/-- The scopes of a role; an admin has those of a user too. -/
def scopesOf (role : String) : List String := if role = roleAdmin then [roleUser, roleAdmin] else [role]

/-- `McpTokenVerifier.verify_token` -/
def verifyToken (jwt : Jwt) (apiKey : String) (now : DateTime) (token : String) : Verified :=
  if apiKey ≠ "" ∧ token = apiKey then
    .accepted ⟨apiKeyUsername, roleAdmin⟩
      ⟨token, apiKeyUsername, [roleUser, roleAdmin], now.seconds + apiKeyTokenTtlSeconds⟩
  else match decodeToken jwt.toPyJwt now token .access with
    | .error (.jwtError _) => .rejected
    | .error (.raised exc) => .raised exc
    | .ok claims =>
      let username := claimText claims "sub"
      let role := claimText claims "role"
      if username = "" ∨ role = "" then .rejected
      else match jwt.expiresAt claims now with
        | none => .raised "ValueError"
        | some expiresAt => .accepted ⟨username, role⟩ ⟨token, username, scopesOf role, expiresAt⟩

/-- `get_current_user`, in a context where the variable has this value. -/
def getCurrentUser : Option McpUser → Except McpError McpUser
  | none => .error (.auth "No authenticated user — token verifier did not run")
  | some user => .ok user

/-- `require_role` of `mcp/auth.py`: the role has to be the very one. -/
def requireRole (currentUser : Option McpUser) (role : String) : Except McpError Unit :=
  match getCurrentUser currentUser with
  | .error e => .error e
  | .ok user =>
    if user.role = role then .ok ()
    else .error (.forbidden ("Tool requires role " ++ role ++ ", current role is " ++ user.role))

/-! ### Claims -/

/-- Only a string is its own text. -/
theorem claimText_str {claims : JwtClaims} {name s : String} (h : claims name = some (.str s)) :
    claimText claims name = s := by
  by_cases hs : s = ""
  · simp [claimText, h, Json.truthy, hs]
  · simp [claimText, h, Json.truthy, Json.text, hs]

/-- Whatever is decoded has an expiry that can be handed on. -/
theorem expiresAt_of_decode {jwt : Jwt} {now : DateTime} {token : String} {claims : JwtClaims}
    (h : decodeToken jwt.toPyJwt now token .access = .ok claims) : jwt.expiresAt claims now ≠ none := by
  have hdecode : jwt.decode now token = .ok claims := by
    unfold decodeToken at h
    split at h
    · cases h
    · cases h
    · cases h
    · rename_i claims' hdecode
      split at h
      · cases h
        exact hdecode
      · cases h
  unfold Jwt.expiresAt
  split
  · simp
  · rename_i exp hexp
    split
    · exact jwt.int_exp now token claims exp hdecode hexp
    · simp

theorem verifyToken_apiKey (jwt : Jwt) {apiKey : String} (h : apiKey ≠ "") (now : DateTime) :
    ∃ access, verifyToken jwt apiKey now apiKey = .accepted ⟨apiKeyUsername, roleAdmin⟩ access :=
  ⟨_, if_pos ⟨h, rfl⟩⟩

end IrisService.Mcp
