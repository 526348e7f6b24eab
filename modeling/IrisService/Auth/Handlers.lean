import IrisService.Auth.Jwt
import IrisService.Http
import IrisService.Orders.OrderHandlers

/-! `auth/router.py`: login, and the rotation of refresh tokens, on one store. -/

namespace IrisService.Auth
open ReadCommitted Orders

/-- The body of an answered login or refresh. -/
structure TokenResponse where
  accessToken : String
  refreshToken : String
  tokenType : String := "Bearer"
  expiresIn : Nat
  deriving DecidableEq

/-- What a call is answered. -/
inductive Answer where
  | tokens (pair : TokenResponse)
  | http (exc : HTTPException)
  /-- An exception that no handler catches, by its class. -/
  | raised (exc : String)
  deriving DecidableEq

/-- A 401 with its detail. -/
def unauthorized (detail : String) : Answer := .http ⟨401, .text detail⟩

/-- What the handlers are given: PyJWT, the settings, and bcrypt's `verify_password`. -/
structure Deps where
  jwt : PyJwt
  settings : JwtSettings
  verifyPassword : String → String → Bool

/-- The `uuid4` values that a call draws for its two tokens. It reads the clock for each of them, and for the row of the
    second one. -/
structure Jtis where
  access : String
  refresh : String
  /-- The clock when the refresh token is signed -/
  signed : DateTime
  /-- The clock when its row is made -/
  stored : DateTime
  deriving DecidableEq

/-- The rows with the token; `refresh_token.token` is UNIQUE. -/
def withToken (v : View Row) (token : String) : List (Nat × RefreshToken) :=
  (select v .refreshToken).filter fun r => r.2.token = token

/-- A row of `refresh_token` as it is inserted. -/
def newToken (token username : String) (expiresAt now : DateTime) : RefreshToken where
  token := token
  username := username
  expiresAt := expiresAt
  revoked := false
  createdAt := now

/-- `_issue_token_pair`; `now` is its first reading of the clock. -/
def issueTokenPair {S : Type} (deps : Deps) (username : String) (role : Json) (jtis : Jtis) (now : DateTime)
    (v : View Row) (flushed : TokenResponse → S) (failed : Answer → S) : Action Row S :=
  let (accessToken, accessTtl) := issueAccessToken deps.jwt deps.settings username role now jtis.access
  let (refreshToken, refreshTtl) := issueRefreshToken deps.jwt deps.settings username role jtis.signed jtis.refresh
  if (withToken v refreshToken).isEmpty then
    .insert .refreshToken (fun _ => newToken refreshToken username (jtis.stored.addSeconds refreshTtl) now) fun _ =>
      flushed { accessToken := accessToken, refreshToken := refreshToken, expiresIn := accessTtl }
  else .rollback (failed (.raised "IntegrityError"))

/-! ### login -/

/-- The point that a login has come to. -/
inductive Login where
  | start
  | checked (user : AppUser)
  | flushed (pair : TokenResponse)
  /-- The response is sent; the session is committed after it. -/
  | answered (pair : TokenResponse)
  | done (a : Answer)

/-- `login`: the account by its name, the password, then the pair. -/
def login (deps : Deps) (username password : String) (jtis : Jtis) (now : DateTime) : Login → View Row → Action Row Login
  | .start, v =>
    match (select v .appUser).filter fun u => u.2.username = username with
    | [] => .rollback (.done (unauthorized "Invalid credentials"))
    | [(_, user)] =>
      if !user.enabled || !deps.verifyPassword password user.passwordHash then
        .rollback (.done (unauthorized "Invalid credentials"))
      else .next (.checked user)
    | _ => .rollback (.done (.raised "MultipleResultsFound"))
  | .checked user, v => issueTokenPair deps user.username (.str user.role) jtis now v .flushed .done
  | .flushed pair, _ => .next (.answered pair)
  | .answered pair, _ => .commit (.done (.tokens pair))
  | .done a, _ => .next (.done a)

/-! ### refresh -/

/-- The point that a refresh has come to. -/
inductive Refresh where
  | start
  | decoded (claims : JwtClaims)
  | checked (claims : JwtClaims) (id : Nat) (record : RefreshToken)
  | revoked (claims : JwtClaims)
  | flushed (pair : TokenResponse)
  /-- The response is sent; the session is committed after it. -/
  | answered (pair : TokenResponse)
  | done (a : Answer)

/-- `refresh`: the token is decoded, its row read and checked, revoked by its primary key, and a new pair issued. -/
def refresh (deps : Deps) (refreshToken : String) (jtis : Jtis) (now : DateTime) : Refresh → View Row → Action Row Refresh
  | .start, _ =>
    match decodeToken deps.jwt now refreshToken .refresh with
    | .error (.jwtError detail) => .rollback (.done (unauthorized detail))
    | .error (.raised exc) => .rollback (.done (.raised exc))
    | .ok claims => .next (.decoded claims)
  | .decoded claims, v =>
    match withToken v refreshToken with
    | [] => .rollback (.done (unauthorized "Refresh token revoked or expired"))
    | [(id, record)] =>
      if record.revoked || record.expiresAt.utc < now.utc then
        .rollback (.done (unauthorized "Refresh token revoked or expired"))
      else .next (.checked claims id record)
    | _ => .rollback (.done (.raised "MultipleResultsFound"))
  | .checked claims id _, v =>
    update v .refreshToken id (fun row => { row with revoked := true }) (.revoked claims)
      (.done (.raised "StaleDataError"))
  | .revoked claims, v =>
    match claims "sub", claims "role" with
    | some (.str username), some role => issueTokenPair deps username role jtis now v .flushed .done
    -- The driver takes no other value for the `username` column.
    | some _, some _ => .rollback (.done (.raised "DBAPIError"))
    | _, _ => .rollback (.done (.raised "KeyError"))
  | .flushed pair, _ => .next (.answered pair)
  | .answered pair, _ => .commit (.done (.tokens pair))
  | .done a, _ => .next (.done a)

/-! ### The calls -/

/-- A call, with its body. -/
inductive Call where
  | login (username password : String)
  | refresh (refreshToken : String)
  deriving DecidableEq

/-- A call, with what it draws and the point it has come to. -/
inductive Session where
  | login (username password : String) (jtis : Jtis) (at_ : Login)
  | refresh (refreshToken : String) (jtis : Jtis) (at_ : Refresh)

/-- A call that has just been received. -/
def Call.open (jtis : Jtis) : Call → Session
  | .login username password => .login username password jtis .start
  | .refresh refreshToken => .refresh refreshToken jtis .start

/-- What a session does next, when it reads the clock at `now`. -/
def act (deps : Deps) (now : DateTime) (s : Session) (v : View Row) : Action Row Session :=
  match s with
  | .login username password jtis st => (login deps username password jtis now st v).map (.login username password jtis)
  | .refresh refreshToken jtis st => (refresh deps refreshToken jtis now st v).map (.refresh refreshToken jtis)

/-- What the call is answered, from the response on. -/
def Session.answer? : Session → Option Answer
  | .login _ _ _ (.answered pair) | .refresh _ _ (.answered pair) => some (.tokens pair)
  | .login _ _ _ (.done a) | .refresh _ _ (.done a) => some a
  | _ => none

/-- The same call, ended with the driver's exception, unless it is over. -/
def Session.refused : Session → Session
  | .login username password jtis (.done a) => .login username password jtis (.done a)
  | .refresh refreshToken jtis (.done a) => .refresh refreshToken jtis (.done a)
  | .login username password jtis _ => .login username password jtis (.done (.raised "DBAPIError"))
  | .refresh refreshToken jtis _ => .refresh refreshToken jtis (.done (.raised "DBAPIError"))

/-- The program that every client of the store runs. -/
def program (deps : Deps) : Program Row Session DateTime := ⟨act deps, Session.refused⟩

/-- The store and its sessions. -/
abbrev State := Db Row Session

/-- A step of a session, or the failure of one. -/
def step (deps : Deps) : State → Event DateTime → State := Db.step (program deps)

end IrisService.Auth
