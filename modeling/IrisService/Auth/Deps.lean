import IrisService.Auth.ApiKey
import IrisService.Auth.Jwt
import IrisService.Http

/-! `current_user` of `auth/deps.py`: the caller of a REST handler. -/

namespace IrisService.Auth

/-- The two claims as the token has them. -/
structure AuthenticatedUser where
  username : Json
  role : Json
  deriving DecidableEq, Repr

/-- `HTTPAuthorizationCredentials` -/
structure HTTPAuthorizationCredentials where
  scheme : String
  credentials : String
  deriving DecidableEq, Repr

/-- What `current_user` makes of a caller. -/
inductive RestCaller where
  | user (user : AuthenticatedUser)
  | http (exc : HTTPException)
  /-- An exception that no handler catches, by its class. -/
  | raised (exc : String)
  deriving DecidableEq, Repr

/-- The 401 without a token. -/
def missingBearerToken : RestCaller := .http ⟨401, .text "Missing Bearer token"⟩

/-- `current_user`: the principal of the API key goes before the token. -/
def currentUser (jwt : PyJwt) (now : DateTime) (apiKeyUser : Option ApiKeyPrincipal)
    (creds : Option HTTPAuthorizationCredentials) : RestCaller :=
  match apiKeyUser with
  | some principal => .user ⟨.str principal.username, .str principal.role⟩
  | none => match creds with
    | none => missingBearerToken
    | some creds =>
      if Str.lower creds.scheme ≠ "bearer" then missingBearerToken
      else match decodeToken jwt now creds.credentials .access with
        | .error (.jwtError detail) => .http ⟨401, .text detail⟩
        | .error (.raised exc) => .raised exc
        | .ok claims => match claims "sub", claims "role" with
          | some sub, some role => .user ⟨sub, role⟩
          | _, _ => .raised "KeyError"

end IrisService.Auth
