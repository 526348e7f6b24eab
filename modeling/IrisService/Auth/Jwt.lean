import Mathlib.Tactic.Basic
import IrisService.Python.DateTime
import IrisService.Python.Json

/-! `auth/jwt.py`: the two kinds of token, issued and verified with PyJWT. -/

namespace IrisService.Auth

/-- `ACCESS_TOKEN` and `REFRESH_TOKEN` -/
inductive TokenType where
  | access
  | refresh
  deriving DecidableEq, Repr

/-- The type as the `type` claim has it. -/
def TokenType.value : TokenType → String
  | access => "access"
  | refresh => "refresh"

/-- The lifetimes of the tokens. -/
structure JwtSettings where
  accessTokenExpireMinutes : Nat := 15
  refreshTokenExpireDays : Nat := 30

/-- The claims that the service signs. A refresh copies the role as it finds it. -/
structure IssuedClaims where
  sub : String
  role : Json
  type : TokenType
  jti : String
  iat : Int
  exp : Int
  deriving DecidableEq

/-- What a token decodes to: a dictionary. -/
abbrev JwtClaims := String → Option Json

/-- The claims as the dictionary that is signed. -/
def IssuedClaims.dict (c : IssuedClaims) : JwtClaims
  | "sub" => some (.str c.sub)
  | "role" => some c.role
  | "type" => some (.str c.type.value)
  | "jti" => some (.str c.jti)
  | "iat" => some (.num c.iat)
  | "exp" => some (.num c.exp)
  | _ => none

/-- PyJWT's `InvalidTokenError`, with `ExpiredSignatureError` told apart, or an exception of another class: a signed
    token whose `exp` is `null` makes `int()` raise a `TypeError`. -/
inductive DecodeError where
  | expired
  | invalid (exc : String)
  | raised (exc : String)

/-- `jwt.encode` and `jwt.decode` under the secret and the algorithm of the settings. -/
structure PyJwt where
  encode : IssuedClaims → String
  decode : DateTime → String → Except DecodeError JwtClaims
  /-- A signed token can be read back, also without its verification. -/
  encode_injective : ∀ c c', encode c = encode c' → c = c'
  decode_encode : ∀ now c, decode now (encode c) =
    if now.timestamp < c.iat * 1000000 then .error (.invalid "The token is not yet valid (iat)")
    else if c.exp * 1000000 ≤ now.timestamp then .error .expired
    else .ok c.dict

/-- What `decode_token` raises: a `JwtError` with its text, or what PyJWT raised, by its class. -/
inductive TokenError where
  | jwtError (detail : String)
  | raised (exc : String)
  deriving DecidableEq, Repr

/-- `decode_token`; an exception that is no `InvalidTokenError` passes through it. -/
def decodeToken (jwt : PyJwt) (now : DateTime) (token : String) (expectedType : TokenType) :
    Except TokenError JwtClaims :=
  match jwt.decode now token with
  | .error .expired => .error (.jwtError "Token expired")
  | .error (.invalid exc) => .error (.jwtError s!"Invalid token: {exc}")
  | .error (.raised exc) => .error (.raised exc)
  | .ok claims =>
    if claims "type" = some (.str expectedType.value) then .ok claims
    else .error (.jwtError
      ("Wrong token type: expected " ++ expectedType.value ++ ", got " ++ ((claims "type").getD .null).text))

/-- `_encode`, with the `uuid4` it draws. -/
def encode (jwt : PyJwt) (username : String) (role : Json) (tokenType : TokenType) (expiresInSeconds : Nat)
    (now : DateTime) (jti : String) : String :=
  jwt.encode
    { sub := username, role := role, type := tokenType, jti := jti, iat := now.seconds,
      exp := (now.addSeconds expiresInSeconds).seconds }

/-- `issue_access_token`, with its lifetime in seconds. -/
def issueAccessToken (jwt : PyJwt) (settings : JwtSettings) (username : String) (role : Json) (now : DateTime)
    (jti : String) : String × Nat :=
  let expiresIn := settings.accessTokenExpireMinutes * 60
  (encode jwt username role .access expiresIn now jti, expiresIn)

/-- `issue_refresh_token`, with its lifetime in seconds. -/
def issueRefreshToken (jwt : PyJwt) (settings : JwtSettings) (username : String) (role : Json) (now : DateTime)
    (jti : String) : String × Nat :=
  let expiresIn := settings.refreshTokenExpireDays * 24 * 60 * 60
  (encode jwt username role .refresh expiresIn now jti, expiresIn)

/-- What `decode_token` accepts of an issued token are the claims it was issued with. -/
theorem decodeToken_encode {jwt : PyJwt} {now : DateTime} {c : IssuedClaims} {expectedType : TokenType} {claims : JwtClaims}
    (h : decodeToken jwt now (jwt.encode c) expectedType = .ok claims) : claims = c.dict := by
  unfold decodeToken at h
  rw [jwt.decode_encode] at h
  split at h
  · cases h
  · cases h
  · cases h
  · rename_i claims' hdecode
    split at hdecode
    · cases hdecode
    · split at hdecode
      · cases hdecode
      · cases hdecode
        split at h
        · cases h
          rfl
        · cases h

/-! ### Readable tokens

An unsigned codec with the laws of `PyJwt`: each field is escaped and ended by a mark. -/

namespace Readable

/-- Each character behind a mark, and another mark at the end. -/
def escape : List Char → List Char
  | [] => ['0']
  | c :: cs => '1' :: c :: escape cs

/-- The characters up to the end mark, and what follows. -/
def unescape : List Char → Option (List Char × List Char)
  | '0' :: rest => some ([], rest)
  | '1' :: c :: rest => (unescape rest).map fun p => (c :: p.1, p.2)
  | _ => none

theorem unescape_escape (cs rest : List Char) : unescape (escape cs ++ rest) = some (cs, rest) := by
  induction cs with
  | nil => rfl
  | cons c cs ih => simp [escape, unescape, ih]

/-- A sign and the digits. -/
def ofInt (n : Int) : List Char := (if n < 0 then '-' else '+') :: Nat.toDigits 10 n.natAbs

/-- An integer read back. -/
def toInt : List Char → Int
  | '-' :: ds => -(Nat.ofDigitChars 10 ds 0 : Int)
  | '+' :: ds => Nat.ofDigitChars 10 ds 0
  | _ => 0

theorem toInt_ofInt (n : Int) : toInt (ofInt n) = n := by
  unfold ofInt
  split
  · simp only [toInt, Nat.ofDigitChars_ten_toDigits]
    omega
  · simp only [toInt, Nat.ofDigitChars_ten_toDigits]
    omega

/-- One letter for each type. -/
def ofType : TokenType → List Char
  | .access => ['a']
  | .refresh => ['r']

/-- A type read back. -/
def toType : List Char → TokenType
  | 'a' :: _ => .access
  | _ => .refresh

theorem toType_ofType (t : TokenType) : toType (ofType t) = t := by
  cases t <;> rfl

/-- A letter for the kind of value, then the value. -/
def ofJson : Json → List Char
  | .null => ['n']
  | .bool true => ['t']
  | .bool false => ['f']
  | .num n => 'i' :: ofInt n
  | .str s => 's' :: s.toList
  | .other text => 'o' :: text.toList

/-- A value read back. -/
def toJson : List Char → Json
  | 't' :: _ => .bool true
  | 'f' :: _ => .bool false
  | 'i' :: cs => .num (toInt cs)
  | 's' :: cs => .str (String.ofList cs)
  | 'o' :: cs => .other (String.ofList cs)
  | _ => .null

theorem toJson_ofJson (j : Json) : toJson (ofJson j) = j := by
  cases j with
  | bool b => cases b <;> rfl
  | num n => simp [ofJson, toJson, toInt_ofInt]
  | str s => simp [ofJson, toJson]
  | other text => simp [ofJson, toJson]
  | null => rfl

/-- The claims one after another. -/
def write (c : IssuedClaims) : List Char :=
  escape c.sub.toList ++ (escape (ofJson c.role) ++ (escape (ofType c.type) ++ (escape c.jti.toList ++
    (escape (ofInt c.iat) ++ escape (ofInt c.exp)))))

/-- The claims read back. -/
def read (cs : List Char) : Option IssuedClaims := do
  let (sub, cs) ← unescape cs
  let (role, cs) ← unescape cs
  let (type, cs) ← unescape cs
  let (jti, cs) ← unescape cs
  let (iat, cs) ← unescape cs
  let (exp, _) ← unescape cs
  some
    { sub := String.ofList sub, role := toJson role, type := toType type, jti := String.ofList jti, iat := toInt iat,
      exp := toInt exp }

theorem read_write (c : IssuedClaims) : read (write c) = some c := by
  obtain ⟨sub, role, type, jti, iat, exp⟩ := c
  have hend := unescape_escape (ofInt exp) []
  rw [List.append_nil] at hend
  simp [read, write, unescape_escape, hend, toJson_ofJson, toInt_ofInt, toType_ofType]

end Readable

/-- Readable tokens, as PyJWT verifies them. -/
def PyJwt.readable : PyJwt where
  encode c := String.ofList (Readable.write c)
  decode now token :=
    match Readable.read token.toList with
    | none => .error (.invalid "Not enough segments")
    | some c =>
      if now.timestamp < c.iat * 1000000 then .error (.invalid "The token is not yet valid (iat)")
      else if c.exp * 1000000 ≤ now.timestamp then .error .expired
      else .ok c.dict
  encode_injective c c' h := by
    have hread := congrArg (fun s => Readable.read s.toList) h
    simpa only [String.toList_ofList, Readable.read_write, Option.some.injEq] using hread
  decode_encode now c := by simp only [String.toList_ofList, Readable.read_write]

end IrisService.Auth
