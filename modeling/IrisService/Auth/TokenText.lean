import IrisService.Auth.Jwt
import IrisService.Library.Base64Url
import IrisService.Python.JsonDumps

/-! How long the tokens of `auth/jwt.py` are under HS256: compact JSON in base64url, joined by dots. -/

namespace IrisService.Auth.Compact
open JsonText JsonDumps

/-- HMAC with SHA-256 under the secret of the settings. -/
structure Hs256 where
  mac : List UInt8 → List UInt8
  length_mac : ∀ message, (mac message).length = 32

/-- The text of a `uuid4`. -/
structure Uuid4 where
  text : String
  length_text : text.length = 36
  hex : ∀ c ∈ text.toList, c ∈ "0123456789abcdef-".toList

/-- The header of a token. -/
def header : List (String × Value) := [("alg", .str "HS256"), ("typ", .str "JWT")]

/-- The claims of a token, in the order of `_encode`. -/
def claimFields (sub role : String) (type : TokenType) (jti : String) (iat exp : Int) : List (String × Value) :=
  [("sub", .str sub), ("role", .str role), ("type", .str type.value), ("jti", .str jti), ("iat", .num iat),
    ("exp", .num exp)]

/-- A part of a token. -/
def segment (fields : List (String × Value)) : List Char := Base64Url.encode (utf8 (dumps fields))

/-- `jwt.encode` -/
def jwtEncode (hs256 : Hs256) (claims : List (String × Value)) : String :=
  let signingInput := segment header ++ '.' :: segment claims
  String.ofList (signingInput ++ '.' :: Base64Url.encode (hs256.mac (utf8 signingInput)))

/-- `_encode`, with the `uuid4` it draws. -/
def encode (hs256 : Hs256) (username role : String) (tokenType : TokenType) (expiresInSeconds : Nat) (now : DateTime)
    (jti : Uuid4) : String :=
  jwtEncode hs256
    (claimFields username role tokenType jti.text now.seconds (now.addSeconds expiresInSeconds).seconds)

/-- `issue_refresh_token`, with its lifetime in seconds. -/
def issueRefreshToken (hs256 : Hs256) (settings : JwtSettings) (username role : String) (now : DateTime) (jti : Uuid4) :
    String × Nat :=
  let expiresIn := settings.refreshTokenExpireDays * 24 * 60 * 60
  (encode hs256 username role .refresh expiresIn now jti, expiresIn)

/-- `String(512)` of `refresh_token.token` -/
def maxTokenLength : Nat := 512

/-- The length of a timestamp in seconds, this century and the next two. -/
def TenDigits (n : Int) : Prop := 10 ^ 9 ≤ n ∧ n < 10 ^ 10

/-! ### Lengths -/

section Lengths
variable {hs256 : Hs256} {settings : JwtSettings} {username role : String} {now : DateTime} {jti : Uuid4}

/-- What writes tokens so issues the same refresh tokens. -/
theorem issueRefreshToken_eq {jwt : PyJwt} (hjwt : ∀ sub role type jti iat exp,
    jwt.encode ⟨sub, .str role, type, jti, iat, exp⟩ = jwtEncode hs256 (claimFields sub role type jti iat exp)) :
    Auth.issueRefreshToken jwt settings username (.str role) now jti.text =
      issueRefreshToken hs256 settings username role now jti :=
  Prod.ext (hjwt username role .refresh jti.text now.seconds _) rfl

theorem length_segment (fields : List (String × Value)) :
    (segment fields).length = (4 * (dumps fields).length + 2) / 3 := by
  rw [segment, Base64Url.length_encode, length_utf8 (isAscii_dumps fields)]

theorem length_header : (segment header).length = 36 := by
  rw [length_segment]
  decide

/-- A token of three parts, of which only the claims vary in length. -/
theorem length_jwtEncode (claims : List (String × Value)) :
    (jwtEncode hs256 claims).length = 81 + (4 * (dumps claims).length + 2) / 3 := by
  simp only [jwtEncode, String.length_ofList, List.length_append, List.length_cons, length_header, Base64Url.length_encode,
    hs256.length_mac]
  rw [length_segment]
  omega

theorem escapedLength_uuid4 (jti : Uuid4) : escapedLength jti.text = 36 := by
  have hwidth : "0123456789abcdef-".toList.all (width · = 1) = true := by decide
  rw [escapedLength_eq_length fun c hc => of_decide_eq_true (List.all_eq_true.mp hwidth c (jti.hex c hc)), jti.length_text]

/-- The claims of a refresh token: 116 characters around the username and the role. -/
theorem length_claims {iat exp : Int} (hiat : TenDigits iat) (hexp : TenDigits exp) :
    (dumps (claimFields username role .refresh jti.text iat exp)).length =
      116 + escapedLength username + escapedLength role := by
  have hsub : escapedLength "sub" = 3 := by decide
  have hrole : escapedLength "role" = 4 := by decide
  have htype : escapedLength "type" = 4 := by decide
  have hjti : escapedLength "jti" = 3 := by decide
  have hiatKey : escapedLength "iat" = 3 := by decide
  have hexpKey : escapedLength "exp" = 3 := by decide
  have hrefresh : escapedLength TokenType.refresh.value = 7 := by decide
  have hiatLength := length_writeInt (k := 9) hiat.1 hiat.2
  have hexpLength := length_writeInt (k := 9) hexp.1 hexp.2
  simp only [claimFields, dumps, dumpsRest, dumpsField, dumpsValue, List.length_append, List.length_cons, List.length_nil,
    length_dumpsStr, hsub, hrole, htype, hjti, hiatKey, hexpKey, hrefresh, escapedLength_uuid4, hiatLength, hexpLength]
  omega

/-- Three hundred and twenty-three bytes of claims fill the column. -/
theorem fits_iff {iat exp : Int} (hiat : TenDigits iat) (hexp : TenDigits exp) :
    (jwtEncode hs256 (claimFields username role .refresh jti.text iat exp)).length ≤ maxTokenLength ↔
      escapedLength username + escapedLength role ≤ 207 := by
  rw [length_jwtEncode, length_claims hiat hexp, maxTokenLength]
  omega

end Lengths

/-- A refresh token fits its column exactly when the username and the role take at most 207 characters in JSON. -/
theorem refresh_token_fits_iff (hs256 : Hs256) (settings : JwtSettings) (username role : String) (now : DateTime)
    (jti : Uuid4) (hiat : TenDigits now.seconds)
    (hexp : TenDigits (now.addSeconds (settings.refreshTokenExpireDays * 24 * 60 * 60)).seconds) :
    (issueRefreshToken hs256 settings username role now jti).1.length ≤ maxTokenLength ↔
      escapedLength username + escapedLength role ≤ 207 :=
  fits_iff hiat hexp

/-- A code of the right length. -/
def zeroMac : Hs256 := ⟨fun _ => List.replicate 32 0, fun _ => List.length_replicate⟩

def someUuid : Uuid4 where
  text := "0f8fad5b-d9cb-469f-a165-70867728950e"
  length_text := by decide
  hex := by
    have hall : "0f8fad5b-d9cb-469f-a165-70867728950e".toList.all (· ∈ "0123456789abcdef-".toList) = true := by decide
    exact fun c hc => of_decide_eq_true (List.all_eq_true.mp hall c hc)

/-- 2026-04-27 -/
def april : DateTime := ⟨739732 * DateTime.day, some 0⟩

theorem april_tenDigits : TenDigits april.seconds ∧
    TenDigits (april.addSeconds ((JwtSettings.mk 15 30).refreshTokenExpireDays * 24 * 60 * 60)).seconds := by
  unfold TenDigits
  decide

theorem refresh_token_fits_ada :
    (issueRefreshToken zeroMac ⟨15, 30⟩ "ada" "ROLE_USER" april someUuid).1.length ≤ maxTokenLength ↔
    escapedLength "ada" + escapedLength "ROLE_USER" ≤ 207 :=
  refresh_token_fits_iff zeroMac ⟨15, 30⟩ "ada" "ROLE_USER" april someUuid april_tenDigits.1 april_tenDigits.2

/-- A name of fifty Cyrillic letters makes a token that is too long. -/
theorem long_name_too_long :
    ¬∀ (hs256 : Hs256) (settings : JwtSettings) (username role : String) (now : DateTime) (jti : Uuid4),
    2 ≤ username.length → username.length ≤ 50 → role.length ≤ 20 → TenDigits now.seconds →
    TenDigits (now.addSeconds (settings.refreshTokenExpireDays * 24 * 60 * 60)).seconds →
      (issueRefreshToken hs256 settings username role now jti).1.length ≤ maxTokenLength := by
  intro h
  have hfits := h zeroMac ⟨15, 30⟩ (String.ofList (List.replicate 50 'ж')) "ROLE_USER" april someUuid (by decide)
    (by decide) (by decide) april_tenDigits.1 april_tenDigits.2
  have hshort := (fits_iff april_tenDigits.1 april_tenDigits.2).mp hfits
  exact absurd hshort (by decide)

end IrisService.Auth.Compact
