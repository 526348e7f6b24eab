import Mathlib.Tactic.Basic
import IrisService.Python.Str

/-! `auth/api_key.py`: the middleware that turns an `X-API-Key` header into a principal for the REST handlers and a
bearer token for the MCP server. -/

namespace IrisService.Auth

/-- A literal of ASCII characters, as bytes. -/
def bytes (s : String) : List UInt8 := s.toList.map fun c => UInt8.ofNat c.toNat

/-- `b.decode("latin-1")` never fails. -/
def latin1Decode (b : List UInt8) : String := String.ofList (b.map fun byte => Char.ofNat byte.toNat)

/-- `s.encode("latin-1")`; `none` is a `UnicodeEncodeError`. -/
def latin1Encode (s : String) : Option (List UInt8) :=
  s.toList.mapM fun c => if c.toNat < 256 then some (UInt8.ofNat c.toNat) else none

/-- The header, in the lower case of an ASGI scope. -/
def apiKeyHeader : String := "x-api-key"

/-- The user that a valid key stands for. -/
def apiKeyUsername : String := "api-key-user"

/-- The role that a valid key carries. -/
def apiKeyRole : String := "ROLE_ADMIN"

/-- A lower-cased name and a value. -/
abbrev Header := List UInt8 × List UInt8

/-- `ApiKeyPrincipal` -/
structure ApiKeyPrincipal where
  username : String
  role : String
  deriving DecidableEq, Repr

/-- An ASGI scope; `apiKeyUser` is the entry `api_key_user` of its state. -/
structure Scope where
  type : String
  headers : List Header
  apiKeyUser : Option ApiKeyPrincipal
  deriving DecidableEq, Repr

/-- `_extract_header` -/
def extractHeader (scope : Scope) (name : String) : Option String :=
  let target := bytes (Str.lower name)
  (scope.headers.find? fun header => header.1 = target).map fun header => latin1Decode header.2

/-- `_attach_api_key_principal` -/
def attachApiKeyPrincipal (scope : Scope) : Scope := { scope with apiKeyUser := some ⟨apiKeyUsername, apiKeyRole⟩ }

/-- The `Authorization` header. -/
def authorization : List UInt8 := bytes "authorization"

/-- `_inject_bearer_header` -/
def injectBearerHeader (scope : Scope) (apiKey : String) : Except String Scope :=
  match latin1Encode ("Bearer " ++ apiKey) with
  | none => .error "UnicodeEncodeError"
  | some value =>
    .ok { scope with headers := scope.headers.filter (fun header => header.1 ≠ authorization) ++ [(authorization, value)] }

/-- `ApiKeyMiddleware.__call__`: the scope with which the application behind it is called. -/
def apiKeyMiddleware (apiKey : String) (scope : Scope) : Except String Scope :=
  if scope.type ≠ "http" then .ok scope
  else match extractHeader scope apiKeyHeader with
    | none => .ok scope
    | some provided =>
      if apiKey = "" ∨ provided ≠ apiKey then .ok scope
      else injectBearerHeader (attachApiKeyPrincipal scope) apiKey

/-! ### Latin-1 -/

@[simp] theorem toNat_latin1 (byte : UInt8) : (Char.ofNat byte.toNat).toNat = byte.toNat := by
  have hbyte := byte.toNat_lt
  have hvalid : byte.toNat.isValidChar := Or.inl (by omega)
  rw [Char.ofNat, dif_pos hvalid]
  rfl

theorem latin1Encode_append {s t : String} {b b' : List UInt8} (hs : latin1Encode s = some b)
    (ht : latin1Encode t = some b') :
    latin1Encode (s ++ t) = some (b ++ b') := by
  simp only [latin1Encode] at hs ht
  simp [latin1Encode, List.mapM_append, hs, ht]

theorem latin1Encode_decode (b : List UInt8) : latin1Encode (latin1Decode b) = some b := by
  induction b with
  | nil => rfl
  | cons byte b ih =>
    have hbyte : byte.toNat < 256 := byte.toNat_lt
    simp only [latin1Encode, latin1Decode, String.toList_ofList] at ih
    simp [latin1Encode, latin1Decode, hbyte, ih]

theorem latin1Decode_encode {s : String} {b : List UInt8} (h : latin1Encode s = some b) : latin1Decode b = s := by
  have hchars : ∀ (cs : List Char) (b : List UInt8),
      (cs.mapM fun c => if c.toNat < 256 then some (UInt8.ofNat c.toNat) else none) = some b →
      b.map (fun byte => Char.ofNat byte.toNat) = cs := by
    intro cs
    induction cs with
    | nil =>
      intro b hb
      cases hb
      rfl
    | cons c cs ih =>
      intro b hb
      simp only [List.mapM_cons, Option.pure_def, Option.bind_eq_bind, Option.bind_eq_some_iff] at hb
      obtain ⟨byte, hbyte, rest, hrest, hcons⟩ := hb
      cases hcons
      split at hbyte
      · rename_i hlatin
        cases hbyte
        have hnat : (UInt8.ofNat c.toNat).toNat = c.toNat := UInt8.toNat_ofNat_of_lt' hlatin
        rw [List.map_cons, ih rest hrest, hnat, Char.ofNat_toNat]
      · cases hbyte
  rw [latin1Decode, hchars s.toList b h, String.ofList_toList]

/-! ### The middleware -/

/-- The key that the first `X-API-Key` header holds can be written as latin-1 again. -/
theorem injectBearerHeader_of_decode (scope : Scope) (b : List UInt8) : injectBearerHeader scope (latin1Decode b) =
    .ok { scope with
      headers := scope.headers.filter (fun header => header.1 ≠ authorization) ++
        [(authorization, bytes "Bearer " ++ b)] } := by
  have hscheme : latin1Encode "Bearer " = some (bytes "Bearer ") := by decide
  rw [injectBearerHeader, latin1Encode_append hscheme (latin1Encode_decode b)]

/-- The configured key is not empty, and it is what the first `X-API-Key` header holds. -/
def KeyMatches (apiKey : String) (scope : Scope) : Prop :=
  apiKey ≠ "" ∧ extractHeader scope apiKeyHeader = some apiKey

theorem apiKeyMiddleware_of_matches {apiKey : String} {scope : Scope} (htype : scope.type = "http")
    (h : KeyMatches apiKey scope) : ∃ b, latin1Encode apiKey = some b ∧ apiKeyMiddleware apiKey scope =
      .ok { scope with
        headers := scope.headers.filter (fun header => header.1 ≠ authorization) ++ [(authorization, bytes "Bearer " ++ b)]
        apiKeyUser := some ⟨apiKeyUsername, apiKeyRole⟩ } := by
  obtain ⟨hkey, hheader⟩ := h
  obtain ⟨header, -, hvalue⟩ := Option.map_eq_some_iff.mp hheader
  refine ⟨header.2, ?_, ?_⟩
  · rw [← hvalue]
    exact latin1Encode_decode header.2
  · have hcall : apiKeyMiddleware apiKey scope = injectBearerHeader (attachApiKeyPrincipal scope) apiKey := by
      simp [apiKeyMiddleware, htype, hheader, hkey]
    rw [hcall, ← hvalue, injectBearerHeader_of_decode]
    rfl

theorem apiKeyMiddleware_of_not_matches {apiKey : String} {scope : Scope} (h : ¬ KeyMatches apiKey scope) :
    apiKeyMiddleware apiKey scope = .ok scope := by
  unfold apiKeyMiddleware
  split
  · rfl
  · split
    · rfl
    · rename_i provided hprovided
      split
      · rfl
      · rename_i hkey
        obtain ⟨hempty, hsame⟩ := not_or.mp hkey
        exact absurd ⟨hempty, hprovided.trans (congrArg some (Classical.not_not.mp hsame))⟩ h

end IrisService.Auth
