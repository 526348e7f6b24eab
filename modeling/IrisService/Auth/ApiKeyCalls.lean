import IrisService.Auth.ApiKey
import IrisService.Library.Effects

/-! `ApiKeyMiddleware.__call__` of `auth/api_key.py` with its calls of the application behind it. -/

namespace IrisService.Auth
open Effects Program

/-- `await self.app(scope, receive, send)` -/
inductive AppCall : Type → Type where
  | app (scope : Scope) : AppCall Unit

namespace ApiKeyMiddleware

/-- `__call__`, where `configured` is `get_settings().auth.api_key`; an exception is given by its name. -/
def call (configured : String) (scope : Scope) : Program AppCall String Unit :=
  if scope.type ≠ "http" then effect (.app scope)
  else
    match extractHeader scope apiKeyHeader with
    | none => effect (.app scope)
    | some provided =>
      if configured = "" ∨ provided ≠ configured then effect (.app scope)
      else do
        let forwarded ← ofExcept (injectBearerHeader (attachApiKeyPrincipal scope) configured)
        effect (.app forwarded)

variable {configured : String} {scope forwarded : Scope}

/-- The application is called with what the middleware makes of the scope. -/
theorem call_eq (configured : String) (scope : Scope) : call configured scope =
    (do let forwarded ← ofExcept (apiKeyMiddleware configured scope); effect (.app forwarded)) := by
  unfold call apiKeyMiddleware
  by_cases htype : scope.type ≠ "http"
  · rw [if_pos htype, if_pos htype]
    rfl
  · rw [if_neg htype, if_neg htype]
    cases extractHeader scope apiKeyHeader with
    | none => rfl
    | some provided =>
      by_cases hother : configured = "" ∨ provided ≠ configured
      · simp only [if_pos hother]
        rfl
      · simp only [if_neg hother]

/-- One call, whose outcome is that of the middleware. -/
theorem call_of_ok (h : apiKeyMiddleware configured scope = .ok forwarded) :
    call configured scope = effect (.app forwarded) := by
  rw [call_eq, h]
  rfl

/-- A new header replaces all that were there. -/
theorem filter_replace (headers : List Header) (value : List UInt8) :
    (headers.filter (fun header => header.1 ≠ authorization) ++ [(authorization, value)]).filter
        (fun header => header.1 = authorization) = [(authorization, value)] ∧
      (headers.filter (fun header => header.1 ≠ authorization) ++ [(authorization, value)]).filter
        (fun header => header.1 ≠ authorization) = headers.filter fun header => header.1 ≠ authorization := by
  constructor
  · rw [List.filter_append, List.filter_filter]
    simp
  · rw [List.filter_append, List.filter_filter]
    simp

end ApiKeyMiddleware

/-- The application is called once, and what it ends with is what the middleware ends with. A key that matches
    replaces the `Authorization` headers and marks the scope; any other request goes on as it came. -/
theorem middleware_forwards_once (configured : String) (scope : Scope) (answers : Answers AppCall String)
    (answer : (β : Type) → AppCall β → Except String β) : ∃ forwarded,
    (ApiKeyMiddleware.call configured scope).trace answers 0 = [⟨Unit, .app forwarded⟩] ∧
    (ApiKeyMiddleware.call configured scope).eval answer = answer Unit (.app forwarded) ∧
    (((scope.type = "http" ∧ KeyMatches configured scope) ∧ forwarded.type = scope.type ∧
        forwarded.apiKeyUser = some ⟨apiKeyUsername, apiKeyRole⟩ ∧
        (∃ value, latin1Encode ("Bearer " ++ configured) = some value ∧
          forwarded.headers.filter (fun header => header.1 = authorization) = [(authorization, value)]) ∧
        forwarded.headers.filter (fun header => header.1 ≠ authorization) =
          scope.headers.filter fun header => header.1 ≠ authorization) ∨
      ¬(scope.type = "http" ∧ KeyMatches configured scope) ∧ forwarded = scope) := by
  by_cases hmatches : scope.type = "http" ∧ KeyMatches configured scope
  · obtain ⟨htype, hkey⟩ := hmatches
    obtain ⟨b, hb, hok⟩ := apiKeyMiddleware_of_matches htype hkey
    have hcall := ApiKeyMiddleware.call_of_ok hok
    have hscheme : latin1Encode "Bearer " = some (bytes "Bearer ") := by decide
    obtain ⟨hauthorization, hothers⟩ := ApiKeyMiddleware.filter_replace scope.headers (bytes "Bearer " ++ b)
    rw [hcall]
    exact ⟨_, rfl, rfl, Or.inl ⟨⟨htype, hkey⟩, rfl, rfl, ⟨_, latin1Encode_append hscheme hb, hauthorization⟩, hothers⟩⟩
  · have hok : apiKeyMiddleware configured scope = .ok scope := by
      by_cases htype : scope.type = "http"
      · exact apiKeyMiddleware_of_not_matches fun hkey => hmatches ⟨htype, hkey⟩
      · rw [apiKeyMiddleware, if_pos htype]
    rw [ApiKeyMiddleware.call_of_ok hok]
    exact ⟨scope, rfl, rfl, Or.inr ⟨hmatches, rfl⟩⟩

end IrisService.Auth
