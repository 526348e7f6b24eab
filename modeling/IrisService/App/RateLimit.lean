import IrisService.App.Setup
import Mathlib.Data.Rat.Floor

/-! The rate limit over a run of requests: what an application passes to its handlers when nothing on the way asks the
limiter. -/

namespace IrisService.App
open Auth

/-- The minute of an arrival, counted from `origin`. -/
def window (origin : ℚ) (request : Request) : ℤ := ⌊(request.arrival - origin) / 60⌋

/-- Some route accepts the request. -/
def Application.finds (app : Application) (request : Request) : Bool :=
  (app.routes.find? (Matched.accepts request.method request.path)).isSome

/-- The request is one to a route of the application, and no question to its CORS middleware. -/
def Application.routed (app : Application) (request : Request) : Bool :=
  !(decide (.cors ∈ app.middleware) && isPreflight request) && app.finds request

/-- The request of a client arrives in a minute. -/
def sentBy (origin : ℚ) (client : String) (minute : ℤ) (request : Request) : Bool :=
  request.client = client && window origin request = minute

/-- No client has more than 60 requests of a minute passed to a handler; the others to a route are answered 429. -/
structure RateLimited (app : Application) (origin : ℚ) (served : List (Request × Answer)) : Prop where
  atMost : ∀ client minute, (served.filter fun x => sentBy origin client minute x.1 && x.2.isHandled).length ≤ 60
  others : ∀ x ∈ served, app.routed x.1 = true → x.2.isHandled = false → x.2 = .tooManyRequests

/-- Nothing in the application asks the limiter. -/
structure Unlimited (app : Application) : Prop where
  middleware : .slowApi ∉ app.middleware
  decorators : ∀ declared, .route declared ∈ app.routes → declared.limits = []

section Unlimited
variable {slowApi : SlowApi} {settings : Settings} {app : Application} {request : Request} {storage : slowApi.Storage}

theorem dispatch_handled (h : Unlimited app) : (dispatch slowApi app request storage).1.isHandled = app.finds request := by
  rw [dispatch, Application.finds]
  cases hfind : app.routes.find? (Matched.accepts request.method request.path) with
  | none => rfl
  | some matched =>
    cases matched with
    | mount path => rfl
    | route declared =>
      have hlimits := h.decorators declared (List.mem_of_find?_eq_some hfind)
      simp [hlimits, Answer.isHandled]

/-- The API key middleware hands every request on, with another `Authorization` header at most. -/
theorem apiKeyMiddleware_ok (apiKey : String) (scope : Scope) : ∃ scope', apiKeyMiddleware apiKey scope = .ok scope' ∧
    ∀ name, name ≠ authorization →
      scope'.headers.any (fun header => header.1 = name) = scope.headers.any fun header => header.1 = name := by
  by_cases hkey : scope.type = "http" ∧ KeyMatches apiKey scope
  · obtain ⟨b, -, hok⟩ := apiKeyMiddleware_of_matches hkey.1 hkey.2
    refine ⟨_, hok, fun name hname => ?_⟩
    rw [Bool.eq_iff_iff]
    simp only [List.any_eq_true, decide_eq_true_eq, List.mem_append, List.mem_filter, List.mem_singleton]
    constructor
    · rintro ⟨header, ⟨hmem, -⟩ | rfl, rfl⟩
      · exact ⟨header, hmem, rfl⟩
      · exact absurd rfl hname
    · rintro ⟨header, hmem, rfl⟩
      exact ⟨header, Or.inl ⟨hmem, hname⟩, rfl⟩
  · refine ⟨scope, ?_, fun name _ => rfl⟩
    by_cases htype : scope.type = "http"
    · exact apiKeyMiddleware_of_not_matches fun hmatches => hkey ⟨htype, hmatches⟩
    · simp [apiKeyMiddleware, htype]

/-- A stack without slowapi stops nothing but the questions to CORS. -/
theorem pass_handled (h : Unlimited app) {stack : List Middleware} (hstack : .slowApi ∉ stack) :
    (pass slowApi settings app stack request storage).1.isHandled =
      (!(decide (.cors ∈ stack) && isPreflight request) && app.finds request) := by
  induction stack generalizing request with
  | nil => simp [pass, dispatch_handled h]
  | cons middleware rest ih =>
    have hrest : .slowApi ∉ rest := fun hmem => hstack (List.mem_cons_of_mem _ hmem)
    cases middleware with
    | cors =>
      cases hpreflight : isPreflight request with
      | true => simp [pass, hpreflight, Answer.isHandled]
      | false => simp [pass, hpreflight, ih hrest]
    | requestId => simp [pass, ih hrest]
    | prometheus => simp [pass, ih hrest]
    | apiKey =>
      obtain ⟨scope, hok, hheaders⟩ := apiKeyMiddleware_ok settings.apiKey request.scope
      have hsame : isPreflight { request with scope } = isPreflight request := by
        simp only [isPreflight, hheaders _ (show bytes "origin" ≠ authorization by decide),
          hheaders _ (show bytes "access-control-request-method" ≠ authorization by decide)]
      have hfinds : app.finds { request with scope } = app.finds request := rfl
      simp [pass, hok, ih hrest, hsame, hfinds]
    | slowApi => exact absurd List.mem_cons_self hstack

theorem serve_handled (h : Unlimited app) : (serve slowApi settings app request storage).1.isHandled = app.routed request :=
  pass_handled h h.middleware

theorem serveAll_handled (h : Unlimited app) (storage : slowApi.Storage) (requests : List Request) :
    ∀ x ∈ serveAll slowApi settings app storage requests, x.2.isHandled = app.routed x.1 := by
  induction requests generalizing storage with
  | nil =>
    intro x hx
    cases hx
  | cons request requests ih =>
    intro x hx
    rcases List.mem_cons.mp hx with rfl | hx
    · exact serve_handled h
    · exact ih _ x hx

variable (slowApi settings app) in
theorem map_fst_serveAll (storage : slowApi.Storage) (requests : List Request) :
    (serveAll slowApi settings app storage requests).map Prod.fst = requests := by
  induction requests generalizing storage with
  | nil => rfl
  | cons request requests ih => exact congrArg (request :: ·) (ih _)

/-- Where the limiter is not asked, the handlers get what the clients send. -/
theorem Unlimited.rateLimited_iff (h : Unlimited app) (origin : ℚ) (storage : slowApi.Storage) (requests : List Request) :
    RateLimited app origin (serveAll slowApi settings app storage requests) ↔ ∀ client minute,
      (requests.filter fun request => sentBy origin client minute request && app.routed request).length ≤ 60 := by
  have hhandled : ∀ x ∈ serveAll slowApi settings app storage requests, x.2.isHandled = app.routed x.1 :=
    serveAll_handled h storage requests
  have hcount : ∀ client minute, ((serveAll slowApi settings app storage requests).filter fun x =>
      sentBy origin client minute x.1 && x.2.isHandled).length =
        (requests.filter fun request => sentBy origin client minute request && app.routed request).length := by
    intro client minute
    have hcongr := List.filter_congr fun x hx => congrArg (sentBy origin client minute x.1 && ·) (hhandled x hx)
    conv_rhs => rw [← map_fst_serveAll slowApi settings app storage requests, List.filter_map, List.length_map]
    rw [hcongr]
    rfl
  constructor
  · intro hlimited client minute
    rw [← hcount]
    exact hlimited.atMost client minute
  · intro hsent
    refine ⟨fun client minute => ?_, fun x hx hrouted hnot => ?_⟩
    · rw [hcount]
      exact hsent client minute
    · rw [hhandled x hx, hrouted] at hnot
      cases hnot

end Unlimited

/-! ### How applications are put together -/

section Compose
variable {app : Application}

theorem unlimited_new : Unlimited .new where
  middleware := List.not_mem_nil
  decorators declared hmem := by
    obtain ⟨r, hr, heq⟩ := List.mem_map.mp hmem
    cases heq
    obtain ⟨path, -, rfl⟩ := List.mem_map.mp hr
    rfl

theorem Unlimited.addMiddleware (h : Unlimited app) (middleware : Middleware) (hne : middleware ≠ .slowApi) :
    Unlimited (app.addMiddleware middleware) where
  middleware hmem := by
    rcases List.mem_cons.mp hmem with heq | hmem
    · exact hne heq.symm
    · exact h.middleware hmem
  decorators := h.decorators

theorem Unlimited.setLimiter (h : Unlimited app) (limiter : Limiter) : Unlimited (app.setLimiter limiter) :=
  ⟨h.middleware, h.decorators⟩

theorem Unlimited.addExceptionHandler (h : Unlimited app) (handler : ExceptionHandler) :
    Unlimited (app.addExceptionHandler handler) :=
  ⟨h.middleware, h.decorators⟩

theorem Unlimited.includeRouter (h : Unlimited app) (router : APIRouter) (hrouter : ∀ r ∈ router.routes, r.limits = []) :
    Unlimited (app.includeRouter router) where
  middleware := h.middleware
  decorators declared hmem := by
    rcases List.mem_append.mp hmem with hmem | hmem
    · exact h.decorators declared hmem
    · obtain ⟨r, hr, heq⟩ := List.mem_map.mp hmem
      cases heq
      exact hrouter r hr

theorem Unlimited.addRoute (h : Unlimited app) (declared : Route) (hroute : declared.limits = []) :
    Unlimited (app.addRoute declared) where
  middleware := h.middleware
  decorators r hmem := by
    rcases List.mem_append.mp hmem with hmem | hmem
    · exact h.decorators r hmem
    · cases List.mem_singleton.mp hmem
      exact hroute

theorem Unlimited.mount (h : Unlimited app) (path : String) : Unlimited (app.mount path) where
  middleware := h.middleware
  decorators r hmem := by
    rcases List.mem_append.mp hmem with hmem | hmem
    · exact h.decorators r hmem
    · cases List.mem_singleton.mp hmem

theorem Unlimited.registerMiddleware (h : Unlimited app) (settings : Settings) :
    Unlimited (registerMiddleware app settings) := by
  have hcors := h.addMiddleware .cors (by decide)
  have hrequestId := hcors.addMiddleware .requestId (by decide)
  have hprometheus := hrequestId.addMiddleware .prometheus (by decide)
  have hlimiter := (hprometheus.setLimiter (buildLimiter settings)).addExceptionHandler .rateLimitExceeded
  exact hlimiter.addMiddleware .apiKey (by decide)

/-- The limiter is built and stored, and its exception is handled, but nothing asks it. -/
theorem unlimited_createApp (settings : Settings) : Unlimited (createApp settings) := by
  have happ := unlimited_new.registerMiddleware settings
  have happ := happ.includeRouter actuatorRouter (by decide)
  have happ := happ.includeRouter qualityRouter (by decide)
  have happ := happ.includeRouter authRouter (by decide)
  have happ := happ.includeRouter customerRouter (by decide)
  have happ := happ.includeRouter productRouter (by decide)
  have happ := happ.includeRouter orderRouter (by decide)
  have happ := happ.includeRouter orderLineRouter (by decide)
  have happ := happ.includeRouter enrichmentRouter (by decide)
  have happ := happ.includeRouter auditRouter (by decide)
  have happ := happ.includeRouter diagnosticRouter (by decide)
  have happ := happ.includeRouter churnRouter (by decide)
  exact (happ.mount mcpMountPath).addRoute _ rfl

end Compose

/-- The application keeps the limit in exactly the runs in which no client asks for more than 60 routes in a minute. -/
theorem rateLimited_createApp_iff (slowApi : SlowApi) (settings : Settings) (origin : ℚ) (storage : slowApi.Storage)
    (requests : List Request) :
    RateLimited (createApp settings) origin (serveAll slowApi settings (createApp settings) storage requests) ↔
      ∀ client minute, (requests.filter fun request =>
        sentBy origin client minute request && (createApp settings).routed request).length ≤ 60 :=
  (unlimited_createApp settings).rateLimited_iff origin storage requests

/-- 61 requests for the root at once are all passed to its handler. -/
theorem rateLimited_exceeded : ¬ ∀ (slowApi : SlowApi) (settings : Settings) (origin : ℚ) (storage : slowApi.Storage)
    (requests : List Request),
    RateLimited (createApp settings) origin (serveAll slowApi settings (createApp settings) storage requests) := by
  intro h
  let settings : Settings := ⟨⟨"localhost", 6379, 0⟩, false, "demo-api-key-2026"⟩
  let request : Request := ⟨"10.0.0.1", 0, "GET", "/", ⟨"http", [], none⟩⟩
  let slowApi : SlowApi := ⟨Unit, fun _ _ _ _ => (true, ())⟩
  have hlimited := h slowApi settings 0 () (List.replicate 61 request)
  have hsent := (@Unlimited.rateLimited_iff slowApi settings _ (unlimited_createApp settings) 0 () _).mp hlimited
    "10.0.0.1" (window 0 request)
  have hminute : sentBy 0 "10.0.0.1" (window 0 request) request = true := by simp [sentBy, request]
  have hroot : (createApp settings).routed request = true := by decide +kernel
  rw [List.filter_replicate_of_pos (by rw [hminute, hroot]; rfl), List.length_replicate] at hsent
  exact absurd hsent (by decide)

end IrisService.App
