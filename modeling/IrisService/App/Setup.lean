import IrisService.App.Routing
import IrisService.Auth.ApiKey
import Mathlib.Data.Rat.Defs

/-! `create_app` of `app.py` and `register_middleware` of `middleware/setup.py`: the stack of middleware, the limiter
and the routes, and how a request passes through them. slowapi counts the requests; where it is asked to is up to
the application. -/

namespace IrisService.App
open Auth

/-- Where Redis is. -/
structure RedisSettings where
  host : String
  port : Nat
  db : Nat

/-- The settings that the limiter and the middleware read. -/
structure Settings where
  redis : RedisSettings
  devMode : Bool
  /-- `settings.auth.api_key` -/
  apiKey : String

/-- slowapi's `Limiter`, as it is built. -/
structure Limiter where
  defaultLimits : List String
  storageUri : String

/-- `_build_limiter` -/
def buildLimiter (settings : Settings) : Limiter :=
  let redisUri := "redis://" ++ settings.redis.host ++ ":" ++ toString settings.redis.port ++ "/" ++
    toString settings.redis.db
  { defaultLimits := ["60/minute"], storageUri := if settings.devMode then "memory://" else redisUri }

/-- The middleware there is. -/
inductive Middleware where
  | cors
  | requestId
  | prometheus
  | apiKey
  /-- slowapi's own; it applies the default limits. -/
  | slowApi
  deriving DecidableEq

/-- The handlers of exceptions that are added. -/
inductive ExceptionHandler where
  | rateLimitExceeded
  deriving DecidableEq

/-- An application under construction; the outermost middleware comes first. -/
structure Application where
  routes : List Matched
  middleware : List Middleware
  exceptionHandlers : List ExceptionHandler
  limiter : Option Limiter

namespace Application

/-- `FastAPI(...)` -/
def new : Application := ⟨fastapiRoutes.map .route, [], [], none⟩

/-- `add_middleware`: what is added last runs first. -/
def addMiddleware (app : Application) (middleware : Middleware) : Application :=
  { app with middleware := middleware :: app.middleware }

/-- `app.add_exception_handler` -/
def addExceptionHandler (app : Application) (handler : ExceptionHandler) : Application :=
  { app with exceptionHandlers := handler :: app.exceptionHandlers }

/-- `app.state.limiter = limiter` -/
def setLimiter (app : Application) (limiter : Limiter) : Application := { app with limiter := some limiter }

/-- A route declared at the application itself. -/
def addRoute (app : Application) (declared : Route) : Application := { app with routes := app.routes ++ [.route declared] }

/-- `app.include_router`: the routes below the prefix of the router. -/
def includeRouter (app : Application) (router : APIRouter) : Application :=
  { app with
    routes := app.routes ++ router.routes.map fun declared =>
      .route { declared with path := router.start ++ declared.path } }

/-- `app.mount` -/
def mount (app : Application) (path : String) : Application := { app with routes := app.routes ++ [.mount path] }

end Application

/-- `register_middleware`: no `SlowAPIMiddleware` is among them. -/
def registerMiddleware (app : Application) (settings : Settings) : Application :=
  ((((app.addMiddleware .cors).addMiddleware .requestId).addMiddleware .prometheus).setLimiter
    (buildLimiter settings)).addExceptionHandler .rateLimitExceeded |>.addMiddleware .apiKey

/-- `MCP_MOUNT_PATH` -/
def mcpMountPath : String := "/mcp"

/-- `create_app`: the middleware, the routers in their order, and the MCP server. -/
def createApp (settings : Settings) : Application :=
  let app := registerMiddleware .new settings
  let app := app.includeRouter actuatorRouter |>.includeRouter qualityRouter |>.includeRouter authRouter
  let app := app.includeRouter customerRouter |>.includeRouter productRouter |>.includeRouter orderRouter
  let app := app.includeRouter orderLineRouter |>.includeRouter enrichmentRouter |>.includeRouter auditRouter
  let app := app.includeRouter diagnosticRouter |>.includeRouter churnRouter
  (app.mount mcpMountPath).addRoute (undecorated "GET" "/" "root")

/-! ### Requests -/

/-- A request as the application receives it. -/
structure Request where
  /-- The remote address, the key of the limiter. -/
  client : String
  /-- In seconds. -/
  arrival : ℚ
  method : String
  path : String
  scope : Scope

/-- slowapi and its storage: whether one more request is within the given limits. -/
structure SlowApi where
  Storage : Type
  hit : Limiter → List String → Request → Storage → Bool × Storage

/-- How far a request comes. -/
inductive Answer where
  /-- The request is passed to the handler of a route, with this scope. -/
  | handled (target : Matched) (scope : Scope)
  | tooManyRequests
  /-- The `RateLimitExceeded` that nothing handles. -/
  | internalServerError
  /-- The CORS middleware answers by itself. -/
  | preflight
  /-- There is no such route, or not with this method. -/
  | notRouted
  | raised (exc : String)

/-- The request has reached its handler. -/
def Answer.isHandled : Answer → Bool
  | .handled _ _ => true
  | _ => false

/-- The request asks CORS for a permission. -/
def isPreflight (request : Request) : Bool :=
  request.method = "OPTIONS" && request.scope.headers.any (fun header => header.1 = bytes "origin") &&
    request.scope.headers.any fun header => header.1 = bytes "access-control-request-method"

section Serve
variable (slowApi : SlowApi) (settings : Settings) (app : Application)

/-- The answer to a request over its limit. -/
def rejection : Answer := if .rateLimitExceeded ∈ app.exceptionHandlers then .tooManyRequests else .internalServerError

/-- One more request, if there is a limiter to ask. -/
def hit (limits : List String) (request : Request) (storage : slowApi.Storage) : Bool × slowApi.Storage :=
  match app.limiter with
  | none => (true, storage)
  | some limiter => slowApi.hit limiter limits request storage

/-- The first route that matches takes the request; the decorator of its handler checks the limits of its own. -/
def dispatch (request : Request) (storage : slowApi.Storage) : Answer × slowApi.Storage :=
  match app.routes.find? (Matched.accepts request.method request.path) with
  | none => (.notRouted, storage)
  | some (.mount path) => (.handled (.mount path) request.scope, storage)
  | some (.route declared) =>
    if declared.limits = [] then (.handled (.route declared) request.scope, storage)
    else
      let (within, storage) := hit slowApi app declared.limits request storage
      (if within then .handled (.route declared) request.scope else rejection app, storage)

/-- The rest of the stack, from the outside in. -/
def pass : List Middleware → Request → slowApi.Storage → Answer × slowApi.Storage
  | [], request, storage => dispatch slowApi app request storage
  | .cors :: rest, request, storage => if isPreflight request then (.preflight, storage) else pass rest request storage
  | .requestId :: rest, request, storage => pass rest request storage
  | .prometheus :: rest, request, storage => pass rest request storage
  | .apiKey :: rest, request, storage =>
    match apiKeyMiddleware settings.apiKey request.scope with
    | .error exc => (.raised exc, storage)
    | .ok scope => pass rest { request with scope } storage
  | .slowApi :: rest, request, storage =>
    let (within, storage) := hit slowApi app ((app.limiter.map Limiter.defaultLimits).getD []) request storage
    if within then pass rest request storage else (rejection app, storage)

/-- A request through all the middleware. -/
def serve (request : Request) (storage : slowApi.Storage) : Answer × slowApi.Storage :=
  pass slowApi settings app app.middleware request storage

/-- The requests of a run, each with its answer. -/
def serveAll : slowApi.Storage → List Request → List (Request × Answer)
  | _, [] => []
  | storage, request :: requests =>
    let (answer, storage) := serve slowApi settings app request storage
    (request, answer) :: serveAll storage requests

end Serve

end IrisService.App
