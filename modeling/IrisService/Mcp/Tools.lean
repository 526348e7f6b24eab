import IrisService.Library.Effects
import IrisService.Mcp.Actuator
import IrisService.Mcp.Audit
import IrisService.Mcp.CreateOrder
import IrisService.Ml.Inference
import IrisService.Ml.RiskBand

/-! The fifteen tools of `mcp/tools.py`, each with its effects in the order of its body. A session is opened and
closed around the statements of a tool; what a statement finds, and whether it raises, is up to the surroundings. -/

namespace IrisService.Mcp.Tools
open Effects Program Actuator

/-! ### Exceptions -/

/-- The classes of exceptions that the code tells apart. -/
inductive ExcKind where
  | integrityError
  | dbapiError
  | sqlAlchemyError
  | exception
  /-- A `BaseException` that is no `Exception`. -/
  | baseException
  deriving DecidableEq, Repr

/-- `name` is `type(exc).__name__`, `text` is `str(exc)`. -/
structure Exc where
  kind : ExcKind
  name : String
  text : String
  deriving DecidableEq, Repr

/-- `isinstance(exc, DBAPIError)` -/
def Exc.isDBAPIError (exc : Exc) : Bool := exc.kind = .integrityError || exc.kind = .dbapiError

/-- `isinstance(exc, SQLAlchemyError)` -/
def Exc.isSQLAlchemyError (exc : Exc) : Bool := exc.isDBAPIError || exc.kind = .sqlAlchemyError

/-- `isinstance(exc, Exception)` -/
def Exc.isException (exc : Exc) : Bool := exc.kind ≠ .baseException

/-- The exception that a guard of `mcp/auth.py` raises. -/
def Exc.ofMcpError : McpError → Exc
  | .auth text => ⟨.exception, "McpAuthError", text⟩
  | .forbidden text => ⟨.exception, "McpForbiddenError", text⟩

/-! ### Results -/

/-- An order as the tools list it; its total in cents. -/
structure OrderListItem where
  id : Nat
  customerId : Nat
  status : OrderStatus
  totalAmount : Nat
  createdAt : DateTime
  deriving DecidableEq, Repr

/-- The item for a row of `orders`. -/
def OrderListItem.ofRow (row : Nat × Order) : OrderListItem :=
  ⟨row.1, row.2.customerId, row.2.status, row.2.totalAmount, row.2.createdAt⟩

/-- A product as `find_low_stock_products` lists it. -/
structure ProductLowStock where
  id : Nat
  name : String
  unitPrice : Nat
  stockQuantity : Nat
  deriving DecidableEq, Repr

/-- The item for a row of `product`. -/
def ProductLowStock.ofRow (row : Nat × Product) : ProductLowStock :=
  ⟨row.1, row.2.name, row.2.unitPrice, row.2.stockQuantity⟩

/-- A customer with the roll-up of its orders. -/
structure Customer360 where
  id : Int
  name : String
  email : String
  orderCount : Int
  totalRevenue : Nat
  lastOrderAt : Option DateTime
  deriving DecidableEq, Repr

/-- What a chaos experiment has come to. -/
structure ChaosResult where
  scenario : String
  effective : Bool
  detail : String
  deriving DecidableEq, Repr

/-- A record of the ring buffer. -/
structure LogEvent where
  timestamp : DateTime
  level : String
  logger : String
  message : String
  requestId : Option String
  traceId : Option String
  deriving DecidableEq, Repr

/-- The value by its text. -/
structure MetricSnapshot where
  name : String
  tags : List (String × String)
  type : String
  value : String
  timestamp : DateTime
  deriving DecidableEq, Repr

/-- How a probe of one component ends. -/
structure ComponentStatus where
  status : String
  details : List (String × String)
  deriving DecidableEq, Repr

/-- The probes, and the status of the whole. -/
structure HealthSnapshot where
  status : String
  components : List (String × ComponentStatus)
  deriving DecidableEq, Repr

/-- The `info` object of an OpenAPI document. -/
structure InfoBlock where
  title : String
  version : String
  description : Option String
  deriving DecidableEq, Repr

/-- The paths of an OpenAPI document by HTTP verb. -/
structure OpenApiSummary where
  info : InfoBlock
  pathsByVerb : Dict String (List String)
  deriving DecidableEq, Repr

/-- What `app.openapi()` returns, as far as the summary reads it; the methods of a path may be no dictionary. -/
structure OpenApi where
  title : Option String
  version : Option String
  description : Option String
  paths : List (String × Option (List String))
  deriving DecidableEq, Repr

/-- What the tools return, one constructor for each DTO. -/
inductive ToolResult where
  | orderListItems (items : List OrderListItem)
  | orderListItem (item : OrderListItem)
  | orderRef (ref : OrderRef)
  | cancelResult (id : Int) (cancelled : Bool) (previousStatus : OrderStatus)
  | productsLowStock (items : List ProductLowStock)
  | customer360 (customer : Customer360)
  | notFound (entity : String) (id : Int)
  | chaos (result : ChaosResult)
  | churnPrediction (prediction : Ml.ChurnPrediction)
  | churnNotFound (customerId : Option Int) (message : String)
  | churnServiceUnavailable (message hint : String)
  | logEvents (events : List LogEvent)
  | metricSnapshots (samples : List MetricSnapshot)
  | health (snapshot : HealthSnapshot)
  | env (snapshot : Scalars.EnvSnapshot)
  | info (block : InfoBlock)
  | openApiSummary (summary : OpenApiSummary)
  | openApi (spec : OpenApi)

/-! ### Effects -/

/-- The effects of the tools, with what each is answered with; `σ` are the scalars of the settings. -/
inductive Effect (σ : Type) : Type → Type where
  | audit (record : AuditRecord) : Effect σ Unit
  | openSession : Effect σ Unit
  | closeSession : Effect σ Unit
  | commit : Effect σ Unit
  | rollback : Effect σ Unit
  /-- `SELECT … ORDER BY id DESC LIMIT limit`, of one status if it is given. -/
  | selectRecentOrders (limit : Int) (status : Option OrderStatus) : Effect σ (List (Nat × Order))
  | getOrder (id : Int) : Effect σ (Option (Nat × Order))
  | flushNewOrder (customerId : Int) (status : OrderStatus) (totalAmount : Nat) : Effect σ Unit
  | refreshOrder : Effect σ (Nat × Order)
  | flushOrderStatus (id : Int) (status : OrderStatus) : Effect σ Unit
  | selectProductsBelow (threshold : Int) : Effect σ (List (Nat × Product))
  | getCustomer (id : Int) : Effect σ (Option (Nat × Customer))
  /-- The number of a customer's orders, the sum of their totals, the time of the last one. -/
  | selectOrderRollUp (customerId : Int) : Effect σ (Option Int × Option Nat × Option DateTime)
  | selectOrders (customerId : Int) : Effect σ (List (Nat × Order))
  | selectOrderLines (orderIds : List Nat) : Effect σ (List (Nat × OrderLine))
  | selectPgSleep : Effect σ Unit
  | selectNonexistentTable : Effect σ Unit
  | selectOne : Effect σ Unit
  | sleep (seconds : Nat) : Effect σ Unit
  | cacheGet (key : String) : Effect σ (Option OrderRef)
  | cacheSet (key : String) (ref : OrderRef) : Effect σ Unit
  | evictOldestIfFull : Effect σ Unit
  | now : Effect σ DateTime
  | predictProbability (features : List ℚ) : Effect σ PyFloat
  | ringBufferSnapshot (n : Int) (level requestId : Option String) : Effect σ (List LogEvent)
  | listSamples (nameFilter : Option String) (tagsFilter : Option (List (String × String))) : Effect σ (List MetricSnapshot)
  | settingsDump : Effect σ (List (String × Value σ))
  | openapi : Effect σ OpenApi

/-! ### What the tools are given -/

/-- What the tools read of the predictor. -/
structure ChurnPredictor where
  ready : Bool
  modelPath : String
  modelVersion : String

/-- The metadata of the FastAPI application. -/
structure App where
  title : String
  version : String
  description : Option String

/-- `sys.version.split()[0]`, `platform.platform()` and `platform.python_implementation()` -/
structure Runtime where
  version : String
  platform : String
  implementation : String

/-- What the tools find in the process: the application, its settings and the predictor. -/
structure Deps where
  app : App
  /-- `iris_service.__version__` -/
  packageVersion : String
  runtime : Runtime
  scalars : Scalars
  ringBufferCapacity : Nat
  churnPredictor : Option ChurnPredictor
  pydantic : Ml.Pydantic
  /-- `str` of a `float` -/
  floatStr : PyFloat → String

section Tools
variable (digest : Digest) (deps : Deps) (currentUser : Option McpUser)

/-- The body of a tool. -/
abbrev Tool (α : Type) := Program (Effect deps.scalars.Scalar) Exc α

/-- `_audit` -/
def audit (toolName : String) (args : List (String × Arg)) : Tool deps Unit :=
  effect (.audit (recordToolCall digest toolName args (safeUserRole currentUser).1 (safeUserRole currentUser).2))

/-- `require_role` -/
def requireRole (role : String) : Tool deps Unit :=
  match Mcp.requireRole currentUser role with
  | .error e => raise (.ofMcpError e)
  | .ok () => pure ()

/-- `async with await deps.session_factory() as session` -/
def withSession {α : Type} (body : Tool deps α) : Tool deps α := do
  effect .openSession
  body.tryFinally (effect .closeSession)

/-! ### Orders, products and customers -/

/-- `MAX_RECENT_ORDERS` -/
def maxRecentOrders : Int := 100

/-- `list_recent_orders`: the limit is clamped to 1 and `MAX_RECENT_ORDERS`. -/
def listRecentOrders (limit : Int) (status : Option OrderStatus) : Tool deps ToolResult := do
  audit digest deps currentUser "list_recent_orders"
    [("limit", .int limit), ("status", .ofStr (status.map OrderStatus.value))]
  let capped := max 1 (min limit maxRecentOrders)
  let rows ← withSession deps (effect (.selectRecentOrders capped status))
  return .orderListItems (rows.map .ofRow)

/-- `get_order_by_id` -/
def getOrderById (id : Int) : Tool deps ToolResult := do
  audit digest deps currentUser "get_order_by_id" [("id", .int id)]
  match ← withSession deps (effect (.getOrder id)) with
  | none => return .notFound "Order" id
  | some order => return .orderListItem (.ofRow order)

/-- The order that an earlier call with this key has created. -/
def cachedOrder (idempotencyKey : Option String) : Tool deps (Option OrderRef) :=
  match idempotencyKey with
  | none => pure none
  | some key => effect (.cacheGet key)

/-- The inner `create_order` -/
def originalCreateOrder (customerId : Int) (idempotencyKey : Option String) : Tool deps ToolResult := do
  audit digest deps currentUser "create_order"
    [("customer_id", .int customerId), ("idempotency_key", .ofStr idempotencyKey)]
  match ← cachedOrder deps idempotencyKey with
  | some ref => return .orderRef ref
  | none =>
    let created ← withSession deps do
      let flushed ← (do effect (.flushNewOrder customerId .pending 0); return true : Tool deps Bool).tryCatch fun exc =>
        if exc.kind = .integrityError then do
          effect .rollback
          return false
        else raise exc
      if flushed then do
        let order ← effect .refreshOrder
        effect .commit
        return some order
      else return none
    match created with
    | none => return .notFound "Customer" customerId
    | some ref =>
      match idempotencyKey with
      | none => return .orderRef ref
      | some key =>
        effect (.cacheSet key ref)
        return .orderRef ref

/-- `create_order_cached` -/
def createOrder (customerId : Int) (idempotencyKey : Option String) : Tool deps ToolResult := do
  let result ← originalCreateOrder digest deps currentUser customerId idempotencyKey
  match idempotencyKey, result with
  | some _, .orderRef _ =>
    effect .evictOldestIfFull
    return result
  | _, _ => return result

/-- `cancel_order`: the status is set whatever it was. -/
def cancelOrder (id : Int) : Tool deps ToolResult := do
  audit digest deps currentUser "cancel_order" [("id", .int id)]
  let found ← withSession deps do
    match ← effect (.getOrder id) with
    | none => return none
    | some order =>
      effect (.flushOrderStatus id .cancelled)
      effect .commit
      return some order.2.status
  match found with
  | none => return .notFound "Order" id
  | some previous => return .cancelResult id true previous

/-- `find_low_stock_products`: a negative threshold counts as zero. -/
def findLowStockProducts (threshold : Int) : Tool deps ToolResult := do
  audit digest deps currentUser "find_low_stock_products" [("threshold", .int threshold)]
  let rows ← withSession deps (effect (.selectProductsBelow (max 0 threshold)))
  return .productsLowStock (rows.map .ofRow)

/-- `get_customer_360`: the customer, then one statement for the roll-up. -/
def getCustomer360 (id : Int) : Tool deps ToolResult := do
  audit digest deps currentUser "get_customer_360" [("id", .int id)]
  let found ← withSession deps do
    match ← effect (.getCustomer id) with
    | none => return none
    | some customer =>
      let row ← effect (.selectOrderRollUp id)
      return some (customer, row)
  match found with
  | none => return .notFound "Customer" id
  | some (customer, orderCount, totalRevenue, lastOrderAt) =>
    return .customer360
      ⟨customer.1, customer.2.name, customer.2.email, orderCount.getD 0, totalRevenue.getD 0, lastOrderAt⟩

/-! ### Chaos -/

/-- `_chaos_slow_query` -/
def chaosSlowQuery : Tool deps ToolResult := do
  withSession deps <| (effect .selectPgSleep).tryCatch fun exc =>
    if exc.isDBAPIError then effect (.sleep 2) else raise exc
  return .chaos ⟨"slow-query", true, "2 s deliberate slow query"⟩

/-- `_chaos_db_failure` -/
def chaosDbFailure : Tool deps ToolResult := do
  let rejected ← withSession deps <|
    (do effect .selectNonexistentTable; return none : Tool deps (Option Exc)).tryCatch fun exc =>
    if exc.isDBAPIError then return some exc else raise exc
  match rejected with
  | some exc => return .chaos ⟨"db-failure", true, "db rejected as expected: " ++ exc.name⟩
  | none => return .chaos ⟨"db-failure", false, "bad SQL was unexpectedly accepted"⟩

/-- `ALLOWED_CHAOS_SCENARIOS`, in the order of their listing. -/
def allowedChaosScenarios : List String := ["slow-query", "db-failure", "kafka-timeout"]

/-- `trigger_chaos_experiment`, for admins: the role is checked before the call is audited. -/
def triggerChaosExperiment (scenario : String) : Tool deps ToolResult := do
  requireRole deps currentUser roleAdmin
  audit digest deps currentUser "trigger_chaos_experiment" [("scenario", .str scenario)]
  if scenario ∉ allowedChaosScenarios then return .chaos ⟨scenario, false, "unknown scenario"⟩
  else if scenario = "slow-query" then chaosSlowQuery deps
  else if scenario = "db-failure" then chaosDbFailure deps
  else
    let detail := "synthetic 504 — no real broker call (matches /customers/diagnostic/kafka-timeout)"
    return .chaos ⟨"kafka-timeout", true, detail⟩

/-! ### Churn -/

/-- The hint that goes with an unavailable model. -/
def churnHint : String :=
  "Provision /etc/models/churn_predictor.onnx via the iris-churn-model ConfigMap (shared ADR-0062), then " ++
    "restart the pod or call the future hot-reload endpoint."

/-- `classify_risk(probability)` -/
def classifyChurn (probability : PyFloat) : Except Exc Ml.RiskBand :=
  (Ml.classifyRisk probability Ml.defaultLowThreshold Ml.defaultHighThreshold).mapError fun inverted =>
    ⟨.exception, "ValueError", inverted.text deps.floatStr⟩

/-- `ChurnPrediction(...)` -/
def newChurnPrediction (prediction : Ml.ChurnPrediction) : Except Exc Ml.ChurnPrediction :=
  (prediction.validate deps.pydantic).mapError fun text => ⟨.exception, "ValidationError", text⟩

/-- A customer as the features are computed from it. -/
def customerRow (customer : Nat × Customer) : Ml.CustomerRow := ⟨customer.1, customer.2.email, customer.2.createdAt⟩

/-- An order likewise; its total in whole units. -/
def orderRow (order : Nat × Order) : Ml.OrderRow :=
  ⟨order.1, order.2.customerId, some order.2.createdAt, some ((order.2.totalAmount : ℚ) / 100)⟩

/-- A line likewise. -/
def orderLineRow (line : Nat × OrderLine) : Ml.OrderLineRow := ⟨line.2.orderId, line.2.productId⟩

/-- The lines of some orders; no statement without orders. -/
def orderLinesOf (orderIds : List Nat) : Tool deps (List (Nat × OrderLine)) :=
  if orderIds = [] then pure [] else effect (.selectOrderLines orderIds)

/-- `predict_customer_churn`: nothing guards the prediction itself. -/
def predictCustomerChurn (customerId : Option Int) : Tool deps ToolResult := do
  audit digest deps currentUser "predict_customer_churn" [("customer_id", .ofInt customerId)]
  match deps.churnPredictor with
  | none => return .churnServiceUnavailable "churn model not loaded (path=unconfigured)" churnHint
  | some predictor =>
    if !predictor.ready then
      return .churnServiceUnavailable ("churn model not loaded (path=" ++ predictor.modelPath ++ ")") churnHint
    else match customerId with
      | none => return .churnNotFound none "customer_id is required"
      | some customerId =>
        let found ← withSession deps do
          match ← effect (.getCustomer customerId) with
          | none => return none
          | some customer =>
            let orders ← effect (.selectOrders customerId)
            let orderLines ← orderLinesOf deps (orders.map Prod.fst)
            return some (customer, orders, orderLines)
        match found with
        | none => return .churnNotFound (some customerId) ("customer " ++ toString customerId ++ " not found")
        | some (customer, orders, orderLines) =>
          let now ← effect .now
          let features := Ml.extractFeatures (customerRow customer) (orders.map orderRow) (orderLines.map orderLineRow) now
          let probability ← effect (.predictProbability features)
          let band ← ofExcept (classifyChurn deps probability)
          let prediction ← ofExcept <| newChurnPrediction deps
            { customerId, probability := probability.round 6, riskBand := band
              topFeatures := ["days_since_last_order", "total_revenue_90d", "order_frequency"]
              modelVersion := predictor.modelVersion, predictedAt := now }
          return .churnPrediction prediction

/-! ### Observability -/

/-- `tail_logs`: the number is clamped to 1 and the capacity of the ring buffer. -/
def tailLogs (n : Int) (level requestId : Option String) : Tool deps ToolResult := do
  audit digest deps currentUser "tail_logs" [("n", .int n), ("level", .ofStr level), ("request_id", .ofStr requestId)]
  let capped := max 1 (min n deps.ringBufferCapacity)
  return .logEvents (← effect (.ringBufferSnapshot capped level requestId))

/-- `get_metrics` -/
def getMetrics (nameFilter : Option String) (tagsFilter : Option (List (String × String))) : Tool deps ToolResult := do
  audit digest deps currentUser "get_metrics"
    [("name_filter", .ofStr nameFilter), ("tags_filter", (tagsFilter.map Arg.dict).getD .none)]
  return .metricSnapshots (← effect (.listSamples nameFilter tagsFilter))

/-- `_probe_db`, with a session. -/
def probeDb (includeDetails : Bool) : Tool deps ComponentStatus :=
  (do effect .selectOne; return ⟨"UP", []⟩ : Tool deps ComponentStatus).tryCatch fun exc =>
    if exc.isSQLAlchemyError then
      return ⟨"DOWN", if includeDetails then
        [("error", exc.name), ("message", String.ofList (exc.text.toList.take 200))] else []⟩
    else raise exc

/-- `build_health_snapshot`: the database is the one component that is probed. -/
def buildHealthSnapshot (includeDetails : Bool) : Tool deps HealthSnapshot := do
  let db ← probeDb deps includeDetails
  return ⟨if db.status = "UP" then "UP" else "DOWN", [("db", db)]⟩

/-- The session of the health tools is closed whatever happens, and no `Exception` of `close` gets out. -/
def healthSnapshot (includeDetails : Bool) : Tool deps ToolResult := do
  effect .openSession
  let close := (effect .closeSession).tryCatch fun exc => if exc.isException then pure () else raise exc
  let snapshot ← (buildHealthSnapshot deps includeDetails).tryFinally close
  return .health snapshot

/-- `get_health`, without details -/
def getHealth : Tool deps ToolResult := do
  audit digest deps currentUser "get_health" []
  healthSnapshot deps false

/-- `get_health_detail`, for admins: the role is checked before the call is audited. -/
def getHealthDetail : Tool deps ToolResult := do
  requireRole deps currentUser roleAdmin
  audit digest deps currentUser "get_health_detail" []
  healthSnapshot deps true

/-- `get_actuator_env`; `start` is the prefix that is asked for. -/
def getActuatorEnv (start : Option String) : Tool deps ToolResult := do
  audit digest deps currentUser "get_actuator_env" [("prefix", .ofStr start)]
  let dump ← effect .settingsDump
  return .env (deps.scalars.buildEnvSnapshot dump start)

/-- `build_info_block` -/
def buildInfoBlock : InfoBlock :=
  let runtime := "CPython " ++ deps.runtime.version ++ " on " ++ deps.runtime.platform ++ " (" ++
    deps.runtime.implementation ++ ")"
  let description := deps.app.description.getD ""
  { title := deps.app.title
    version := orDefault (some deps.app.version) deps.packageVersion
    description := some (Str.strip (description ++ "\n\nRuntime: " ++ runtime)) }

/-- `get_actuator_info` -/
def getActuatorInfo : Tool deps ToolResult := do
  audit digest deps currentUser "get_actuator_info" []
  return .info (buildInfoBlock deps)

/-- `paths_by_verb`, before the paths of each verb are sorted. -/
def collectVerbs (paths : List (String × Option (List String))) : Dict String (List String) :=
  let verbs := paths.flatMap fun path => (path.2.getD []).map fun verb => (Str.lower verb, path.1)
  (verbs.filter fun verb => verb.1 ∉ ["parameters", "summary", "description"]).foldl
    (fun pathsByVerb verb => pathsByVerb.set verb.1 ((pathsByVerb.get verb.1).getD [] ++ [verb.2])) []

/-- `build_openapi`: the document as it is, or its paths by verb. -/
def buildOpenapi (spec : OpenApi) (summary : Bool) : ToolResult :=
  if !summary then .openApi spec
  else .openApiSummary
    { info := ⟨spec.title.getD deps.app.title, spec.version.getD (orDefault (some deps.app.version) deps.packageVersion),
        spec.description⟩
      pathsByVerb := (collectVerbs spec.paths).map fun verb => (verb.1, verb.2.mergeSort fun a b => a ≤ b) }

/-- `get_openapi_spec` -/
def getOpenapiSpec (summary : Bool) : Tool deps ToolResult := do
  audit digest deps currentUser "get_openapi_spec" [("summary", .bool summary)]
  let spec ← effect .openapi
  return buildOpenapi deps spec summary

end Tools

/-- A call of one of the tools, by its arguments. -/
inductive ToolCall where
  | listRecentOrders (limit : Int) (status : Option OrderStatus)
  | getOrderById (id : Int)
  | createOrder (customerId : Int) (idempotencyKey : Option String)
  | cancelOrder (id : Int)
  | findLowStockProducts (threshold : Int)
  | getCustomer360 (id : Int)
  | triggerChaosExperiment (scenario : String)
  | predictCustomerChurn (customerId : Option Int)
  | tailLogs (n : Int) (level requestId : Option String)
  | getMetrics (nameFilter : Option String) (tagsFilter : Option (List (String × String)))
  | getHealth
  | getHealthDetail
  | getActuatorEnv (start : Option String)
  | getActuatorInfo
  | getOpenapiSpec (summary : Bool)

namespace ToolCall

/-- The tool that a call names, applied to its arguments. -/
def body (digest : Digest) (deps : Deps) (currentUser : Option McpUser) : ToolCall → Tool deps ToolResult
  | listRecentOrders limit status => Tools.listRecentOrders digest deps currentUser limit status
  | getOrderById id => Tools.getOrderById digest deps currentUser id
  | createOrder customerId idempotencyKey => Tools.createOrder digest deps currentUser customerId idempotencyKey
  | cancelOrder id => Tools.cancelOrder digest deps currentUser id
  | findLowStockProducts threshold => Tools.findLowStockProducts digest deps currentUser threshold
  | getCustomer360 id => Tools.getCustomer360 digest deps currentUser id
  | triggerChaosExperiment scenario => Tools.triggerChaosExperiment digest deps currentUser scenario
  | predictCustomerChurn customerId => Tools.predictCustomerChurn digest deps currentUser customerId
  | tailLogs n level requestId => Tools.tailLogs digest deps currentUser n level requestId
  | getMetrics nameFilter tagsFilter => Tools.getMetrics digest deps currentUser nameFilter tagsFilter
  | getHealth => Tools.getHealth digest deps currentUser
  | getHealthDetail => Tools.getHealthDetail digest deps currentUser
  | getActuatorEnv start => Tools.getActuatorEnv digest deps currentUser start
  | getActuatorInfo => Tools.getActuatorInfo digest deps currentUser
  | getOpenapiSpec summary => Tools.getOpenapiSpec digest deps currentUser summary

end ToolCall

end IrisService.Mcp.Tools
