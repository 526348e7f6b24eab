import Mathlib.Tactic.Common

/-! The routes of the application: what the routers declare, and how a request is matched to one of them. -/

namespace IrisService.App

/-- A route with a path template; `limits` are the limiter decorators of its endpoint. -/
structure Route where
  methods : List String
  path : String
  endpoint : String
  limits : List String
  deriving DecidableEq

/-- What a path may lead to. -/
inductive Matched where
  | route (declared : Route)
  /-- An application that is mounted below a path. -/
  | mount (path : String)
  deriving DecidableEq

/-- A path cut at its slashes. -/
def segments (path : String) : List (List Char) := path.toList.splitOn '/'

/-- A parameter takes any text without a slash, but the empty one. -/
def segmentMatches (template segment : List Char) : Bool :=
  if template.head? = some '\x7b' then segment ≠ [] else template = segment

/-- The path has the segments of the template, with values for its parameters. -/
def pathMatches (template path : String) : Bool :=
  let expected := segments template
  let given := segments path
  expected.length = given.length && (expected.zip given).all fun pair => segmentMatches pair.1 pair.2

/-- The route takes the request. -/
def Route.accepts (route : Route) (method path : String) : Bool := method ∈ route.methods && pathMatches route.path path

/-- The path lies below the mounted one. -/
def mountAccepts (mounted path : String) : Bool := (mounted.toList ++ ['/']).isPrefixOf path.toList

/-- The route or the mounted application takes the request. -/
def Matched.accepts (method path : String) : Matched → Bool
  | .route declared => declared.accepts method path
  | .mount mounted => mountAccepts mounted path

/-! ### Routers -/

/-- An endpoint without a decorator of the limiter. -/
def undecorated (method path endpoint : String) : Route := ⟨[method], path, endpoint, []⟩

/-- `APIRouter(prefix=...)` with its routes in the order of their declarations. -/
structure APIRouter where
  start : String
  routes : List Route

/-- The router of `api/actuator.py`. -/
def actuatorRouter : APIRouter where
  start := "/actuator"
  routes := [
    undecorated "GET" "/health/liveness" "liveness",
    undecorated "GET" "/health/readiness" "readiness",
    undecorated "GET" "/health" "health",
    undecorated "GET" "/info" "info",
    undecorated "GET" "/prometheus" "prometheus"]

/-- The router of `api/quality.py`. -/
def qualityRouter : APIRouter where
  start := "/actuator"
  routes := [undecorated "GET" "/quality" "quality"]

/-- The router of `auth/router.py`. -/
def authRouter : APIRouter where
  start := "/auth"
  routes := [
    undecorated "GET" "/me" "me",
    undecorated "POST" "/login" "login",
    undecorated "POST" "/refresh" "refresh"]

/-- The router of `customer/router.py`. -/
def customerRouter : APIRouter where
  start := "/customers"
  routes := [
    undecorated "GET" "" "list_customers",
    undecorated "POST" "" "create_customer",
    undecorated "GET" "/recent" "get_recent_customers",
    undecorated "GET" "/{id_}" "get_customer",
    undecorated "PUT" "/{id_}" "update_customer",
    undecorated "PATCH" "/{id_}" "patch_customer",
    undecorated "DELETE" "/{id_}" "delete_customer"]

/-- The router of `product/router.py`. -/
def productRouter : APIRouter where
  start := "/products"
  routes := [
    undecorated "GET" "" "list_products",
    undecorated "GET" "/{product_id}" "get_product",
    undecorated "POST" "" "create_product",
    undecorated "PUT" "/{product_id}" "update_product",
    undecorated "DELETE" "/{product_id}" "delete_product",
    undecorated "GET" "/{product_id}/orders" "list_orders_for_product"]

/-- The router of `order/router.py`. -/
def orderRouter : APIRouter where
  start := "/orders"
  routes := [
    undecorated "GET" "" "list_orders",
    undecorated "GET" "/{order_id}" "get_order",
    undecorated "POST" "" "create_order",
    undecorated "PUT" "/{order_id}/status" "update_order_status",
    undecorated "DELETE" "/{order_id}" "delete_order"]

/-- The router of `order/order_line_router.py`. -/
def orderLineRouter : APIRouter where
  start := "/orders/{order_id}/lines"
  routes := [
    undecorated "GET" "" "list_lines",
    undecorated "POST" "" "add_line",
    undecorated "PATCH" "/{line_id}/status" "update_line_status",
    undecorated "DELETE" "/{line_id}" "delete_line"]

/-- The router of `customer/enrichment_router.py`. -/
def enrichmentRouter : APIRouter where
  start := "/customers"
  routes := [
    undecorated "GET" "/{id_}/enrich" "enrich_customer",
    undecorated "GET" "/{id_}/bio" "get_customer_bio",
    undecorated "GET" "/{id_}/todos" "get_customer_todos"]

/-- The router of `customer/audit_router.py`. -/
def auditRouter : APIRouter where
  start := "/customers"
  routes := [undecorated "GET" "/{id_}/audit" "get_customer_audit"]

/-- The router of `customer/diagnostic_router.py`. -/
def diagnosticRouter : APIRouter where
  start := "/customers/diagnostic"
  routes := [
    undecorated "GET" "/slow-query" "slow_query",
    undecorated "GET" "/db-failure" "db_failure",
    undecorated "GET" "/kafka-timeout" "kafka_timeout"]

/-- The router of `ml/router.py`. -/
def churnRouter : APIRouter where
  start := "/customers"
  routes := [undecorated "POST" "/{customer_id}/churn-prediction" "predict_customer_churn"]

/-- The pages that FastAPI adds to every application. -/
def fastapiRoutes : List Route :=
  ["/openapi.json", "/docs", "/docs/oauth2-redirect", "/redoc"].map fun path => ⟨["GET", "HEAD"], path, path, []⟩

end IrisService.App
