import IrisService.Db.Schema
import IrisService.Library.Retry
import IrisService.Messaging.Enrichment
import IrisService.Python.Str

/-! `integration/todo_service.py` and `integration/bio_service.py`: calls to services outside, which tenacity repeats,
and which have something to fall back on. -/

namespace IrisService.Integration
open Effects Program

/-! ### Exceptions -/

/-- The classes of exceptions that the code tells apart. -/
inductive ExcKind where
  /-- `httpx.HTTPError`, of which `httpx.TimeoutException` is a part. -/
  | httpError
  | noResultFound
  /-- The `TimeoutError` of Python itself. -/
  | timeoutError
  | exception
  /-- A `BaseException` that is no `Exception`. -/
  | baseException
  deriving DecidableEq, Repr

/-- `text` is `str(exc)`. -/
structure Exc where
  kind : ExcKind
  text : String
  deriving DecidableEq, Repr

/-- `isinstance(exc, httpx.HTTPError)` -/
def Exc.isHTTPError (exc : Exc) : Bool := exc.kind = .httpError

/-- `isinstance(exc, Exception)` -/
def Exc.isException (exc : Exc) : Bool := exc.kind ≠ .baseException

/-! ### Requests and responses -/

/-- The JSON of a call to Ollama; the temperature is in tenths. -/
structure GenerateRequest where
  model : String
  prompt : String
  stream : Bool
  temperature : Nat
  numPredict : Nat
  deriving DecidableEq, Repr

/-- A request to a service outside. -/
inductive HttpRequest where
  | get (url : String)
  | post (url : String) (json : GenerateRequest)
  deriving DecidableEq, Repr

/-- Its response, before the status is looked at. -/
structure HttpResponse where
  statusCode : Nat
  body : String
  deriving DecidableEq, Repr

/-- A todo of the API, as it is handed on. -/
structure Todo where
  userId : Int
  id : Int
  title : String
  completed : Bool
  deriving DecidableEq, Repr

/-- The fields of the answer of Ollama that are read. -/
structure OllamaResponse where
  response : String := ""
  done : Bool := false
  deriving DecidableEq, Repr

/-- What httpx, json and pydantic do with a response. -/
structure Deps where
  Json : Type
  /-- The message of an `HTTPStatusError`. -/
  statusError : HttpResponse → String
  /-- `response.json()` -/
  json : HttpResponse → Except Exc Json
  /-- What a loop over the value goes through. -/
  items : Json → Except Exc (List Json)
  validateTodo : Json → Except Exc Todo
  validateOllamaResponse : Json → Except Exc OllamaResponse

/-- `response.raise_for_status()` -/
def raiseForStatus (deps : Deps) (response : HttpResponse) : Except Exc Unit :=
  if 200 ≤ response.statusCode ∧ response.statusCode ≤ 299 then .ok () else .error ⟨.httpError, deps.statusError response⟩

/-! ### Effects -/

/-- What a handler of `customer/enrichment_router.py` awaits. -/
inductive Effect : Type → Type
  /-- `session.get(Customer, id_)` -/
  | getCustomer (id : Int) : Effect (Option Customer)
  | send (request : HttpRequest) : Effect HttpResponse
  /-- `asyncio.sleep`, in milliseconds. -/
  | sleep (milliseconds : Nat) : Effect Unit
  | requestReply (request : Messaging.CustomerEnrichRequest) (timeoutSeconds : Nat) : Effect Messaging.CustomerEnrichReply

/-- `wait_exponential`, in milliseconds: attempt `k` is followed by `multiplier * 2 ** (k - 1)`, within the bounds. -/
def waitExponential (multiplier min max attempt : Nat) : Nat :=
  Nat.max min (Nat.min (multiplier * 2 ^ (attempt - 1)) max)

/-- A call to a service outside, how often it is made, what is read from a response, and what is answered when all of
    that fails. -/
structure Upstream (α : Type) where
  request : HttpRequest
  policy : RetryPolicy Exc
  read : HttpResponse → Except Exc α
  fallback : α

namespace Upstream
variable {α : Type} (upstream : Upstream α)

/-- The body of the function under `@retry`. -/
def call : Program Effect Exc α := effect (.send upstream.request) >>= fun response => ofExcept (upstream.read response)

/-- The call, made again as its policy says. -/
def callWithRetry : Program Effect Exc α := retry upstream.policy .sleep upstream.call

/-- `try: return await …` `except Exception: return` the fallback. -/
def answer : Program Effect Exc α :=
  upstream.callWithRetry.tryCatch fun exc => if exc.isException then pure upstream.fallback else raise exc

end Upstream

/-! ### TodoService -/

/-- `TodoService`, with its settings. -/
structure TodoService where
  baseUrl : String := "https://jsonplaceholder.typicode.com"

namespace TodoService
variable (deps : Deps) (service : TodoService) (userId : Int)

/-- What `_fetch_with_retry` makes of a response. -/
def read (response : HttpResponse) : Except Exc (List Todo) := do
  raiseForStatus deps response
  let items ← deps.items (← deps.json response)
  items.mapM deps.validateTodo

/-- The todos of a user: three attempts, and the empty list in the end. -/
def upstream : Upstream (List Todo) where
  request := .get (service.baseUrl ++ "/users/" ++ toString userId ++ "/todos")
  policy := ⟨3, waitExponential 250 250 1000, Exc.isHTTPError⟩
  read := read deps
  fallback := []

/-- `_fetch_with_retry` -/
def fetchWithRetry : Program Effect Exc (List Todo) := (service.upstream deps userId).callWithRetry

/-- `get_todos` -/
def getTodos : Program Effect Exc (List Todo) := (service.upstream deps userId).answer

end TodoService

/-! ### BioService -/

/-- `BioService`, with its settings. -/
structure BioService where
  baseUrl : String := "http://localhost:11434"
  model : String := "llama3.2"

namespace BioService
variable (deps : Deps) (service : BioService) (name email : String)

/-- What the model is asked. -/
def prompt : String :=
  "Write a single concise (≤ 30 words) professional bio for a customer " ++
    "named " ++ name ++ ", email " ++ email ++ ". Plain prose, no greeting, no markdown."

/-- What `_generate_with_retry` makes of a response. -/
def read (response : HttpResponse) : Except Exc String := do
  raiseForStatus deps response
  let body ← deps.validateOllamaResponse (← deps.json response)
  let text := Str.strip body.response
  if text = "" then .error ⟨.exception, "Ollama returned empty response"⟩ else .ok text

/-- A bio from the model: two attempts, and a sentence without it in the end. -/
def upstream : Upstream String where
  request := .post (service.baseUrl ++ "/api/generate")
    { model := service.model, prompt := prompt name email, stream := false, temperature := 3, numPredict := 80 }
  policy := ⟨2, waitExponential 1000 1000 5000, Exc.isHTTPError⟩
  read := read deps
  fallback := name ++ " is a customer at our service. Bio currently unavailable."

/-- `_generate_with_retry` -/
def generateWithRetry : Program Effect Exc String := (service.upstream deps name email).callWithRetry

/-- `generate_bio` -/
def generateBio : Program Effect Exc String := (service.upstream deps name email).answer

end BioService

end IrisService.Integration
