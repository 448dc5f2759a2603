import SoakRig.Http.Form
import SoakRig.Http.Uri
import SoakRig.Injector

/-!
# The router of the mock exchange

Which request goes to which endpoint, and what is answered to the others. Only requests that reach
an endpoint advance a counter.
-/

namespace SoakRig.Http

/-- The body of an answer. -/
inductive Body where
  | none
  | json (value : Json)
  | text (s : String)

/-- An answer. -/
structure Answer where
  status : UInt16
  contentType : Option String
  /-- The methods that the path takes, if the method was wrong. -/
  allow : Option String
  body : Body

namespace Answer

/-- An answer in JSON. -/
def ofJson (status : UInt16) (value : Json) : Answer :=
  ⟨status, some "application/json", none, .json value⟩

/-- The answer to a request that only asks for what stands above the body. -/
def withoutBody (a : Answer) : Answer := { a with body := .none }

end Answer

/-- A request. -/
structure Call where
  method : String
  uri : Uri
  /-- The time of day in milliseconds. -/
  now : Int

/-- What a server is, apart from its counters. -/
structure Server where
  version : String
  pid : Nat
  /-- How long it has been running, in seconds. -/
  uptime : Nat

/-- Where a path leads. -/
inductive Route where
  | endpoint (e : Endpoint)
  | health
deriving DecidableEq

namespace Route

def healthPath : String := "/health"

/-- The route of a path. -/
def ofPath? (path : String) : Option Route :=
  match Endpoint.all.find? (·.path = path) with
  | some e => some (.endpoint e)
  | none => if path = healthPath then some .health else none

/-- The methods that a route takes. Whoever can be read can be asked for the head alone. -/
def methods : Route → List String
  | .endpoint .placeOrder => ["POST"]
  | _ => ["GET", "HEAD"]

/-- The answers of the endpoint depend on the query. -/
def takesSymbol : Endpoint → Bool
  | .exchangeInfo => true
  | .ticker => true
  | _ => false

end Route

/-- The place that reports on requests. -/
def target : String := "faultlined::http_api"

/-- The answer to a query that cannot be read. -/
def badQuery : Answer :=
  ⟨400, some "text/plain; charset=utf-8", none,
    .text "Failed to deserialize query string: duplicate field \x60symbol\x60"⟩

/-- The answer to a wrong method. -/
def wrongMethod (r : Route) : Answer :=
  ⟨405, none, some (String.intercalate "," r.methods), .none⟩

/-- The answer to a path that leads nowhere. -/
def unknownPath (path : String) : Answer :=
  .ofJson 404 (.object [
    ("code", .integer (-1100)),
    ("msg", .string ("Unknown endpoint: " ++ path))])

/-- The answer that tells how the server is. -/
def health (s : Server) (c : Counters) : Answer :=
  .ofJson 200 (.object [
    ("status", .string "healthy"),
    ("version", .string s.version),
    ("pid", .integer s.pid),
    ("uptime_seconds", .integer s.uptime),
    ("attempts", .object (c.snapshot.map fun (name, n) => (name, .integer n.toNat)))])

/-- The request that a call makes of an endpoint, if its query can be read. -/
def requestOf (e : Endpoint) (call : Call) : Except Unit Request :=
  let plain : Request := ⟨call.now, none⟩
  if Route.takesSymbol e then
    match Form.single "symbol" (Form.pairs (call.uri.query.getD "")) with
    | .ok symbol => .ok (plain.withSymbol symbol)
    | .error () => .error ()
  else .ok plain

/-- Answers a call whose method fits its route. -/
def dispatch (s : Server) (c : Counters) (r : Route) (call : Call) :
    Answer × Counters × List Log.Record :=
  match r with
  | .health => (health s c, c, [])
  | .endpoint e =>
    match requestOf e call with
    | .error () => (badQuery, c, [])
    | .ok request =>
      let (served, c') := Injector.handle c e request
      (.ofJson served.response.status served.response.body, c', [Injector.record e served])

/-- Answers a call, before the head alone is asked for. -/
def route (s : Server) (c : Counters) (call : Call) : Answer × Counters × List Log.Record :=
  match Route.ofPath? call.uri.path with
  | none =>
    (unknownPath call.uri.path, c,
      [⟨.debug, target, some "unknown endpoint", [("path", .shown call.uri.path)]⟩])
  | some r =>
    if r.methods.contains call.method then dispatch s c r call else (wrongMethod r, c, [])

/-- Answers a call: the answer, the counters after it, and what is reported. -/
def handle (s : Server) (c : Counters) (call : Call) : Answer × Counters × List Log.Record :=
  let (answer, c', records) := route s c call
  (if call.method = "HEAD" then answer.withoutBody else answer, c', records)

/-- Answers calls in order. With each answer come the counters after it. -/
def handleAll (s : Server) (c : Counters) : List Call → List (Answer × Counters) × Counters
  | [] => ([], c)
  | call :: calls =>
    let (answer, c', _) := handle s c call
    let (answers, last) := handleAll s c' calls
    ((answer, c') :: answers, last)

end SoakRig.Http
