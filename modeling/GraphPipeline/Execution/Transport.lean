import GraphPipeline.Http.Status
import GraphPipeline.Json.Printer

/-!
# Transports

A transport carries a request to the server and brings back a reply after some
time.  It may keep a state between requests.  A client waits for a reply no
longer than its timeout.
-/

namespace GraphPipeline

/-- A span of time in nanoseconds. -/
structure Duration where
  nanoseconds : Nat
  deriving DecidableEq, Inhabited

namespace Duration

def ofMilliseconds (milliseconds : Nat) : Duration :=
  ⟨milliseconds * 1000000⟩

/-- Whole milliseconds. -/
def milliseconds (duration : Duration) : Nat :=
  duration.nanoseconds / 1000000

end Duration

/-- Why a request got no usable response. -/
inductive FetchError where
  | connect (reason : String)
  | timeout (limit : Duration)
  | invalidStatus (status : StatusCode)
  | other (reason : String)
  deriving DecidableEq

namespace FetchError

def message : FetchError → String
  | .connect reason => "Could not connect to the server: " ++ reason
  | .timeout limit =>
    "Request timed out after " ++ toString limit.milliseconds ++ "ms"
  | .invalidStatus status => "Server responded with status " ++ status.render
  | .other reason => reason

/-- Whether the server never answered the request. -/
def isConnectivity : FetchError → Bool
  | .connect _ => true
  | .timeout _ => true
  | .invalidStatus _ => false
  | .other _ => false

end FetchError

/-- A document with the values of its variables. -/
structure Request where
  query : String
  variableValues : Entries Json

/-- The body of the request. -/
def Request.body (request : Request) : String :=
  (Json.object [("query", .string request.query),
    ("variables", .object request.variableValues)]).render

structure Response where
  status : StatusCode
  body : List UInt8

/-- What comes back for a request, and when. -/
structure Reply where
  delay : Duration
  outcome : Except FetchError Response

/-- A carrier of requests that keeps a state of type `σ`. -/
abbrev Transport (σ : Type) := Request → StateM σ Reply

/-- What a client makes of a reply: one that takes longer than the timeout is
not waited for. -/
def Reply.within (reply : Reply) (timeout : Duration) :
    Except FetchError Response :=
  if timeout.nanoseconds < reply.delay.nanoseconds then
    .error (.timeout timeout)
  else reply.outcome

end GraphPipeline
