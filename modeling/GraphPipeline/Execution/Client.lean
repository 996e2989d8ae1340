import GraphPipeline.Execution.Error
import GraphPipeline.Program.Evaluation
import GraphPipeline.Response.Envelope

/-!
# Running operations

A client sends the document of an operation with the values of its variables,
reads the response, and extracts the result.  When a connection has more pages
than the one in the response, the client asks for the next page until there is
none, and extracts the result from the nodes of all pages.

A transport replies at once here, so a connection that is followed comes to its
end before the next one starts, whatever the number of connections that may be
followed at the same time.  `FollowUps.Step` has all other orders, for replies
that take their time.
-/

namespace GraphPipeline

/-- What a client is told: how long it waits for a reply, how many pages of a
connection it reads, and how many connections it follows at the same time. -/
structure ClientOptions where
  timeout : Duration
  maxPages : Nat
  concurrentHandles : Nat
  deriving DecidableEq

/-- What is sent to run an operation, and how its result is found. -/
structure Plan where
  query : String
  variableDefinitions : List VariableDefinition
  program : Program
  subqueries : List Subquery

/-- The state of a transport and the requests made so far. -/
structure Session (σ : Type) where
  transport : σ
  sent : List Request

/-- A part of a run.  Its first error is the error of the run. -/
abbrev Run (σ : Type) := ExceptT ExecutionError (StateM (Session σ))

namespace Run

variable {σ : Type}

/-- Sends a request and waits for its reply. -/
def send (transport : Transport σ) (timeout : Duration) (request : Request) :
    Run σ Response := do
  let session ← get
  let (reply, state) := (transport request).run session.transport
  set ({ transport := state, sent := session.sent ++ [request] } : Session σ)
  match reply.within timeout with
  | .ok response => pure response
  | .error error => throw (.fetch error)

/-- The data in a response.  A body without an envelope counts as malformed only
if the status is a success, and errors in an envelope come before the status. -/
def dataOf (response : Response) : Except ExecutionError Json :=
  match Envelope.ofBytes? response.body with
  | none =>
      if response.status.isSuccess then .error (.invalidResponse .malformed)
      else .error (.fetch (.invalidStatus response.status))
  | some envelope =>
      if !envelope.errors.isEmpty then .error (.protocol envelope.errors)
      else if !response.status.isSuccess then
        .error (.fetch (.invalidStatus response.status))
      else
        match envelope.data with
        | some data => .ok data
        | none => .error (.invalidResponse .noData)

/-- Sends a request and reads the data in its response. -/
def fetchData (transport : Transport σ) (timeout : Duration)
    (request : Request) :
    Run σ Json := do
  let response ← send transport timeout request
  liftM (dataOf response)

/-- The value a path of keys leads to. -/
def valueAt? : List String → Json → Option Json
  | [], value => some value
  | key :: keys, value => (value.member? key).bind (valueAt? keys)

/-- The page of a connection in the data of a response to a later request. -/
def laterPage (subquery : Subquery) (data : Json) :
    Except ExecutionError Page :=
  let path := ResponsePath.ofKeys subquery.path
  match (valueAt? subquery.path data).filter (!·.isNull) with
  | none => .error (.invalidResponse (.missingConnection path))
  | some connection =>
      match Page.read connection subquery.keys path with
      | .ok page => .ok page
      | .error error => .error (.extraction error)

/-- The nodes of a page and of all pages after it.  `budget` is the number of
pages that may still be fetched. -/
def followPages (transport : Transport σ) (options : ClientOptions)
    (request : Request) (subquery : Subquery) : Nat → Page → Run σ (List Json)
  | budget, page =>
      if page.hasNextPage then
        match budget, page.endCursor with
        | 0, _ => throw (.pageLimitExceeded subquery.id options.maxPages)
        | _ + 1, none =>
            throw (.invalidResponse
              (.noEndCursor (ResponsePath.ofKeys subquery.path)))
        | budget + 1, some cursor => do
            let variableValues :=
              Entries.put request.variableValues subquery.variableName
                (.string cursor)
            let data ←
              fetchData transport options.timeout
                { request with variableValues }
            let next ← liftM (laterPage subquery data)
            let nodes ←
              followPages transport options request subquery budget next
            pure (page.nodes ++ nodes)
      else pure page.nodes

/-- The nodes of all pages of some connections, given their first pages.  The
connections are followed one after the other, in the order of their numbers. -/
def followAll (transport : Transport σ) (options : ClientOptions)
    (request : Request) :
    List (Subquery × Page) → Run σ AllNodes
  | [] => pure []
  | (subquery, page) :: rest => do
      let nodes ←
        followPages transport options request subquery (options.maxPages - 1)
          page
      let others ← followAll transport options request rest
      pure ((subquery.id, nodes) :: others)

/-- The connections that have a page after the one in the data. -/
def unfinished (subqueries : List Subquery) (pages : Pages) :
    List (Subquery × Page) :=
  subqueries.filterMap fun subquery =>
    ((pages.lookup? subquery.id).filter (·.hasNextPage)).map fun page =>
      (subquery, page)

def extracted {α : Type} : Except ExtractionError α → Except ExecutionError α
  | .ok value => .ok value
  | .error error => .error (.extraction error)

/-- The result of an operation, given the data of the first response. -/
def resolve (transport : Transport σ) (options : ClientOptions) (plan : Plan)
    (request : Request) (data : Json) : Run σ Json := do
  let (value, pages) ← liftM (extracted (plan.program.collect data))
  match unfinished plan.subqueries pages with
  | [] => pure value
  | pending =>
      let nodes ← followAll transport options request pending
      liftM (extracted (plan.program.replay nodes data))

/-- The first required variable that has no value. -/
def missingVariable? (definitions : List VariableDefinition)
    (values : Entries Json) : Option String :=
  (definitions.find? fun definition =>
    definition.isRequired &&
      ((Entries.lookup? values definition.name).all Json.isNull)).map (·.name)

/-- The values of the variables with the first cursor of each connection. -/
def withCursors (subqueries : List Subquery) (values : Entries Json) :
    Entries Json :=
  subqueries.foldl (fun values subquery =>
    Entries.put values subquery.variableName
      ((subquery.initialCursor.map Json.string).getD .null)) values

/-- Runs an operation. -/
def plan (transport : Transport σ) (options : ClientOptions) (plan : Plan)
    (values : Entries Json) : Run σ Json :=
  match missingVariable? plan.variableDefinitions values with
  | some name => throw (.missingVariable name)
  | none => do
      let request : Request :=
        { query := plan.query,
          variableValues := withCursors plan.subqueries values }
      let data ← fetchData transport options.timeout request
      resolve transport options plan request data

end Run

/-- Runs an operation on a transport.  Gives its result, the requests it has
made, and the state it leaves the transport in.  This is one of the
`CompiledOperation.Runs` of the operation. -/
def Plan.run {σ : Type} (plan : Plan) (transport : Transport σ)
    (options : ClientOptions) (values : Entries Json) (state : σ) :
    Except ExecutionError Json × Session σ :=
  (Run.plan transport options plan values).run.run
    { transport := state, sent := [] }

end GraphPipeline
