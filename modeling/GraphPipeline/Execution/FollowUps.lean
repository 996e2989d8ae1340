import Mathlib.Logic.Relation
import GraphPipeline.Fetch

/-!
# Connections followed at the same time

A client follows several connections at the same time, up to a limit, and the
pages of one connection one after the other.  Replies take their time, so which
connection takes the next step is left open.  The first connection that fails
ends the run with its error.  On a transport that replies at once, as that of
`Plan.run` does, each connection comes to its end before the next one starts.
-/

namespace GraphPipeline

/-- The data a client reads from a reply. -/
def Reply.data (reply : Reply) (timeout : Duration) :
    Except ExecutionError Json :=
  match reply.within timeout with
  | .ok response => Run.dataOf response
  | .error error => .error (.fetch error)

/-- The page of a connection that a client reads from a reply. -/
def Subquery.pageOf (subquery : Subquery) (timeout : Duration) (reply : Reply) :
    Except ExecutionError Page :=
  match reply.data timeout with
  | .ok data => Run.laterPage subquery data
  | .error error => .error error

/-- The request for the page after a cursor. -/
def Request.atCursor (request : Request) (subquery : Subquery)
    (cursor : String) : Request :=
  { request with
    variableValues :=
      Entries.put request.variableValues subquery.variableName
        (.string cursor) }

/-- Any reply may come for a request. -/
def Request.AnyReply (_ : Request) (_ : Reply) : Prop :=
  True

/-- The reply to a request depends on its body alone. -/
def Request.RepliedBy (answer : String → Reply) (request : Request)
    (reply : Reply) : Prop :=
  reply = answer request.body

/-- A connection that is followed: the nodes of the pages read, the last of
these pages and their number, and the request whose reply is waited for. -/
structure Handle where
  subquery : Subquery
  nodes : List Json
  page : Page
  pages : Nat
  asked : Option Request

def Handle.start (subquery : Subquery) (page : Page) : Handle :=
  { subquery, nodes := page.nodes, page, pages := 1, asked := none }

/-- What is going on while connections are followed.  Requests, replies and the
failure are kept with the connections they are for, in the order they come. -/
structure FollowUps where
  waiting : List (Subquery × Page)
  running : List Handle
  finished : AllNodes
  sent : List (SubqueryId × Request)
  received : List (SubqueryId × Reply)
  failure : Option (SubqueryId × ExecutionError)

namespace FollowUps

def start (pending : List (Subquery × Page)) : FollowUps :=
  { waiting := pending, running := [], finished := [], sent := [],
    received := [], failure := none }

/-- A request or a reply of a connection is added to those there are. -/
def record (state : FollowUps) (id : SubqueryId) (sent : Option Request)
    (received : Option Reply) : FollowUps :=
  { state with
    sent := state.sent ++ sent.toList.map fun request => (id, request)
    received :=
      state.received ++ received.toList.map fun reply => (id, reply) }

/-- The requests for a connection, in order. -/
def sentFor (state : FollowUps) (id : SubqueryId) : List Request :=
  (state.sent.filter (·.1 == id)).map (·.2)

/-- The replies to the requests for a connection, in order. -/
def receivedFor (state : FollowUps) (id : SubqueryId) : List Reply :=
  (state.received.filter (·.1 == id)).map (·.2)

/-- Every connection is followed to its end. -/
structure Complete (state : FollowUps) : Prop where
  waiting : state.waiting = []
  running : state.running = []
  failure : state.failure = none

/-- Nothing is going on any more. -/
def Ended (state : FollowUps) : Prop :=
  state.Complete ∨ state.failure ≠ none

end FollowUps

section

variable (replies : Request → Reply → Prop) (options : ClientOptions)
  (request : Request)

/-- A connection sends its next request, or reads the page in the reply to the
last one.  `replies` are the replies that a request may get. -/
inductive Handle.Step :
    Handle → Handle → Option Request → Option Reply → Prop where
  | send {handle : Handle} {cursor : String} :
      handle.asked = none → handle.page.hasNextPage = true →
      handle.pages < options.maxPages → handle.page.endCursor = some cursor →
      Step handle
        { handle with asked := some (request.atCursor handle.subquery cursor) }
        (some (request.atCursor handle.subquery cursor)) none
  | receive {handle : Handle} {sent : Request} {reply : Reply} {page : Page} :
      handle.asked = some sent → replies sent reply →
      handle.subquery.pageOf options.timeout reply = .ok page →
      Step handle
        { handle with
          nodes := handle.nodes ++ page.nodes
          page
          pages := handle.pages + 1
          asked := none }
        none (some reply)

/-- A connection cannot be followed any further. -/
inductive Handle.Fails : Handle → Option Reply → ExecutionError → Prop where
  | exceeded {handle : Handle} :
      handle.asked = none → handle.page.hasNextPage = true →
      options.maxPages ≤ handle.pages →
      Fails handle none
        (.pageLimitExceeded handle.subquery.id options.maxPages)
  | noCursor {handle : Handle} :
      handle.asked = none → handle.page.hasNextPage = true →
      handle.pages < options.maxPages → handle.page.endCursor = none →
      Fails handle none (.invalidResponse
        (.noEndCursor (ResponsePath.ofKeys handle.subquery.path)))
  | reply {handle : Handle} {sent : Request} {reply : Reply}
      {error : ExecutionError} :
      handle.asked = some sent → replies sent reply →
      handle.subquery.pageOf options.timeout reply = .error error →
      Fails handle (some reply) error

/-- One step of one connection.  The first failure stops all of them. -/
inductive FollowUps.Step : FollowUps → FollowUps → Prop where
  | start {state : FollowUps} {subquery : Subquery} {page : Page}
      {rest : List (Subquery × Page)} :
      state.failure = none → state.waiting = (subquery, page) :: rest →
      state.running.length < max 1 options.concurrentHandles →
      Step state
        { state with
          waiting := rest
          running := state.running ++ [.start subquery page] }
  | act {state : FollowUps} {before after : List Handle} {handle next : Handle}
      {sent : Option Request} {received : Option Reply} :
      state.failure = none → state.running = before ++ handle :: after →
      handle.Step replies options request next sent received →
      Step state
        { state.record handle.subquery.id sent received with
          running := before ++ next :: after }
  | finish {state : FollowUps} {before after : List Handle} {handle : Handle} :
      state.failure = none → state.running = before ++ handle :: after →
      handle.asked = none → handle.page.hasNextPage = false →
      Step state
        { state with
          running := before ++ after
          finished := state.finished ++ [(handle.subquery.id, handle.nodes)] }
  | fail {state : FollowUps} {before after : List Handle} {handle : Handle}
      {received : Option Reply} {error : ExecutionError} :
      state.failure = none → state.running = before ++ handle :: after →
      handle.Fails replies options received error →
      Step state
        { state.record handle.subquery.id none received with
          failure := some (handle.subquery.id, error) }

/-- The states an interleaving of steps leads to. -/
def FollowUps.Reaches : FollowUps → FollowUps → Prop :=
  Relation.ReflTransGen (FollowUps.Step replies options request)

end

namespace CompiledOperation

/-- The first request of a run. -/
def firstRequest (compiled : CompiledOperation) (values : Entries Json) :
    Request :=
  { query := compiled.plan.query
    variableValues := Run.withCursors compiled.plan.subqueries values }

section

variable (compiled : CompiledOperation) (replies : Request → Reply → Prop)
  (options : ClientOptions) (values : Entries Json)

/-- A run sends its first request and evaluates the data in the reply. -/
structure Begins (reply : Reply) (data value : Json) (pages : Pages) :
    Prop where
  complete :
    Run.missingVariable? compiled.plan.variableDefinitions values = none
  replied : replies (compiled.firstRequest values) reply
  answered : reply.data options.timeout = .ok data
  collected : compiled.program.collect data = .ok (value, pages)

/-- The connections with more pages are followed up to some state. -/
def FollowsUp (pages : Pages) (state : FollowUps) : Prop :=
  (FollowUps.start (Run.unfinished compiled.subqueries pages)).Reaches
    replies options (compiled.firstRequest values) state

/-- What an operation results in once connections are not followed any
further. -/
def conclusion (data value : Json) (pages : Pages) (state : FollowUps) :
    Except ExecutionError Json :=
  match state.failure, Run.unfinished compiled.subqueries pages with
  | some (_, error), _ => .error error
  | none, [] => .ok value
  | none, _ :: _ =>
      Run.extracted (compiled.program.replay state.finished data)

/-- The runs of an operation: the reply to the first request, unless the run is
refused, how the connections were followed after it, and the outcome. -/
inductive Runs :
    Option Reply → FollowUps → Except ExecutionError Json → Prop where
  | refused {name : String} :
      Run.missingVariable? compiled.plan.variableDefinitions values =
        some name →
      Runs none (.start []) (.error (.missingVariable name))
  | unanswered {reply : Reply} {error : ExecutionError} :
      Run.missingVariable? compiled.plan.variableDefinitions values = none →
      replies (compiled.firstRequest values) reply →
      reply.data options.timeout = .error error →
      Runs (some reply) (.start []) (.error error)
  | unevaluated {reply : Reply} {data : Json} {error : ExtractionError} :
      Run.missingVariable? compiled.plan.variableDefinitions values = none →
      replies (compiled.firstRequest values) reply →
      reply.data options.timeout = .ok data →
      compiled.program.collect data = .error error →
      Runs (some reply) (.start []) (.error (.extraction error))
  | followed {reply : Reply} {data value : Json} {pages : Pages}
      {state : FollowUps} :
      compiled.Begins replies options values reply data value pages →
      compiled.FollowsUp replies options values pages state → state.Ended →
      Runs (some reply) state (compiled.conclusion data value pages state)

/-- The requests of a run. -/
def requests (reply : Option Reply) (state : FollowUps) : List Request :=
  match reply with
  | none => []
  | some _ => compiled.firstRequest values :: state.sent.map (·.2)

end

end CompiledOperation

end GraphPipeline
