import GraphPipeline.Execution.Transport

/-!
# Scripted servers

A server whose answers are written down in advance.  A route answers every
request in which some variables have given values.  A request without a route
takes the next answer from a queue.
-/

namespace GraphPipeline

structure Route where
  conditions : List (String × Json)
  reply : Reply

structure ScriptedServer where
  routes : List Route
  queue : List Reply

namespace Route

/-- Whether each variable of the conditions has the value given for it. -/
def answers (route : Route) (request : Request) : Bool :=
  route.conditions.all fun (name, expected) =>
    match Entries.lookup? request.variableValues name with
    | some value => value.same expected
    | none => false

end Route

namespace ScriptedServer

/-- The answer when the queue is used up. -/
def exhausted : Reply :=
  { delay := ⟨0⟩, outcome := .error (.other "no response left") }

/-- Answers a request from the first route that matches, or from the queue. -/
def transport : Transport ScriptedServer := fun request => do
  let server ← get
  match server.routes.find? (·.answers request), server.queue with
  | some route, _ => pure route.reply
  | none, reply :: queue => do
      set { server with queue }
      pure reply
  | none, [] => pure exhausted

end ScriptedServer

end GraphPipeline
