import GraphPipeline.Proofs.Compile.Walk

/-!
# Calls of pipelines

The fields that a pipeline selects, in the order in which they are compiled,
with the arguments it passes to them.
-/

namespace GraphPipeline

/-- A field that a pipeline selects, the arguments it passes, and whether it
asks for every page of the field. -/
structure FieldCall where
  field : FieldDefinition
  arguments : List Argument
  paginated : Bool

/-- Whether an argument is written.  The variable of a cursor takes the place of
the cursor that pages start at. -/
def Argument.isWritten (paginated : Bool) (argument : Argument) : Bool :=
  !argument.value.isOmitted && !(paginated && argument.name == "after")

def FieldCall.written (call : FieldCall) : List Argument :=
  call.arguments.filter (Argument.isWritten call.paginated)

mutual

/-- The fields that a pipeline selects. -/
def Pipeline.calls : Pipeline → List FieldCall
  | .mk _ steps => Pipeline.callsOfSteps steps

def Pipeline.callsOfSteps : List Step → List FieldCall
  | [] => []
  | step :: steps =>
      Pipeline.callsOfStep (steps.head?.any Step.isAllPages) step ++
        Pipeline.callsOfSteps steps

def Pipeline.callsOfStep (paginated : Bool) : Step → List FieldCall
  | .property field => [⟨field, [], paginated⟩]
  | .call field arguments => [⟨field, arguments, paginated⟩]
  | .allPages nodes => [⟨nodes, [], false⟩]
  | .record _ fields => Pipeline.callsOfRecord fields
  | .value _ inner => inner.calls
  | .toDictionary _ key value => key.calls ++ value.calls
  | .cast _ => []
  | .filter _ => []
  | .single => []
  | .singleOrDefault => []
  | .toList => []

def Pipeline.callsOfRecord : List (String × Pipeline) → List FieldCall
  | [] => []
  | (_, pipeline) :: fields => pipeline.calls ++ Pipeline.callsOfRecord fields

end

end GraphPipeline
