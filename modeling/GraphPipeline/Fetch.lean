import GraphPipeline.Compile.Operation
import GraphPipeline.Execution.Client
import GraphPipeline.Native

/-!
# Typed results

A pipeline is ended by asking for one value or for a list of values of a native
type.  The ending adds the last step of the pipeline and decides how its result
is read.
-/

namespace GraphPipeline

/-- How the result of a pipeline is asked for.  A list of optional values keeps
the null ones, and a whole list can be asked for as a single value. -/
inductive Ending where
  | single
  | singleOrDefault
  | list
  | optionalList
  | singleList
  deriving DecidableEq

namespace Ending

/-- The last step of the pipeline. -/
def step : Ending → Step
  | .single => .single
  | .singleOrDefault => .singleOrDefault
  | .list => .toList
  | .optionalList => .toList
  | .singleList => .single

/-- The type of the result, given the type of a value. -/
def resultType (value : NativeType) : Ending → NativeType
  | .single => value
  | .singleOrDefault => .optional value
  | .list => .list value
  | .optionalList => .list (.optional value)
  | .singleList => .list value

end Ending

/-- A pipeline that is ended, with the type of its result. -/
structure Fetch where
  pipeline : Pipeline
  resultType : NativeType

def Pipeline.fetch (pipeline : Pipeline) (ending : Ending)
    (value : NativeType) :
    Fetch :=
  { pipeline := pipeline.push ending.step,
    resultType := ending.resultType value }

/-- What is sent to run a compiled operation. -/
def CompiledOperation.plan (compiled : CompiledOperation) : Plan :=
  { query := compiled.queryText
    variableDefinitions := compiled.operation.variableDefinitions
    program := compiled.program
    subqueries := compiled.subqueries }

/-- The native value of a result. -/
def readResult (type : NativeType) (result : Except ExecutionError Json) :
    Except ExecutionError NativeValue :=
  match result with
  | .error error => .error error
  | .ok value =>
      match type.read? value with
      | some native => .ok native
      | none => .error .deserialize

end GraphPipeline
