import GraphPipeline.Argument
import GraphPipeline.Schema.Field

/-!
# Pipelines

A pipeline describes the value a caller wants: it starts at the root of an
operation, or at the element a projection is applied to, and goes on step by
step.  A projection holds pipelines of its own, which name the element by the
parameter of the projection.
-/

namespace GraphPipeline

inductive OperationKind where
  | query
  | mutation
  deriving DecidableEq

/-- The keyword of the operation. -/
def OperationKind.keyword : OperationKind → String
  | .query => "query"
  | .mutation => "mutation"

/-- The type of the root object of the operation. -/
def OperationKind.rootType : OperationKind → TypeRef
  | .query => (TypeRef.object "Query").nonNull
  | .mutation => (TypeRef.object "Mutation").nonNull

/-- The name by which nested pipelines refer to a projected element. -/
abbrev Parameter := String

/-- Where a pipeline starts. -/
inductive Source where
  | root (kind : OperationKind)
  | parameter (parameter : Parameter)
  deriving DecidableEq

mutual

inductive Pipeline where
  | mk (source : Source) (steps : List Step)

/-- A step of a pipeline.  A record projects several values of an element under
keys; a value projection continues inside the element. -/
inductive Step where
  | property (field : FieldDefinition)
  | call (field : FieldDefinition) (arguments : List Argument)
  | allPages (nodes : FieldDefinition)
  | record (parameter : Parameter) (fields : List (String × Pipeline))
  | value (parameter : Parameter) (inner : Pipeline)
  | cast (typeName : String)
  | filter (typeName : String)
  | single
  | singleOrDefault
  | toList
  | toDictionary (parameter : Parameter) (key value : Pipeline)

end

instance : Inhabited Pipeline := ⟨.mk (.root .query) []⟩

namespace Step

/-- The name of a step that reduces what comes before it. -/
def reducer? : Step → Option String
  | .cast _ => some "cast"
  | .filter _ => some "filter"
  | .single => some "single"
  | .singleOrDefault => some "single_or_default"
  | .toList => some "to_list"
  | .toDictionary _ _ _ => some "to_dictionary"
  | .property _ => none
  | .call _ _ => none
  | .allPages _ => none
  | .record _ _ => none
  | .value _ _ => none

/-- Whether nothing may follow the step. -/
def isTerminal : Step → Bool
  | .single => true
  | .singleOrDefault => true
  | .toList => true
  | .toDictionary _ _ _ => true
  | _ => false

def isAllPages : Step → Bool
  | .allPages _ => true
  | _ => false

end Step

def Source.operationKind? : Source → Option OperationKind
  | .root kind => some kind
  | .parameter _ => none

namespace Pipeline

def root (kind : OperationKind) : Pipeline :=
  .mk (.root kind) []

def parameter (parameter : Parameter) : Pipeline :=
  .mk (.parameter parameter) []

def source : Pipeline → Source
  | .mk source _ => source

def steps : Pipeline → List Step
  | .mk _ steps => steps

/-- The pipeline with a step more. -/
def push (pipeline : Pipeline) (step : Step) : Pipeline :=
  .mk pipeline.source (pipeline.steps ++ [step])

def property (pipeline : Pipeline) (field : FieldDefinition) : Pipeline :=
  pipeline.push (.property field)

def call (pipeline : Pipeline) (field : FieldDefinition)
    (arguments : List Argument) : Pipeline :=
  pipeline.push (.call field arguments)

def allPages (pipeline : Pipeline) (nodes : FieldDefinition) : Pipeline :=
  pipeline.push (.allPages nodes)

def select (pipeline : Pipeline) (parameter : Parameter)
    (fields : List (String × Pipeline)) : Pipeline :=
  pipeline.push (.record parameter fields)

def selectValue (pipeline : Pipeline) (parameter : Parameter)
    (inner : Pipeline) : Pipeline :=
  pipeline.push (.value parameter inner)

def cast (pipeline : Pipeline) (typeName : String) : Pipeline :=
  pipeline.push (.cast typeName)

def filter (pipeline : Pipeline) (typeName : String) : Pipeline :=
  pipeline.push (.filter typeName)

def single (pipeline : Pipeline) : Pipeline :=
  pipeline.push .single

def singleOrDefault (pipeline : Pipeline) : Pipeline :=
  pipeline.push .singleOrDefault

def toList (pipeline : Pipeline) : Pipeline :=
  pipeline.push .toList

def toDictionary (pipeline : Pipeline) (parameter : Parameter)
    (key value : Pipeline) : Pipeline :=
  pipeline.push (.toDictionary parameter key value)

/-- Whether the last step is terminal. -/
def endsTerminal (pipeline : Pipeline) : Bool :=
  pipeline.steps.getLast?.any Step.isTerminal

mutual

/-- The kind of the root a pipeline starts from, or else of the first root that
a pipeline inside its steps starts from. -/
def operationKind? : Pipeline → Option OperationKind
  | .mk source steps => source.operationKind?.or (operationKindOfSteps? steps)

def operationKindOfSteps? : List Step → Option OperationKind
  | [] => none
  | .record _ fields :: steps =>
      (operationKindOfFields? fields).or (operationKindOfSteps? steps)
  | .value _ inner :: steps =>
      inner.operationKind?.or (operationKindOfSteps? steps)
  | .toDictionary _ key value :: steps =>
      (key.operationKind?.or value.operationKind?).or
        (operationKindOfSteps? steps)
  | _ :: steps => operationKindOfSteps? steps

def operationKindOfFields? : List (String × Pipeline) → Option OperationKind
  | [] => none
  | (_, pipeline) :: fields =>
      pipeline.operationKind?.or (operationKindOfFields? fields)

end

mutual

/-- Equality of pipelines, literals in arguments being compared as JSON
values. -/
def same : Pipeline → Pipeline → Bool
  | .mk leftSource left, .mk rightSource right =>
      leftSource == rightSource && sameSteps left right

def sameSteps : List Step → List Step → Bool
  | [], [] => true
  | left :: lefts, right :: rights =>
    sameStep left right && sameSteps lefts rights
  | _, _ => false

def sameStep : Step → Step → Bool
  | .property left, .property right => left == right
  | .call left leftArguments, .call right rightArguments =>
      left == right && Argument.sameAll leftArguments rightArguments
  | .allPages left, .allPages right => left == right
  | .record leftParameter left, .record rightParameter right =>
      leftParameter == rightParameter && sameFields left right
  | .value leftParameter left, .value rightParameter right =>
      leftParameter == rightParameter && left.same right
  | .cast left, .cast right => left == right
  | .filter left, .filter right => left == right
  | .single, .single => true
  | .singleOrDefault, .singleOrDefault => true
  | .toList, .toList => true
  | .toDictionary leftParameter leftKey leftValue,
      .toDictionary rightParameter rightKey rightValue =>
      leftParameter == rightParameter && leftKey.same rightKey &&
        leftValue.same rightValue
  | _, _ => false

def sameFields : List (String × Pipeline) → List (String × Pipeline) → Bool
  | [], [] => true
  | (leftKey, left) :: lefts, (rightKey, right) :: rights =>
      leftKey == rightKey && left.same right && sameFields lefts rights
  | _, _ => false

end

end Pipeline

end GraphPipeline
