import GraphPipeline.Github.Input
import GraphPipeline.Pipeline

/-!
# Typed pipelines

A pipeline over the schema that knows what it leads to: an object of a composite
type, a leaf or a projected record, or a list of these.  Only the fields of the
type can be reached, and the elements of a list only through projections.
-/

namespace GraphPipeline.Github

inductive Target where
  | object (type : CompositeDefinition)
  | leaf
  | list (element : Target)

structure Wrapper where
  pipeline : Pipeline
  target : Target

namespace Target

/-- What a field of a type leads to. -/
def ofType? (type : TypeRef) : Option Target :=
  let inner :=
    if type.kind.isComposite then (composite? type.name).map Target.object
    else some .leaf
  inner.map fun inner =>
    type.wrapping.lists.foldl (fun element _ => .list element) inner

/-- What a projection is applied to: an object, or each element of a list. -/
def projected : Target → Target
  | .list element => element
  | target => target

/-- What a projection of a target leads to, given where it leads for one
element. -/
def afterProjection (target inner : Target) : Target :=
  match target with
  | .list _ => .list inner
  | _ => inner

end Target

namespace Wrapper

def query : Wrapper :=
  { pipeline := .root .query, target := .object queryRoot }

def mutation : Wrapper :=
  { pipeline := .root .mutation, target := .object mutationRoot }

/-- The element a projection is applied to. -/
def element (wrapper : Wrapper) (parameter : Parameter) : Wrapper :=
  { pipeline := .parameter parameter, target := wrapper.target.projected }

/-- The arguments of a field in the order of their definitions, those that are
not given being omitted.  An argument of a non-null type has to be given. -/
def arguments? (field : FieldDefinition) (given : Entries ArgumentValue) :
    Option (List Argument) :=
  field.arguments.mapM fun definition =>
    match Entries.lookup? given definition.name with
    | some value => some { name := definition.name, value }
    | none =>
        if definition.type.isNullable then
          some { name := definition.name, value := .omitted }
        else none

/-- A field of the object a wrapper leads to. -/
def fieldDefinition? (wrapper : Wrapper) (name : String) :
    Option FieldDefinition :=
  match wrapper.target with
  | .object type => type.field? name
  | _ => none

/-- Goes on to a field of an object. -/
def field? (wrapper : Wrapper) (name : String) (given : Entries ArgumentValue) :
    Option Wrapper := do
  let field ← wrapper.fieldDefinition? name
  let arguments ← arguments? field given
  let target ← Target.ofType? field.type
  let pipeline :=
    if field.arguments.isEmpty then wrapper.pipeline.property field
    else wrapper.pipeline.call field arguments
  return { pipeline, target }

/-- Goes on to all nodes of a connection. -/
def allPages? (wrapper : Wrapper) : Option Wrapper := do
  let nodes ← wrapper.fieldDefinition? "nodes"
  let target ← Target.ofType? nodes.type
  return { pipeline := wrapper.pipeline.allPages nodes, target }

/-- Builds a record of each element. -/
def select (wrapper : Wrapper) (parameter : Parameter)
    (fields : List (String × Wrapper)) : Wrapper :=
  { pipeline :=
      wrapper.pipeline.select parameter
        (fields.map fun (key, field) => (key, field.pipeline))
    target := wrapper.target.afterProjection .leaf }

/-- Goes on inside each element. -/
def selectValue (wrapper : Wrapper) (parameter : Parameter) (inner : Wrapper) :
    Wrapper :=
  { pipeline := wrapper.pipeline.selectValue parameter inner.pipeline
    target := wrapper.target.afterProjection inner.target }

/-- Goes on in objects of one type, any other type being an error. -/
def cast? (wrapper : Wrapper) (typeName : String) : Option Wrapper :=
  (composite? typeName).map fun type =>
    { pipeline := wrapper.pipeline.cast typeName, target := .object type }

/-- Goes on in objects of one type, objects of any other type being absent. -/
def filter? (wrapper : Wrapper) (typeName : String) : Option Wrapper :=
  (composite? typeName).map fun type =>
    { pipeline := wrapper.pipeline.filter typeName, target := .object type }

/-- The elements of a list that are of one type. -/
def ofType? (wrapper : Wrapper) (typeName : String) : Option Wrapper :=
  (composite? typeName).map fun type =>
    { pipeline := wrapper.pipeline.filter typeName,
      target := .list (.object type) }

/-- A dictionary of the elements of a list. -/
def toDictionary (wrapper : Wrapper) (parameter : Parameter)
    (key value : Wrapper) :
    Pipeline :=
  wrapper.pipeline.toDictionary parameter key.pipeline value.pipeline

end Wrapper

end GraphPipeline.Github
