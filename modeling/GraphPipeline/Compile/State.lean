import GraphPipeline.Compile.Chain

/-!
# The state of a compilation

The document under construction: its selections, the variables it declares and
the connections of which every page is fetched.
-/

namespace GraphPipeline

structure CompileState where
  selections : Selections
  variableTypes : List (String × TypeRef)
  subqueries : List Subquery

/-- A part of a compilation.  Its first error is the error of the whole. -/
abbrev Compile := StateT CompileState (Except CompileError)

namespace CompileState

/-- A document in which nothing is selected. -/
def initial : CompileState :=
  { selections := Selections.initial, variableTypes := [], subqueries := [] }

end CompileState

namespace Compile

/-- Declares a variable.  Two declarations of one variable must have the same
written type. -/
def declare (name : String) (type : TypeRef) : Compile Unit := do
  let state ← get
  match Entries.lookup? state.variableTypes name with
  | some declared =>
      if declared.render = type.render then pure ()
      else throw (.conflictingVariableType name declared type)
  | none =>
    set { state with variableTypes := state.variableTypes ++ [(name, type)] }

def declareAll : List (String × TypeRef) → Compile Unit
  | [] => pure ()
  | (name, type) :: rest => do
      declare name type
      declareAll rest

/-- Selects a field in a set of the document. -/
def selectIn (set : SetId) (definition : FieldDefinition)
    (arguments : List Argument) : Compile SelectedField := do
  let state ← get
  match state.selections.field set definition arguments with
  | .ok (selected, selections) =>
      MonadStateOf.set { state with selections }
      pure selected
  | .error conflict => throw conflict.toCompileError

/-- The set of the fields that belong to one type of an object. -/
def fragmentIn (set : SetId) (typeName : String) : Compile SetId := do
  let state ← get
  let (id, selections) := state.selections.fragment set typeName
  MonadStateOf.set { state with selections }
  pure id

/-- Adds a connection of which every page is fetched. -/
def pushSubquery (variableName : String) (initialCursor : Option String)
    (path : List String) (keys : PageKeys) : Compile SubqueryId := do
  let state ← get
  let id := state.subqueries.length
  let subquery : Subquery := { id, variableName, initialCursor, path, keys }
  MonadStateOf.set { state with subqueries := state.subqueries ++ [subquery] }
  pure id

end Compile

end GraphPipeline
