import GraphPipeline.Pipeline

/-!
# Documents

The operation sent to the server: its variables and the fields it selects.
A field is answered under its response key, which is its name unless it has an
alias.  The written document indents each selection set by two blanks.
-/

namespace GraphPipeline

mutual

/-- The selections on an object: its fields, and the fields of each concrete
type it may have. -/
inductive SelectionSet where
  | mk (requiresTypename : Bool) (fields : List FieldSelection)
      (fragments : List (String × SelectionSet))

inductive FieldSelection where
  | mk (name : String) (responseAlias : Option String)
      (arguments : List Argument) (selections : Option SelectionSet)

end

structure VariableDefinition where
  name : String
  type : String
  deriving DecidableEq

/-- A variable of a non-null type has to be given a value. -/
def VariableDefinition.isRequired (definition : VariableDefinition) : Bool :=
  definition.type.toList.getLast? == some '!'

structure Operation where
  kind : OperationKind
  variableDefinitions : List VariableDefinition
  selections : SelectionSet

/-- The field that holds the name of the type of an object. -/
def typenameKey : String := "__typename"

namespace SelectionSet

def requiresTypename : SelectionSet → Bool
  | .mk requiresTypename _ _ => requiresTypename

def fields : SelectionSet → List FieldSelection
  | .mk _ fields _ => fields

def fragments : SelectionSet → List (String × SelectionSet)
  | .mk _ _ fragments => fragments

/-- Whether the written set asks for the name of the type.  A set cannot be
written empty, and every object has a type name. -/
def asksTypename (set : SelectionSet) : Bool :=
  set.requiresTypename || (set.fields.isEmpty && set.fragments.isEmpty)

end SelectionSet

namespace FieldSelection

def name : FieldSelection → String
  | .mk name _ _ _ => name

def responseAlias : FieldSelection → Option String
  | .mk _ responseAlias _ _ => responseAlias

def arguments : FieldSelection → List Argument
  | .mk _ _ arguments _ => arguments

def selections : FieldSelection → Option SelectionSet
  | .mk _ _ _ selections => selections

/-- The key of the field in the object that answers it. -/
def responseKey (field : FieldSelection) : String :=
  field.responseAlias.getD field.name

/-- The field and its arguments, as they are written in a document. -/
def heading (field : FieldSelection) : String :=
  (match field.responseAlias with
    | some responseAlias => responseAlias ++ ": "
    | none => "") ++ field.name ++ Argument.renderAll field.arguments

end FieldSelection

/-- The blanks at the start of a line. -/
def indentation (depth : Nat) : String :=
  String.ofList (List.replicate (2 * depth) ' ')

/-- A line at an indentation. -/
def indentedLine (depth : Nat) (text : String) : String :=
  indentation depth ++ text ++ "\n"

namespace SelectionSet

mutual

/-- The lines of a set, after the heading it belongs to. -/
def render (depth : Nat) : SelectionSet → String
  | .mk requiresTypename fields fragments =>
      " \x7b\n" ++
        (if requiresTypename || (fields.isEmpty && fragments.isEmpty) then
          indentedLine (depth + 1) typenameKey
        else "") ++
        renderFields (depth + 1) fields ++
        renderFragments (depth + 1) fragments ++
        indentedLine depth "\x7d"

def renderFields (depth : Nat) : List FieldSelection → String
  | [] => ""
  | field :: fields => renderField depth field ++ renderFields depth fields

def renderField (depth : Nat) : FieldSelection → String
  | .mk name responseAlias arguments none =>
      indentedLine depth
        (FieldSelection.heading (.mk name responseAlias arguments none))
  | .mk name responseAlias arguments (some selections) =>
      indentation depth ++
        FieldSelection.heading (.mk name responseAlias arguments none) ++
        render depth selections

def renderFragments (depth : Nat) : List (String × SelectionSet) → String
  | [] => ""
  | (typeName, selections) :: fragments =>
      indentation depth ++ "... on " ++ typeName ++ render depth selections ++
        renderFragments depth fragments

end

end SelectionSet

/-- The variable as it is declared in a document. -/
def VariableDefinition.render (definition : VariableDefinition) : String :=
  "$" ++ definition.name ++ ": " ++ definition.type

namespace Operation

/-- The declarations of the variables, in parentheses. -/
def renderVariables : List VariableDefinition → String
  | [] => ""
  | definitions =>
      "(" ++ joined ", " (definitions.map VariableDefinition.render) ++ ")"

/-- The text of the document. -/
def render (operation : Operation) : String :=
  operation.kind.keyword ++ renderVariables operation.variableDefinitions ++
    operation.selections.render 0

end Operation

end GraphPipeline
