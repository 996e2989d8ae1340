import GraphPipeline.Json.Printer
import GraphPipeline.Schema.TypeRef

/-!
# Argument values

The values a pipeline passes to the arguments of its fields.  They are written
into the document in GraphQL notation, in which keys are not quoted.  An omitted
value leaves no trace in an input object, and is written as `null` where a value
has to stand.
-/

namespace GraphPipeline

/-- A field of an input object, with the type the schema gives it. -/
structure InputField (α : Type) where
  name : String
  type : TypeRef
  value : α

inductive ArgumentValue where
  | literal (value : Json)
  | enumeration (name : String)
  | list (items : List ArgumentValue)
  | object (fields : List (InputField ArgumentValue))
  | variableRef (name : String)
  | omitted

namespace Json

mutual

/-- A literal in GraphQL notation. -/
def renderLiteral : Json → String
  | .array items => "[" ++ joined ", " (renderLiteralItems items) ++ "]"
  | .object members =>
    "\x7b" ++ joined ", " (renderLiteralMembers members) ++ "\x7d"
  | .null => render .null
  | .bool value => render (.bool value)
  | .number value => render (.number value)
  | .string value => render (.string value)

def renderLiteralItems : List Json → List String
  | [] => []
  | item :: items => item.renderLiteral :: renderLiteralItems items

def renderLiteralMembers : List (String × Json) → List String
  | [] => []
  | (key, value) :: members =>
      (key ++ ": " ++ value.renderLiteral) :: renderLiteralMembers members

end

end Json

namespace ArgumentValue

def isOmitted : ArgumentValue → Bool
  | .omitted => true
  | _ => false

mutual

/-- The value in GraphQL notation. -/
def render : ArgumentValue → String
  | .literal value => value.renderLiteral
  | .enumeration name => name
  | .list items => "[" ++ joined ", " (renderItems items) ++ "]"
  | .object fields => "\x7b" ++ joined ", " (renderFields fields) ++ "\x7d"
  | .variableRef name => "$" ++ name
  | .omitted => "null"

def renderItems : List ArgumentValue → List String
  | [] => []
  | item :: items => item.render :: renderItems items

/-- The fields that are not omitted. -/
def renderFields : List (InputField ArgumentValue) → List String
  | [] => []
  | ⟨name, _, value⟩ :: fields =>
      if value.isOmitted then renderFields fields
      else (name ++ ": " ++ value.render) :: renderFields fields

end

mutual

/-- The variables in a value, each with the type of its position. -/
def variableUses : ArgumentValue → TypeRef → List (String × TypeRef)
  | .variableRef name, type => [(name, type)]
  | .list items, type => variableUsesOfItems items (type.element?.getD type)
  | .object fields, _ => variableUsesOfFields fields
  | .literal _, _ => []
  | .enumeration _, _ => []
  | .omitted, _ => []

def variableUsesOfItems : List ArgumentValue → TypeRef → List (String × TypeRef)
  | [], _ => []
  | item :: items, element =>
      item.variableUses element ++ variableUsesOfItems items element

def variableUsesOfFields :
    List (InputField ArgumentValue) → List (String × TypeRef)
  | [] => []
  | ⟨_, type, value⟩ :: fields =>
    value.variableUses type ++ variableUsesOfFields fields

end

mutual

/-- Equality of values, literals being compared as JSON values. -/
def same : ArgumentValue → ArgumentValue → Bool
  | .literal left, .literal right => left.same right
  | .enumeration left, .enumeration right => left == right
  | .list left, .list right => sameItems left right
  | .object left, .object right => sameFields left right
  | .variableRef left, .variableRef right => left == right
  | .omitted, .omitted => true
  | _, _ => false

def sameItems : List ArgumentValue → List ArgumentValue → Bool
  | [], [] => true
  | left :: lefts, right :: rights => left.same right && sameItems lefts rights
  | _, _ => false

def sameFields : List (InputField ArgumentValue) →
    List (InputField ArgumentValue) → Bool
  | [], [] => true
  | ⟨leftName, leftType, left⟩ :: lefts, ⟨rightName, rightType, right⟩ ::
      rights =>
      leftName == rightName && leftType == rightType && left.same right &&
        sameFields lefts rights
  | _, _ => false

end

end ArgumentValue

/-- An argument of a field in a document. -/
structure Argument where
  name : String
  value : ArgumentValue

/-- The argument as it is written in a document. -/
def Argument.render (argument : Argument) : String :=
  argument.name ++ ": " ++ argument.value.render

/-- Equality of argument lists, in order. -/
def Argument.sameAll : List Argument → List Argument → Bool
  | [], [] => true
  | left :: lefts, right :: rights =>
      left.name == right.name && left.value.same right.value &&
        sameAll lefts rights
  | _, _ => false

/-- A parenthesised list of arguments, or nothing when there are none. -/
def Argument.renderAll : List Argument → String
  | [] => ""
  | arguments => "(" ++ joined ", " (arguments.map Argument.render) ++ ")"

end GraphPipeline
