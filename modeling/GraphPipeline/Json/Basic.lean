import GraphPipeline.Entries
import GraphPipeline.Number.Binary64

/-!
# JSON values

Responses, variables and results are JSON values.  Objects keep the order of
their members.  A number is either an integer or a binary64 number, and the two
never compare equal; two objects are equal when they have the same members in
any order.
-/

namespace GraphPipeline

inductive Json.Number where
  | integer (value : Int)
  | float (value : Binary64)
  deriving DecidableEq

inductive Json where
  | null
  | bool (value : Bool)
  | number (value : Json.Number)
  | string (value : String)
  | array (items : List Json)
  | object (members : List (String × Json))
  deriving Inhabited

namespace Json

/-- Equality of numbers of one kind, the two zeros of the binary kind being
equal. -/
def Number.same : Number → Number → Bool
  | .integer left, .integer right => left == right
  | .float left, .float right => left.sameValue right
  | _, _ => false

mutual

/-- Equality of values, without regard to the order of the members of
objects. -/
def same : Json → Json → Bool
  | .null, .null => true
  | .bool left, .bool right => left == right
  | .number left, .number right => left.same right
  | .string left, .string right => left == right
  | .array left, .array right => sameItems left right
  | .object left, .object right =>
      left.length == right.length && sameMembers left right
  | _, _ => false

def sameItems : List Json → List Json → Bool
  | [], [] => true
  | left :: lefts, right :: rights => left.same right && sameItems lefts rights
  | _, _ => false

/-- Each member on the left has an equal value on the right. -/
def sameMembers : List (String × Json) → Entries Json → Bool
  | [], _ => true
  | (key, left) :: lefts, rights =>
      (match Entries.lookup? rights key with
        | some right => left.same right
        | none => false) && sameMembers lefts rights

end

def isNull : Json → Bool
  | .null => true
  | _ => false

/-- The text of a string. -/
def text? : Json → Option String
  | .string value => some value
  | _ => none

def bool? : Json → Option Bool
  | .bool value => some value
  | _ => none

def members? : Json → Option (Entries Json)
  | .object members => some members
  | _ => none

/-- The member of an object under a key. -/
def member? (value : Json) (key : String) : Option Json :=
  value.members?.bind (Entries.lookup? · key)

/-- The indefinite name of the kind of a value, for messages. -/
def kind : Json → String
  | .null => "null"
  | .bool _ => "a boolean"
  | .number _ => "a number"
  | .string _ => "a string"
  | .array _ => "a list"
  | .object _ => "an object"

end Json

end GraphPipeline
