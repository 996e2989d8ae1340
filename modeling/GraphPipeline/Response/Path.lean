import GraphPipeline.Json.Record
import GraphPipeline.Text.Joined

/-!
# Response paths

The place of a value in the data of a response: the keys of objects and the
indices of list elements that lead to it from the root.
-/

namespace GraphPipeline

inductive PathSegment where
  | key (name : String)
  | index (position : Nat)
  deriving DecidableEq

abbrev ResponsePath := List PathSegment

namespace PathSegment

/-- A key follows a point, unless it comes first, and an index stands in
brackets. -/
def render : PathSegment → String
  | .key name => "." ++ name
  | .index position => "[" ++ toString position ++ "]"

def toJson : PathSegment → Json
  | .key name => .string name
  | .index position => .number (.integer position)

/-- The first index that is too large. -/
def indexLimit : Nat := 0x10000000000000000

def ofJson? : Json → Option PathSegment
  | .string name => some (.key name)
  | value => (value.natBelow? indexLimit).map .index

end PathSegment

namespace ResponsePath

/-- The segments in order, or a word for the root. -/
def render : ResponsePath → String
  | [] => "(root)"
  | .key name :: rest => name ++ joined "" (rest.map PathSegment.render)
  | .index position :: rest =>
      PathSegment.render (.index position) ++
        joined "" (rest.map PathSegment.render)

/-- The path of a member of the value at a path. -/
def child (path : ResponsePath) (segment : PathSegment) : ResponsePath :=
  path ++ [segment]

def toJson (path : ResponsePath) : Json :=
  .array (path.map PathSegment.toJson)

def ofJson? (value : Json) : Option ResponsePath :=
  value.listOf? PathSegment.ofJson?

/-- The path of an object that is reached through objects alone. -/
def ofKeys (keys : List String) : ResponsePath :=
  keys.map PathSegment.key

end ResponsePath

end GraphPipeline
