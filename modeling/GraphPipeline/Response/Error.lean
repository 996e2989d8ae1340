import GraphPipeline.Response.Path

/-!
# Errors reported by the server

An error has a message and may say where in the data and in the document it
arose.  What it does not say is left out when it is written.
-/

namespace GraphPipeline

/-- A place in a document. -/
structure Location where
  line : Nat
  column : Nat
  deriving DecidableEq

structure GraphqlError where
  message : String
  path : Option ResponsePath
  locations : List Location
  extensions : Entries Json

namespace Location

/-- The first line or column that is too large. -/
def limit : Nat := 0x100000000

def fieldNames : List String := ["line", "column"]

def toJson (location : Location) : Json :=
  .object [("line", .number (.integer location.line)),
    ("column", .number (.integer location.column))]

def ofJson? (value : Json) : Option Location :=
  match value.record? fieldNames with
  | some [some line, some column] => do
      return { line := ← line.natBelow? limit,
               column := ← column.natBelow? limit }
  | _ => none

end Location

namespace GraphqlError

/-- An error that has nothing but a message. -/
def ofMessage (message : String) : GraphqlError :=
  { message, path := none, locations := [], extensions := [] }

/-- The message, followed by the path if there is one. -/
def render (error : GraphqlError) : String :=
  match error.path with
  | some path => error.message ++ " (at " ++ path.render ++ ")"
  | none => error.message

/-- The members that are written for a value unless it is empty. -/
def memberUnless (isEmpty : Bool) (key : String) (value : Json) :
    List (String × Json) :=
  if isEmpty then [] else [(key, value)]

def toJson (error : GraphqlError) : Json :=
  .object
    ([("message", .string error.message)] ++
      (match error.path with
        | some path => [("path", path.toJson)]
        | none => []) ++
      memberUnless error.locations.isEmpty "locations"
        (.array (error.locations.map Location.toJson)) ++
      memberUnless error.extensions.isEmpty "extensions"
        (.object error.extensions))

def fieldNames : List String := ["message", "path", "locations", "extensions"]

/-- A path that is not given may be written as null. -/
def readPath? : Option Json → Option (Option ResponsePath)
  | none => some none
  | some .null => some none
  | some value => (ResponsePath.ofJson? value).map some

def readLocations? : Option Json → Option (List Location)
  | none => some []
  | some value => value.listOf? Location.ofJson?

def readExtensions? : Option Json → Option (Entries Json)
  | none => some []
  | some value => value.members?

def ofJson? (value : Json) : Option GraphqlError :=
  match value.record? fieldNames with
  | some [some (.string message), path, locations, extensions] => do
      return {
        message
        path := ← readPath? path
        locations := ← readLocations? locations
        extensions := ← readExtensions? extensions }
  | _ => none

/-- What is read of an error in a text. -/
def readShape : Json.ReadShape :=
  .record
    [("message", .whole),
      ("path", .whole),
      ("locations",
       .list (.record (Location.fieldNames.map fun name => (name, .whole)))),
      ("extensions", .whole)]

/-- The error written in a text. -/
def parse? (text : String) : Option GraphqlError :=
  ((Json.Raw.ofString? text).bind (·.read? readShape Json.nestingLimit)).bind
    ofJson?

end GraphqlError

end GraphPipeline
