import GraphPipeline.Schema.TypeRef

/-!
# Field definitions

What the schema says of a field: its name, its type and the arguments it takes.
A field is a connection, whose elements come in pages, when it takes an `after`
cursor and returns a single object.
-/

namespace GraphPipeline

structure ArgumentDefinition where
  name : String
  type : TypeRef
  deriving DecidableEq

structure FieldDefinition where
  name : String
  type : TypeRef
  arguments : List ArgumentDefinition
  deriving DecidableEq

namespace FieldDefinition

/-- The first argument of a name. -/
def argument? (field : FieldDefinition) (name : String) :
    Option ArgumentDefinition :=
  field.arguments.find? (·.name == name)

def isConnection (field : FieldDefinition) : Bool :=
  (field.argument? "after").isSome && !field.type.isList &&
    field.type.kind == .object

end FieldDefinition

/-- The field of a connection that describes its current page. -/
def pageInfoField : FieldDefinition :=
  { name := "pageInfo"
    type := (TypeRef.object "PageInfo").nonNull
    arguments := [] }

def hasNextPageField : FieldDefinition :=
  { name := "hasNextPage"
    type := (TypeRef.scalar .boolean).nonNull
    arguments := [] }

def endCursorField : FieldDefinition :=
  { name := "endCursor"
    type := TypeRef.scalar .string
    arguments := [] }

end GraphPipeline
