import GraphPipeline.Schema.Wrapping

/-!
# References to types

The type of a field or of an argument: a name, the kind of the named type, and
the wrapping around it.
-/

namespace GraphPipeline

inductive ScalarKind where
  | string
  | int
  | float
  | boolean
  | id
  | custom (name : String)
  deriving DecidableEq

/-- The name of a scalar type. -/
def ScalarKind.name : ScalarKind → String
  | .string => "String"
  | .int => "Int"
  | .float => "Float"
  | .boolean => "Boolean"
  | .id => "ID"
  | .custom name => name

inductive TypeKind where
  | scalar (kind : ScalarKind)
  | enumeration
  | object
  | interface
  | union
  | inputObject
  deriving DecidableEq

namespace TypeKind

/-- Whether values of the kind have fields to select. -/
def isComposite : TypeKind → Bool
  | .object | .interface | .union => true
  | _ => false

/-- Whether values of the kind belong to one of several concrete types. -/
def isPolymorphic : TypeKind → Bool
  | .interface | .union => true
  | _ => false

end TypeKind

structure TypeRef where
  name : String
  kind : TypeKind
  wrapping : Wrapping
  deriving DecidableEq

namespace TypeRef

/-- A nullable type without lists. -/
def named (name : String) (kind : TypeKind) : TypeRef :=
  { name, kind, wrapping := Wrapping.nullable }

def scalar (kind : ScalarKind) : TypeRef :=
  named kind.name (.scalar kind)

def enumeration (name : String) : TypeRef :=
  named name .enumeration

def object (name : String) : TypeRef :=
  named name .object

def interface (name : String) : TypeRef :=
  named name .interface

def union (name : String) : TypeRef :=
  named name .union

def inputObject (name : String) : TypeRef :=
  named name .inputObject

def nonNull (type : TypeRef) : TypeRef :=
  { type with wrapping := type.wrapping.nonNull }

def inList (type : TypeRef) (isNonNull : Bool) : Except WrappingError TypeRef :=
  (type.wrapping.inList isNonNull).map fun wrapping => { type with wrapping }

/-- The list type of elements that are not lists themselves. -/
def listOf (type : TypeRef) : TypeRef :=
  match type.inList false with
  | .ok list => list
  | .error _ => type

def isList (type : TypeRef) : Bool :=
  type.wrapping.isList

def isNullable (type : TypeRef) : Bool :=
  type.wrapping.isNullable

/-- The type of the elements of a list type. -/
def element? (type : TypeRef) : Option TypeRef :=
  type.wrapping.element?.map fun wrapping => { type with wrapping }

/-- The type in GraphQL notation. -/
def render (type : TypeRef) : String :=
  type.wrapping.render type.name

end TypeRef

end GraphPipeline
