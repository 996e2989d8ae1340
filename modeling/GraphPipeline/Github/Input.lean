import GraphPipeline.Github.Schema

/-!
# Input values

The arguments of the fields of the schema are given as JSON values and read by
the types of the arguments.
-/

namespace GraphPipeline.Github

def enumType (definition : EnumDefinition) : NativeType :=
  .symbol definition.values

/-- The native type of the values of a scalar or an enumeration. -/
def leafType? : TypeKind → String → Option NativeType
  | .scalar .int, _ => some .int32
  | .scalar .float, _ => some .float
  | .scalar .boolean, _ => some .bool
  | .scalar _, _ => some .text
  | .enumeration, name => (enum? name).map enumType
  | _, _ => none

/-- The native type of the values of a type, lists included. -/
def nativeType? (type : TypeRef) : Option NativeType :=
  (leafType? type.kind type.name).map fun leaf =>
    type.wrapping.lists.foldl (fun inner _ => .list inner) leaf

/-- The value of a field of an input object.  A field that may be null can be
left out. -/
def readInputField? (members : Entries Json) (field : ArgumentDefinition) :
    Option (InputField ArgumentValue) :=
  let value? :=
    match (Entries.lookup? members field.name).filter (!·.isNull) with
    | some value =>
        (nativeType? field.type).bind fun type =>
          (type.read? value).map NativeValue.toArgument
    | none => if field.type.isNullable then some .omitted else none
  value?.map fun value => { name := field.name, type := field.type, value }

/-- The value of an argument of a type. -/
def readInput? (type : TypeRef) (value : Json) : Option ArgumentValue :=
  match input? type.name, value with
  | some definition, .object members =>
      (definition.fields.mapM (readInputField? members)).map .object
  | some _, _ => none
  | none, _ =>
      (nativeType? type).bind
        fun native => (native.read? value).map NativeValue.toArgument

end GraphPipeline.Github
