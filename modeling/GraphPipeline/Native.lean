import GraphPipeline.Argument
import GraphPipeline.Number.Extended

/-!
# Native values

The callers of a pipeline hold typed values: they pass some as arguments and ask
for the result of a run as one.  A native type says which JSON values can be
read as one of its values.  An integer can be read as a binary number, but not
the other way round, and `null` can only be read as an absent value.
-/

namespace GraphPipeline

inductive NativeType where
  | json
  | bool
  | integer (least greatest : Int)
  | float
  | text
  | optional (value : NativeType)
  | list (item : NativeType)
  | symbol (names : List String)

inductive NativeValue where
  | json (value : Json)
  | bool (value : Bool)
  | integer (value : Int)
  | float (value : Extended64)
  | text (value : String)
  | absent
  | list (items : List NativeValue)
  | symbol (name : String)

namespace NativeType

def int32 : NativeType := .integer (-0x80000000) 0x7fffffff

def int64 : NativeType := .integer (-0x8000000000000000) 0x7fffffffffffffff

def nat16 : NativeType := .integer 0 0xffff

def nat32 : NativeType := .integer 0 0xffffffff

def nat64 : NativeType := .integer 0 0xffffffffffffffff

/-- A symbol is given by its name, or as an object with the name as its only
key and `null` under it. -/
def readSymbol? (names : List String) : Json → Option NativeValue
  | .string name => if name ∈ names then some (.symbol name) else none
  | .object [(name, .null)] =>
    if name ∈ names then some (.symbol name) else none
  | _ => none

/-- The native value of a JSON value, if the type has one. -/
def read? : NativeType → Json → Option NativeValue
  | .json, value => some (.json value)
  | .bool, .bool value => some (.bool value)
  | .integer least greatest, .number (.integer value) =>
      if least ≤ value ∧ value ≤ greatest then some (.integer value) else none
  | .float, .number (.float value) => some (.float (.finite value))
  | .float, .number (.integer value) =>
      (Binary64.ofInt? value).map fun rounded => .float (.finite rounded)
  | .text, .string value => some (.text value)
  | .optional _, .null => some .absent
  | .optional type, value => type.read? value
  | .list type, .array items => (items.mapM type.read?).map .list
  | .symbol names, value => readSymbol? names value
  | _, _ => none

end NativeType

namespace NativeValue

mutual

/-- The value as an argument.  Numbers that are not finite have no literal and
become `null`. -/
def toArgument : NativeValue → ArgumentValue
  | .json value => .literal value
  | .bool value => .literal (.bool value)
  | .integer value => .literal (.number (.integer value))
  | .float (.finite value) => .literal (.number (.float value))
  | .float _ => .literal .null
  | .text value => .literal (.string value)
  | .absent => .literal .null
  | .list items => .list (toArguments items)
  | .symbol name => .enumeration name

def toArguments : List NativeValue → List ArgumentValue
  | [] => []
  | item :: items => item.toArgument :: toArguments items

end

mutual

/-- The value as JSON. -/
def toJson : NativeValue → Json
  | .json value => value
  | .bool value => .bool value
  | .integer value => .number (.integer value)
  | .float (.finite value) => .number (.float value)
  | .float _ => .null
  | .text value => .string value
  | .absent => .null
  | .list items => .array (toJsonItems items)
  | .symbol name => .string name

def toJsonItems : List NativeValue → List Json
  | [] => []
  | item :: items => item.toJson :: toJsonItems items

end

end NativeValue

/-- An argument given by a value, or by the name of a variable that will hold
it when the pipeline is run. -/
inductive Supplied (α : Type) where
  | value (given : α)
  | variableRef (name : String)

namespace Supplied

def toArgument : Supplied NativeValue → ArgumentValue
  | .value given => given.toArgument
  | .variableRef name => .variableRef name

/-- An argument that need not be supplied. -/
def toOptionalArgument : Option (Supplied NativeValue) → ArgumentValue
  | some supplied => supplied.toArgument
  | none => .omitted

end Supplied

end GraphPipeline
