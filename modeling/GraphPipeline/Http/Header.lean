/-!
# Header fields

Which names and values a header field of a request may have.  A name is a token,
and a value has no control character but the tab.
-/

namespace GraphPipeline

structure HeaderField where
  name : String
  value : String
  deriving DecidableEq

/-- The field with an impossible name or value. -/
inductive HeaderError where
  | invalidName (name : String)
  | invalidValue (name : String)
  deriving DecidableEq

namespace HeaderError

def message : HeaderError → String
  | .invalidName name =>
    "Invalid header " ++ name ++ ": invalid HTTP header name"
  | .invalidValue name =>
      "Invalid header " ++ name ++ ": failed to parse header value"

end HeaderError

namespace HeaderField

/-- The characters of tokens that are neither letters nor digits. -/
def tokenMarks : List Char :=
  ['!', '#', '$', '%', '&', '\'', '*', '+', '-', '.', '^', '_', Char.ofNat 96,
   '|', '~']

def isTokenCharacter (character : Char) : Bool :=
  character.isAlphanum || character ∈ tokenMarks

/-- The greatest length of a name. -/
def longestName : Nat := 65535

def isName (name : String) : Bool :=
  !name.isEmpty && name.length ≤ longestName && name.toList.all isTokenCharacter

/-- Whether a character may stand in a value. -/
def isValueCharacter (character : Char) : Bool :=
  character = '\t' || (' ' ≤ character && character.toNat ≠ 127)

def isValue (value : String) : Bool :=
  value.toList.all isValueCharacter

def checkName (name : String) : Except HeaderError Unit :=
  if isName name then .ok () else .error (.invalidName name)

/-- Checks the value of a field that has a valid name. -/
def checkValue (name value : String) : Except HeaderError Unit :=
  if isValue value then .ok () else .error (.invalidValue name)

/-- Checks a field, its name before its value. -/
def check (field : HeaderField) : Except HeaderError Unit := do
  checkName field.name
  checkValue field.name field.value

/-- Checks fields in order. -/
def checkAll : List HeaderField → Except HeaderError Unit
  | [] => .ok ()
  | field :: fields => do
      check field
      checkAll fields

end HeaderField

end GraphPipeline
