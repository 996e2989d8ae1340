import GraphPipeline.Config.Basic
import GraphPipeline.Config.DurationText
import GraphPipeline.Toml.Document
import GraphPipeline.Url.Parser

/-!
# Reading configurations

A configuration is written in TOML.  Its fields are read in the order in which
they are written, and the first one that cannot be read is the error of the
whole.  Fields that are not written keep their standard values, and no other
fields may be written.  A table may also be given as the array of its values.
-/

namespace GraphPipeline

inductive ConfigError where
  | unreadable (path reason : String)
  | malformed
  | unknownField (name : String) (expected : List String)
  | missingField (name : String)
  | unknownLogLevel (text : String)
  deriving DecidableEq

namespace ConfigError

/-- The name of a field in a message. -/
def marked (name : String) : String :=
  "`" ++ name ++ "`"

/-- The names of the fields that were expected. -/
def expectation : List String → String
  | [] => "nothing"
  | [only] => marked only
  | [first, second] => marked first ++ " or " ++ marked second
  | names => "one of " ++ joined ", " (names.map marked)

/-- What is wrong, unless the text is no configuration at all. -/
def message? : ConfigError → Option String
  | .unreadable path reason =>
    some ("could not read " ++ path ++ ": " ++ reason)
  | .malformed => none
  | .unknownField name expected =>
      some ("unknown field " ++ marked name ++ ", expected " ++
        expectation expected)
  | .missingField name => some ("missing field " ++ marked name)
  | .unknownLogLevel text => some (LogLevel.unknownMessage text)

end ConfigError

namespace ConfigReader

/-- The reading of a value, or what is wrong with it. -/
abbrev Reading := Except ConfigError

def text : Toml.Value → Reading String
  | .string value => .ok value
  | _ => .error .malformed

def natural : Toml.Value → Reading Nat
  | .integer value => if 0 ≤ value then .ok value.toNat else .error .malformed
  | _ => .error .malformed

def orMalformed {α : Type} : Option α → Reading α
  | some value => .ok value
  | none => .error .malformed

/-- An absolute URL in its normal form. -/
def endpoint (value : Toml.Value) : Reading String := do
  let written ← text value
  let address ← orMalformed (Url.parse? written)
  return address.render

def duration (value : Toml.Value) : Reading Duration := do
  let written ← text value
  orMalformed (DurationText.parse? written)

def logLevel (value : Toml.Value) : Reading LogLevel := do
  let written ← text value
  match LogLevel.parse? written with
  | some level => .ok level
  | none => .error (.unknownLogLevel written)

/-- The only field of a date where a table is expected. -/
def dateField : String := "$__toml_private_datetime"

/-- The fields of a table with their values, in order. -/
def fieldValues (names : List String) :
    Toml.Value → Reading (Entries Toml.Value)
  | .table members => .ok members
  | .array items => .ok (names.zip items)
  | .dateTime written => .ok [(dateField, .string written)]
  | _ => .error .malformed

def headerFields : List String := ["name", "value"]

/-- A header while its fields are read. -/
structure PartialHeader where
  name : Option String
  value : Option String

def setHeaderField (header : PartialHeader) (field : String × Toml.Value) :
    Reading PartialHeader := do
  match field with
  | ("name", value) => return { header with name := some (← text value) }
  | ("value", value) => return { header with value := some (← text value) }
  | (name, _) => .error (.unknownField name headerFields)

/-- A header, whose fields have to be written.  An array that is too short is
malformed. -/
def header (value : Toml.Value) : Reading HeaderField := do
  let fields ← fieldValues headerFields value
  let read ← fields.foldlM setHeaderField { name := none, value := none }
  match value, read.name, read.value with
  | _, some name, some text => return { name, value := text }
  | .array _, _, _ => .error .malformed
  | _, none, _ => .error (.missingField "name")
  | _, some _, none => .error (.missingField "value")

def headers : Toml.Value → Reading (List HeaderField)
  | .array items => items.mapM header
  | _ => .error .malformed

def paginationFields : List String := ["max_pages", "concurrent_handles"]

def setPaginationField (pagination : PaginationConfig)
    (field : String × Toml.Value) :
    Reading PaginationConfig := do
  match field with
  | ("max_pages", value) =>
    return { pagination with maxPages := ← natural value }
  | ("concurrent_handles", value) =>
      return { pagination with concurrentHandles := ← natural value }
  | (name, _) => .error (.unknownField name paginationFields)

def pagination (value : Toml.Value) : Reading PaginationConfig := do
  let fields ← fieldValues paginationFields value
  fields.foldlM setPaginationField PaginationConfig.standard

def clientFields : List String :=
  ["endpoint", "timeout", "user_agent", "token", "headers", "pagination",
   "log_level"]

def setClientField (config : ClientConfig) (field : String × Toml.Value) :
    Reading ClientConfig := do
  match field with
  | ("endpoint", value) => return { config with endpoint := ← endpoint value }
  | ("timeout", value) => return { config with timeout := ← duration value }
  | ("user_agent", value) => return { config with userAgent := ← text value }
  | ("token", value) => return { config with token := some (← text value) }
  | ("headers", value) => return { config with headers := ← headers value }
  | ("pagination", value) =>
    return { config with pagination := ← pagination value }
  | ("log_level", value) => return { config with logLevel := ← logLevel value }
  | (name, _) => .error (.unknownField name clientFields)

end ConfigReader

namespace ClientConfig

/-- The configuration written in a text. -/
def parse (text : String) : Except ConfigError ClientConfig := do
  let fields ← ConfigReader.orMalformed (Toml.parse? text)
  fields.foldlM ConfigReader.setClientField ClientConfig.standard

/-- The configuration in a file, given the text of the file or the reason for
which it cannot be read. -/
def load (path : String) (content : Except String String) :
    Except ConfigError ClientConfig :=
  match content with
  | .ok text => parse text
  | .error reason => .error (.unreadable path reason)

end ClientConfig

end GraphPipeline
