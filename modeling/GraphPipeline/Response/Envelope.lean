import GraphPipeline.Response.Error

/-!
# Response envelopes

The body of a response holds the data of the operation and the errors that arose
in it.
-/

namespace GraphPipeline

structure Envelope where
  data : Option Json
  errors : List GraphqlError

namespace Envelope

def fieldNames : List String := ["data", "errors"]

/-- Data that is null counts as no data. -/
def readData : Option Json → Option Json
  | some .null => none
  | data => data

def readErrors? : Option Json → Option (List GraphqlError)
  | none => some []
  | some value => value.listOf? GraphqlError.ofJson?

def ofJson? (value : Json) : Option Envelope :=
  match value.record? fieldNames with
  | some [data, errors] =>
      (readErrors? errors).map fun errors => { data := readData data, errors }
  | _ => none

def readShape : Json.ReadShape :=
  .record [("data", .whole), ("errors", .list GraphqlError.readShape)]

/-- The envelope in the body of a response. -/
def ofBytes? (bytes : List UInt8) : Option Envelope :=
  ((Json.Raw.ofBytes? bytes).bind (·.read? readShape Json.nestingLimit)).bind
    ofJson?

end Envelope

end GraphPipeline
