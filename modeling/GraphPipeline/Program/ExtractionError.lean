import GraphPipeline.Response.Path

/-!
# Extraction errors

The reasons for which the data of a response has no value for a program, each
with the place of the value it is about.
-/

namespace GraphPipeline

inductive ExtractionError where
  | unexpectedNull (path : ResponsePath)
  | missingField (path : ResponsePath)
  | invalidValue (path : ResponsePath) (expected found : String)
  | missingTypename (path : ResponsePath)
  | typeMismatch (path : ResponsePath) (expected received : String)
  | absent (path : ResponsePath)
  | duplicateKey (path : ResponsePath) (key : String)
  | invalidKey (path : ResponsePath) (found : String)
  | unboundParameter (path : ResponsePath) (depth : Nat)
  deriving DecidableEq

namespace ExtractionError

def path : ExtractionError → ResponsePath
  | .unexpectedNull path => path
  | .missingField path => path
  | .invalidValue path _ _ => path
  | .missingTypename path => path
  | .typeMismatch path _ _ => path
  | .absent path => path
  | .duplicateKey path _ => path
  | .invalidKey path _ => path
  | .unboundParameter path _ => path

/-- What is wrong with the value at the path. -/
def reason : ExtractionError → String
  | .unexpectedNull _ => "expected a value but found null"
  | .missingField _ => "field is missing from the response"
  | .invalidValue _ expected found =>
    "expected " ++ expected ++ " but found " ++ found
  | .missingTypename _ => "missing __typename"
  | .typeMismatch _ expected received =>
      "expected an object of type " ++ expected ++ " but received " ++ received
  | .absent _ => "no value found where exactly one was required"
  | .duplicateKey _ key => "duplicate dictionary key " ++ key
  | .invalidKey _ found =>
      "dictionary keys must be non-null scalars, found " ++ found
  | .unboundParameter _ depth =>
      "no value is bound to the projection parameter at depth " ++
        toString depth

def message (error : ExtractionError) : String :=
  error.path.render ++ ": " ++ error.reason

end ExtractionError

end GraphPipeline
