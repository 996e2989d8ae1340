import GraphPipeline.Execution.Transport
import GraphPipeline.Program.Page
import GraphPipeline.Response.Error

/-!
# Execution errors

The reasons for which a run of an operation has no result.  Only a request that
failed on its way can succeed when it is made again.
-/

namespace GraphPipeline

/-- What is wrong with a response of the server. -/
inductive ResponseFault where
  | malformed
  | noData
  | noEndCursor (connection : ResponsePath)
  | missingConnection (connection : ResponsePath)
  deriving DecidableEq

/-- The place-holder for what is wrong with a text or a value, in messages about
JSON that cannot be read. -/
def jsonFault : String := "<json>"

def ResponseFault.message : ResponseFault → String
  | .malformed => jsonFault
  | .noData => "the response has neither data nor errors"
  | .noEndCursor connection =>
    connection.render ++ " has a next page but no end cursor"
  | .missingConnection connection =>
      connection.render ++ " is missing from a follow-up page"

inductive ExecutionError where
  | fetch (error : FetchError)
  | protocol (errors : List GraphqlError)
  | extraction (error : ExtractionError)
  | deserialize
  | invalidResponse (fault : ResponseFault)
  | missingVariable (name : String)
  | pageLimitExceeded (id : SubqueryId) (maxPages : Nat)

namespace ExecutionError

def message : ExecutionError → String
  | .fetch error => error.message
  | .protocol errors =>
      "the server returned errors: " ++
        joined "; " (errors.map GraphqlError.render)
  | .extraction error => error.message
  | .deserialize => "could not deserialize the result: " ++ jsonFault
  | .invalidResponse fault => "invalid response: " ++ fault.message
  | .missingVariable name => "missing value for the required variable $" ++ name
  | .pageLimitExceeded id maxPages =>
      "paginated field " ++ toString id ++ " did not end after " ++
        toString maxPages ++
        " pages"

def isRetryable : ExecutionError → Bool
  | .fetch _ => true
  | _ => false

end ExecutionError

end GraphPipeline
