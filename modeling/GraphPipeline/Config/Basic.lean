import GraphPipeline.Config.LogLevel
import GraphPipeline.Execution.Client
import GraphPipeline.Http.Header

/-!
# The configuration of a client

Where requests are sent, with which headers, how long a reply is waited for, and
how many pages of a connection are fetched.
-/

namespace GraphPipeline

structure PaginationConfig where
  maxPages : Nat
  concurrentHandles : Nat
  deriving DecidableEq

/-- The endpoint is the normal text of an URL. -/
structure ClientConfig where
  endpoint : String
  timeout : Duration
  userAgent : String
  token : Option String
  headers : List HeaderField
  pagination : PaginationConfig
  logLevel : LogLevel
  deriving DecidableEq

def PaginationConfig.standard : PaginationConfig :=
  { maxPages := 1000, concurrentHandles := 4 }

namespace ClientConfig

/-- The configuration that is used where nothing is said. -/
def standard : ClientConfig :=
  { endpoint := "https://api.github.com/graphql"
    timeout := .ofMilliseconds 30000
    userAgent := "octokit-graphql/0.1.0"
    token := none
    headers := []
    pagination := .standard
    logLevel := .warn }

/-- The part of the configuration that decides how operations are run. -/
def options (config : ClientConfig) : ClientOptions :=
  { timeout := config.timeout
    maxPages := config.pagination.maxPages
    concurrentHandles := config.pagination.concurrentHandles }

def checkToken : Option String → Except HeaderError Unit
  | none => .ok ()
  | some token => HeaderField.checkValue "authorization" ("bearer " ++ token)

/-- Checks the headers every request gets: the user agent, the token, and the
fields of the configuration. -/
def checkHeaders (config : ClientConfig) : Except HeaderError Unit := do
  HeaderField.checkValue "user-agent" config.userAgent
  checkToken config.token
  HeaderField.checkAll config.headers

end ClientConfig

end GraphPipeline
