import GraphPipeline.Text.Joined

/-!
# Log levels

How much the client reports of its work.  Levels are written in lower case and
read in any case of the ASCII letters.
-/

namespace GraphPipeline

inductive LogLevel where
  | off
  | error
  | warn
  | info
  | debug
  | trace
  deriving DecidableEq

namespace LogLevel

def all : List LogLevel :=
  [.off, .error, .warn, .info, .debug, .trace]

def name : LogLevel → String
  | .off => "off"
  | .error => "error"
  | .warn => "warn"
  | .info => "info"
  | .debug => "debug"
  | .trace => "trace"

/-- The text with its ASCII letters in lower case. -/
def lowered (text : String) : List Char :=
  text.toList.map Char.toLower

/-- The level with a name, in any case. -/
def parse? (text : String) : Option LogLevel :=
  all.find? fun level => lowered level.name == lowered text

/-- What is wrong with a text that names no level. -/
def unknownMessage (text : String) : String :=
  "\"" ++ text ++ "\" is not a valid log level (expected one of " ++
    joined ", " (all.map name) ++ ")."

/-- The parts of the client that report on their own. -/
def components : List String :=
  ["engine", "runtime", "runtime_local"]

/-- The level of every part of the client, for a filter of reports. -/
def directive (level : LogLevel) : String :=
  joined "," (components.map fun component => component ++ "=" ++ level.name)

end LogLevel

end GraphPipeline
