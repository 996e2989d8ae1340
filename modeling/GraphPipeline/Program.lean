import GraphPipeline.Schema.TypeRef

/-!
# Extraction programs

A program turns the data of a response into the value a pipeline describes.
The nodes of a program correspond to the positions of the data they are
evaluated at.  Elements bound by projections are numbered by the depth of the
projection, the root of the data being at depth zero.
-/

namespace GraphPipeline

/-- What happens to an object of another type than the one asked for: a filter
makes it absent, a cast fails. -/
inductive NarrowingMode where
  | filter
  | cast
  deriving DecidableEq

/-- The response keys of a connection and of its page information. -/
structure PageKeys where
  nodes : String
  pageInfo : String
  hasNextPage : String
  endCursor : String
  deriving DecidableEq

/-- The number of a paginated connection of an operation. -/
abbrev SubqueryId := Nat

/-- A `mapList` counts the filters on its elements: an element that one of them
rejects, or that is null before the last of them, is left out.  A `toDictionary`
skips the elements whose entry is null. -/
inductive Program where
  | field (key : String) (inner : Program)
  | readScalar (key : String) (type : TypeRef)
  | optional (inner : Program)
  | mapList (filters : Nat) (inner : Program)
  | narrow (typeName : String) (mode : NarrowingMode) (inner : Program)
  | buildRecord (fields : List (String × Program))
  | enforceSingle (inner : Program)
  | toDictionary (entry : Program)
  | keyValue (key value : Program)
  | subquerySink (id : SubqueryId) (keys : PageKeys) (inner : Program)
  | bind (depth : Nat) (inner : Program)
  | parameter (depth : Nat) (inner : Program)
  deriving Inhabited

/-- A connection whose pages are fetched one after the other: the variable that
holds the cursor, and the response keys that lead to the connection. -/
structure Subquery where
  id : SubqueryId
  variableName : String
  initialCursor : Option String
  path : List String
  keys : PageKeys
  deriving DecidableEq

namespace Program

mutual

/-- The response keys on the way to each field a program reads, in the order of
reading.  Elements of lists and bound elements add no key. -/
def readPathsFrom (start : List String) : Program → List (List String)
  | .field key inner => (start ++ [key]) :: readPathsFrom (start ++ [key]) inner
  | .readScalar key _ => [start ++ [key]]
  | .optional inner => readPathsFrom start inner
  | .mapList _ inner => readPathsFrom start inner
  | .narrow _ _ inner => readPathsFrom start inner
  | .buildRecord fields => readPathsOfFields start fields
  | .enforceSingle inner => readPathsFrom start inner
  | .toDictionary entry => readPathsFrom start entry
  | .keyValue key value => readPathsFrom start key ++ readPathsFrom start value
  | .subquerySink _ keys inner =>
      [start ++ [keys.pageInfo],
        start ++ [keys.pageInfo, keys.hasNextPage],
        start ++ [keys.pageInfo, keys.endCursor],
        start ++ [keys.nodes]] ++
      readPathsFrom (start ++ [keys.nodes]) inner
  | .bind _ inner => readPathsFrom start inner
  | .parameter _ inner => readPathsFrom start inner

def readPathsOfFields (start : List String) :
    List (String × Program) → List (List String)
  | [] => []
  | (_, program) :: fields =>
      readPathsFrom start program ++ readPathsOfFields start fields

end

/-- The paths a program reads from the data of a response. -/
def readPaths (program : Program) : List (List String) :=
  program.readPathsFrom []

mutual

/-- Whether a program goes on from the element bound outside it at a depth. -/
def readsBound (depth : Nat) : Program → Bool
  | .field _ inner => inner.readsBound depth
  | .readScalar _ _ => false
  | .optional inner => inner.readsBound depth
  | .mapList _ inner => inner.readsBound depth
  | .narrow _ _ inner => inner.readsBound depth
  | .buildRecord fields => readsBoundInFields depth fields
  | .enforceSingle inner => inner.readsBound depth
  | .toDictionary entry => entry.readsBound depth
  | .keyValue key value => key.readsBound depth || value.readsBound depth
  | .subquerySink _ _ inner => inner.readsBound depth
  | .bind bound inner => bound != depth && inner.readsBound depth
  | .parameter bound inner => bound == depth || inner.readsBound depth

def readsBoundInFields (depth : Nat) : List (String × Program) → Bool
  | [] => false
  | (_, program) :: fields =>
      program.readsBound depth || readsBoundInFields depth fields

end

/-- Binds the current element at a depth, if the program needs it there. -/
def bindIfRead (depth : Nat) (program : Program) : Program :=
  if program.readsBound depth then .bind depth program else program

end Program

end GraphPipeline
