import GraphPipeline.Program
import GraphPipeline.Program.ExtractionError

/-!
# Pages of connections

A page is a part of the nodes of a connection.  It says whether another page
follows it, and the cursor after which that page starts.
-/

namespace GraphPipeline

structure Page where
  nodes : List Json
  hasNextPage : Bool
  endCursor : Option String

/-- Pages by the number of their connection. -/
abbrev Pages := List (SubqueryId × Page)

def Pages.lookup? (pages : Pages) (id : SubqueryId) : Option Page :=
  (pages.find? (·.1 == id)).map Prod.snd

namespace Page

/-- The members of an object at a path. -/
def objectAt (path : ResponsePath) :
    Json → Except ExtractionError (Entries Json)
  | .object members => .ok members
  | .null => .error (.unexpectedNull path)
  | other => .error (.invalidValue path "an object" other.kind)

/-- The page information of a connection, which must be an object. -/
def pageInfoAt (path : ResponsePath) (keys : PageKeys)
    (members : Entries Json) :
    Except ExtractionError (Entries Json) :=
  match (Entries.lookup? members keys.pageInfo).bind Json.members? with
  | some pageInfo => .ok pageInfo
  | none => .error (.missingField (path.child (.key keys.pageInfo)))

/-- Whether another page follows, which the page information must say. -/
def hasNextPageAt (path : ResponsePath) (keys : PageKeys)
    (pageInfo : Entries Json) :
    Except ExtractionError Bool :=
  match (Entries.lookup? pageInfo keys.hasNextPage).bind Json.bool? with
  | some hasNextPage => .ok hasNextPage
  | none =>
      .error (.missingField
        ((path.child (.key keys.pageInfo)).child (.key keys.hasNextPage)))

/-- The nodes of a connection.  Null counts as no nodes. -/
def nodesAt (path : ResponsePath) (keys : PageKeys) (members : Entries Json) :
    Except ExtractionError (List Json) :=
  match Entries.lookup? members keys.nodes with
  | some (.array nodes) => .ok nodes
  | some .null => .ok []
  | some other =>
      .error (.invalidValue (path.child (.key keys.nodes)) "a list" other.kind)
  | none => .error (.missingField (path.child (.key keys.nodes)))

/-- The page a connection at a path holds. -/
def read (connection : Json) (keys : PageKeys) (path : ResponsePath) :
    Except ExtractionError Page := do
  let members ← objectAt path connection
  let pageInfo ← pageInfoAt path keys members
  let hasNextPage ← hasNextPageAt path keys pageInfo
  let nodes ← nodesAt path keys members
  return {
    nodes
    hasNextPage
    endCursor := (Entries.lookup? pageInfo keys.endCursor).bind Json.text? }

end Page

end GraphPipeline
