import GraphPipeline.Entries
import GraphPipeline.Number.Extended

/-!
# TOML values and tables

A document is built by opening tables and by setting keys in them.  A table
remembers how it came up: it was opened by a header, it is implied by the header
of a table inside it, or it is implied by a key with dots.  A table may be
opened once, and a key with dots adds only to tables that keys with dots imply.
-/

namespace GraphPipeline.Toml

inductive Value where
  | string (value : String)
  | integer (value : Int)
  | float (value : Extended64)
  | boolean (value : Bool)
  | dateTime (text : String)
  | array (items : List Value)
  | table (members : List (String × Value))

/-- How a table came up. -/
inductive Origin where
  | opened
  | implied
  | dotted
  deriving DecidableEq

/-- What a key stands for while a document is built.  Each element of an array
of tables is an opened table. -/
inductive Item where
  | value (value : Value)
  | table (origin : Origin) (members : List (String × Item))
  | tables (elements : List (List (String × Item)))

mutual

/-- The finished value of an item. -/
def Item.toValue : Item → Value
  | .value value => value
  | .table _ members => .table (membersToValues members)
  | .tables elements => .array (elementsToValues elements)

def membersToValues : List (String × Item) → List (String × Value)
  | [] => []
  | (key, item) :: members => (key, item.toValue) :: membersToValues members

def elementsToValues : List (List (String × Item)) → List Value
  | [] => []
  | members :: elements =>
    .table (membersToValues members) :: elementsToValues elements

end

/-- A change of the members of a table, which may be impossible. -/
abbrev Change := Origin → Entries Item → Option (Entries Item)

/-- Whether a path of some origin may go on into a table. -/
def mayEnter (path table : Origin) : Bool :=
  !(path == .dotted && table == .opened)

/-- Changes the table at the end of a path.  Tables that are missing on the way
come up with the origin of the path, and an array of tables stands for its last
element. -/
def changeAt (origin : Origin) : List String → Change → Change
  | [], change, table, members => change table members
  | key :: path, change, _, members =>
      match Entries.lookup? members key with
      | none =>
          (changeAt origin path change origin []).map fun inner =>
            members ++ [(key, .table origin inner)]
      | some (.value _) => none
      | some (.table table inner) =>
          if mayEnter origin table then
            (changeAt origin path change table inner).map fun inner =>
              Entries.put members key (.table table inner)
          else none
      | some (.tables elements) =>
          match elements.getLast? with
          | none => none
          | some last =>
              (changeAt origin path change .opened last).map fun last =>
                Entries.put members key (.tables (elements.dropLast ++ [last]))

/-- Opens a table under a key.  One that is implied by a header is moved to the
end of its parent. -/
def openTable (key : String) : Change := fun _ members =>
  match Entries.lookup? members key with
  | none => some (members ++ [(key, .table .opened [])])
  | some (.table .implied inner) =>
      some (members.filter (·.1 != key) ++ [(key, .table .opened inner)])
  | some _ => none

/-- Opens a new element of the array of tables under a key. -/
def openElement (key : String) : Change := fun _ members =>
  match Entries.lookup? members key with
  | none => some (members ++ [(key, .tables [[]])])
  | some (.tables elements) =>
    some (Entries.put members key (.tables (elements ++ [[]])))
  | some _ => none

/-- Sets a key at the end of a path of keys with dots between them. -/
def setKey (path : List String) (key : String) (value : Value) : Change :=
  changeAt .dotted path fun table members =>
    if decide (table = .dotted) = path.isEmpty then none
    else if Entries.contains members key then none
    else some (members ++ [(key, .value value)])

/-- A key with dots, split at the last dot. -/
def splitLast : List String → Option (List String × String)
  | [] => none
  | [key] => some ([], key)
  | key :: next :: rest =>
      (splitLast (next :: rest)).map fun (path, last) => (key :: path, last)

/-- The members of an inline table, from its keys and values in order. -/
def inlineTable? (pairs : List (List String × Value)) : Option (Entries Item) :=
  pairs.foldl (fun members? (keys, value) => do
    let members ← members?
    let (path, key) ← splitLast keys
    setKey path key value .opened members) (some [])

end GraphPipeline.Toml
