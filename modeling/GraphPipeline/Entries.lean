/-!
# Entries in insertion order

Objects, variables and response keys are lists of named values that keep the
order in which the names first came up.  Writing to a name that is present
replaces the value and keeps the position.
-/

namespace GraphPipeline

abbrev Entries (α : Type) := List (String × α)

namespace Entries

variable {α : Type}

def keys (entries : Entries α) : List String :=
  entries.map Prod.fst

/-- The value of the first entry with the name. -/
def lookup? (entries : Entries α) (key : String) : Option α :=
  (entries.find? (·.1 == key)).map Prod.snd

def contains (entries : Entries α) (key : String) : Bool :=
  entries.any (·.1 == key)

/-- The entries with a name set to a value. -/
def put : Entries α → String → α → Entries α
  | [], key, value => [(key, value)]
  | (name, old) :: rest, key, value =>
      if name = key then (key, value) :: rest
      else (name, old) :: put rest key value

/-- A list of assignments, carried out in order. -/
def ofAssignments (assignments : List (String × α)) : Entries α :=
  assignments.foldl (fun entries entry => put entries entry.1 entry.2) []

end Entries

end GraphPipeline
