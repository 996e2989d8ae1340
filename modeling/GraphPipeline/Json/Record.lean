import GraphPipeline.Json.Reader

/-!
# Records in JSON

A record is written as an object, in which unknown members are passed over, or
as the array of its fields in their order, in which trailing fields may be left
out.  No field may be given twice.
-/

namespace GraphPipeline.Json

/-- The value of a field of an object, `none` when it is not given.  A field
that is given twice makes the object unreadable. -/
def fieldOf? (members : List (String × Json)) (field : String) :
    Option (Option Json) :=
  match members.filter (·.1 == field) with
  | [] => some none
  | [(_, value)] => some (some value)
  | _ => none

/-- The values of the fields of a record, in the order of the fields. -/
def record? (fields : List String) : Json → Option (List (Option Json))
  | .object members => fields.mapM (fieldOf? members)
  | .array items =>
      if items.length ≤ fields.length then
        some (items.map some ++
          List.replicate (fields.length - items.length) none)
      else none
  | _ => none

/-- The values of a list, each read by the same reader. -/
def listOf? {α : Type} (read? : Json → Option α) : Json → Option (List α)
  | .array items => items.mapM read?
  | _ => none

/-- A natural number below a limit. -/
def natBelow? (limit : Nat) : Json → Option Nat
  | .number (.integer value) =>
      if 0 ≤ value ∧ value < limit then some value.toNat else none
  | _ => none

end GraphPipeline.Json
