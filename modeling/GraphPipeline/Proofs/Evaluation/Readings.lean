import GraphPipeline.Proofs.Evaluation.Actions

/-!
# Readings

`Program.Reads` follows the evaluation of a program on a value to the paginated
connections whose nodes it reads.  An evaluation that is given nodes goes on
with them instead of those in the connection.
-/

namespace GraphPipeline

namespace Json

/-- The name of the type of an object, if it has one. -/
def typename? (value : Json) : Option String :=
  (value.member? typenameKey).bind text?

/-- The text of a value that can be the key of a dictionary. -/
def keyText? : Json → Option String
  | .string key => some key
  | .bool value => some (Json.bool value).render
  | .number value => some (Json.number value).render
  | .null => none
  | .array _ => none
  | .object _ => none

end Json

/-- A connection at which the pages of a subquery are read. -/
structure Reading where
  id : SubqueryId
  keys : PageKeys
  connection : Json

/-- The nodes that are read: those that are given, or else those in the
connection. -/
def Reading.nodes? (given : Option AllNodes) (reading : Reading) :
    Option Json :=
  match given.bind (·.lookup? reading.id) with
  | some nodes => some (.array nodes)
  | none =>
      (reading.connection.member? reading.keys.nodes).map fun nodes =>
        if nodes.isNull then .array [] else nodes

/-- Recording a page of the connection keeps what is known of the recorded
pages. -/
def Reading.IsKept (recorded : Pages → Prop) (reading : Reading) : Prop :=
  ∀ {path page pages},
    Page.read reading.connection reading.keys path = .ok page →
    recorded pages → recorded (pages ++ [(reading.id, page)])

/-- The evaluation of a program on a value, with some bindings, comes to a
connection. -/
inductive Program.Reads (given : Option AllNodes) (reading : Reading) :
    (Nat → Option Json) → Program → Json → Prop where
  | field {bindings : Nat → Option Json} {key : String} {inner : Program}
      {value member : Json} :
      value.member? key = some member →
        Reads given reading bindings inner member →
      Reads given reading bindings (.field key inner) value
  | optional {bindings : Nat → Option Json} {inner : Program} {value : Json} :
      value.isNull = false → Reads given reading bindings inner value →
      Reads given reading bindings (.optional inner) value
  | item {bindings : Nat → Option Json} {filters : Nat} {inner : Program}
      {items : List Json} {item : Json} :
      item ∈ items → Reads given reading bindings inner item →
      Reads given reading bindings (.mapList filters inner) (.array items)
  | narrow {bindings : Nat → Option Json} {typeName : String}
      {mode : NarrowingMode} {inner : Program} {value : Json} :
      value.typename? = some typeName →
        Reads given reading bindings inner value →
      Reads given reading bindings (.narrow typeName mode inner) value
  | member {bindings : Nat → Option Json} {fields : List (String × Program)}
      {field : String × Program} {value : Json} :
      field ∈ fields → Reads given reading bindings field.2 value →
      Reads given reading bindings (.buildRecord fields) value
  | enforceSingle {bindings : Nat → Option Json} {inner : Program}
      {value : Json} :
      Reads given reading bindings inner value →
      Reads given reading bindings (.enforceSingle inner) value
  | entry {bindings : Nat → Option Json} {inner : Program} {items : List Json}
      {item : Json} :
      item ∈ items → Reads given reading bindings inner item →
      Reads given reading bindings (.toDictionary inner) (.array items)
  | key {bindings : Nat → Option Json} {key inner : Program} {value : Json} :
      Reads given reading bindings key value →
      Reads given reading bindings (.keyValue key inner) value
  | value {bindings : Nat → Option Json} {key inner : Program} {value : Json} :
      Reads given reading bindings inner value →
      Reads given reading bindings (.keyValue key inner) value
  | here {bindings : Nat → Option Json} {inner : Program} :
      Reads given reading bindings (.subquerySink reading.id reading.keys inner)
        reading.connection
  | nodes {bindings : Nat → Option Json} {id : SubqueryId} {keys : PageKeys}
      {inner : Program} {value nodes : Json} :
      Reading.nodes? given ⟨id, keys, value⟩ = some nodes →
      Reads given reading bindings inner nodes →
      Reads given reading bindings (.subquerySink id keys inner) value
  | bind {bindings : Nat → Option Json} {depth : Nat} {inner : Program}
      {value : Json} :
      Reads given reading (Function.update bindings depth (some value)) inner
        value →
      Reads given reading bindings (.bind depth inner) value
  | parameter {bindings : Nat → Option Json} {depth : Nat} {inner : Program}
      {value element : Json} :
      bindings depth = some element →
        Reads given reading bindings inner element →
      Reads given reading bindings (.parameter depth inner) value

theorem Program.Reads.sink {given : Option AllNodes} {reading : Reading}
    {bindings : Nat → Option Json} {id : SubqueryId} {keys : PageKeys}
    {inner : Program} {value : Json}
    (reads :
      (Program.subquerySink id keys inner).Reads given reading bindings value) :
    reading = ⟨id, keys, value⟩ ∨
      ∃ nodes, Reading.nodes? given ⟨id, keys, value⟩ = some nodes ∧
        inner.Reads given reading bindings nodes := by
  cases reading with
  | mk readId readKeys connection =>
      cases reads with
      | here => exact Or.inl rfl
      | nodes known inside => exact Or.inr ⟨_, known, inside⟩

end GraphPipeline
