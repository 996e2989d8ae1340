import GraphPipeline.Proofs.TypedDocument
import GraphPipeline.Program.Evaluation

/-!
# Graphs of objects

A server holds a graph of typed objects and resolves each field of an object by
its name and its written arguments.  A JSON object answers a selection set for
an object of the graph if it holds, under the response keys, answers to what the
fields resolve to.
-/

namespace GraphPipeline

/-- What a field of an object resolves to. -/
inductive Resolved (Node : Type) where
  | null
  | leaf (value : Json)
  | object (node : Node)
  | list (items : List (Resolved Node))

/-- The objects of a server are nodes of a graph.  The value of a field depends
on the node, the name of the field and its written arguments. -/
structure Graph where
  Node : Type
  typeName : Node → String
  root : OperationKind → Node
  resolve : Node → String → String → Resolved Node

/-- What a field resolves to with some arguments. -/
def Graph.field (graph : Graph) (node : graph.Node) (name : String)
    (arguments : List Argument) : Resolved graph.Node :=
  graph.resolve node name (Argument.renderAll arguments)

namespace Resolved

variable {Node : Type}

mutual

/-- A value of a type: null where the type admits it, a list for each list of
the type, and objects or leaves of the kind inside of them. -/
def HasType (kind : TypeKind) : Resolved Node → Wrapping → Prop
  | .null, wrapping => wrapping.isRequired = false
  | .leaf value, wrapping =>
      wrapping.isList = false ∧ kind.isComposite = false ∧
        value.isNull = false ∧
        kind.accepts value = true
  | .object _, wrapping => wrapping.isList = false ∧ kind.isComposite = true
  | .list items, wrapping =>
      ∃ element,
        wrapping.element? = some element ∧ AllHaveType kind items element

def AllHaveType (kind : TypeKind) : List (Resolved Node) → Wrapping → Prop
  | [], _ => True
  | item :: items, element =>
    HasType kind item element ∧ AllHaveType kind items element

end

mutual

/-- Whether a predicate holds of all objects in a value. -/
def EachObject (holds : Node → Prop) : Resolved Node → Prop
  | .null => True
  | .leaf _ => True
  | .object node => holds node
  | .list items => EachObjectOfAll holds items

def EachObjectOfAll (holds : Node → Prop) : List (Resolved Node) → Prop
  | [] => True
  | item :: items => EachObject holds item ∧ EachObjectOfAll holds items

end

mutual

/-- A JSON value that answers a resolved value, given what answers an object. -/
def AnsweredBy (answers : Node → Json → Prop) : Resolved Node → Json → Prop
  | .null, answer => answer = .null
  | .leaf value, answer => answer = value
  | .object node, answer => answers node answer
  | .list items, answer =>
      ∃ answersOfItems, answer = .array answersOfItems ∧
        AllAnsweredBy answers items answersOfItems

def AllAnsweredBy (answers : Node → Json → Prop) :
    List (Resolved Node) → List Json → Prop
  | [], found => found = []
  | item :: items, found =>
      ∃ answer others,
        found = answer :: others ∧ AnsweredBy answers item answer ∧
        AllAnsweredBy answers items others

end

end Resolved

mutual

/-- A JSON value that answers a written selection set for an object. -/
def SelectionSet.Answers (graph : Graph) :
    SelectionSet → graph.Node → Json → Prop
  | .mk requiresTypename fields fragments, node, answer =>
      ∃ members, answer = .object members ∧
        (SelectionSet.asksTypename (.mk requiresTypename fields fragments) =
          true →
          Entries.lookup? members typenameKey =
            some (.string (graph.typeName node))) ∧
        SelectionSet.AnswersFields graph fields node members ∧
        SelectionSet.AnswersFragments graph fragments node members

def SelectionSet.AnswersFields (graph : Graph) :
    List FieldSelection → graph.Node → Entries Json → Prop
  | [], _, _ => True
  | field :: fields, node, members =>
      FieldSelection.Answers graph field node members ∧
        SelectionSet.AnswersFields graph fields node members

/-- The answer to a field is among the members of the object, under its response
key. -/
def FieldSelection.Answers (graph : Graph) :
    FieldSelection → graph.Node → Entries Json → Prop
  | .mk name responseAlias arguments none, node, members =>
      ∃ answer,
        Entries.lookup? members (responseAlias.getD name) = some answer ∧
        (graph.field node name arguments).AnsweredBy (fun _ _ => False) answer
  | .mk name responseAlias arguments (some selections), node, members =>
      ∃ answer,
        Entries.lookup? members (responseAlias.getD name) = some answer ∧
        (graph.field node name arguments).AnsweredBy
          (SelectionSet.Answers graph selections) answer

/-- The fragments on the type of the object are answered too. -/
def SelectionSet.AnswersFragments (graph : Graph) :
    List (String × SelectionSet) → graph.Node → Entries Json → Prop
  | [], _, _ => True
  | (typeName, selections) :: fragments, node, members =>
      (graph.typeName node = typeName →
        SelectionSet.Answers graph selections node (.object members)) ∧
        SelectionSet.AnswersFragments graph fragments node members

end

mutual

/-- Every field that is selected on an object, and on the objects below it,
resolves to a value of its declared type. -/
def TypedSet.ServedBy (graph : Graph) : TypedSet → graph.Node → Prop
  | .mk _ fields fragments, node =>
      TypedSet.FieldsServedBy graph fields node ∧
        TypedSet.FragmentsServedBy graph fragments node

def TypedSet.FieldsServedBy (graph : Graph) :
    List TypedField → graph.Node → Prop
  | [], _ => True
  | field :: fields, node =>
      TypedField.ServedBy graph field node ∧
        TypedSet.FieldsServedBy graph fields node

def TypedField.ServedBy (graph : Graph) : TypedField → graph.Node → Prop
  | .mk name _ type arguments none, node =>
      (graph.field node name arguments).HasType type.kind type.wrapping
  | .mk name _ type arguments (some selections), node =>
      (graph.field node name arguments).HasType type.kind type.wrapping ∧
        (graph.field node name arguments).EachObject
          (TypedSet.ServedBy graph selections)

def TypedSet.FragmentsServedBy (graph : Graph) :
    List (String × TypedSet) → graph.Node → Prop
  | [], _ => True
  | (typeName, selections) :: fragments, node =>
      (graph.typeName node = typeName →
        TypedSet.ServedBy graph selections node) ∧
        TypedSet.FragmentsServedBy graph fragments node

end

end GraphPipeline
