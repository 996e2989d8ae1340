import GraphPipeline.Proofs.Compile.Walk
import GraphPipeline.Proofs.Evaluation.Readings
import GraphPipeline.Proofs.Graph

/-!
# What pipelines mean

The value of a pipeline on a graph, found step by step without a document.  A
step goes from what is found so far, an item or the items of a list, to what a
field, a projection or a reducer makes of it.  An absent item stays absent.
-/

namespace GraphPipeline

/-- An object that steps have led to, or the value that they have ended with. -/
inductive Item (Node : Type) where
  | object (node : Node)
  | value (value : Json)

/-- What steps have found: an item, or the items of a list. -/
inductive Found (Node : Type) where
  | one (item : Option (Item Node))
  | many (items : List (Option (Item Node)))

/-- The dictionary of some keys and values, if the keys are distinct scalars. -/
def dictionaryOf (pairs : List (Json × Json)) : Option (Entries Json) :=
  pairs.foldlM
    (fun dictionary pair =>
      pair.1.keyText?.bind fun key =>
        if Entries.contains dictionary key then none
        else some (Entries.put dictionary key pair.2)) []

namespace Resolved

variable {Node : Type}

mutual

/-- The JSON of a value without objects. -/
def json : Resolved Node → Json
  | .null => .null
  | .leaf value => value
  | .object _ => .null
  | .list items => .array (jsonOfAll items)

def jsonOfAll : List (Resolved Node) → List Json
  | [] => []
  | item :: items => json item :: jsonOfAll items

end

def item : Resolved Node → Option (Item Node)
  | .null => none
  | .leaf value => some (.value value)
  | .object node => some (.object node)
  | .list items => some (.value (json (.list items)))

def found : Resolved Node → Found Node
  | .null => .one none
  | .leaf value => .one (some (.value value))
  | .object node => .one (some (.object node))
  | .list items => .many (items.map item)

end Resolved

namespace Item

variable {Node α : Type}

/-- Goes on from an object. -/
def onObject (next : Node → Option α) : Item Node → Option α
  | .object node => next node
  | .value _ => none

/-- Goes on from an item, if there is one. -/
def follow (next : Item Node → Option (Option α)) :
    Option (Item Node) → Option (Option α)
  | none => some none
  | some item => next item

/-- The JSON of an item, given that of one that is there. -/
def read (valueOf : Item Node → Option Json) : Option (Item Node) → Option Json
  | none => some .null
  | some item => valueOf item

/-- The JSON of an item that is not an object. -/
def json? : Item Node → Option Json
  | .object _ => none
  | .value result => some result

end Item

namespace Found

variable {Node : Type}

/-- The JSON of what is found, given that of its items and how the JSON of a
list is put together. -/
def read (gather : List Json → Option Json)
    (valueOf : Item Node → Option Json) :
    Found Node → Option Json
  | .one item => Item.read valueOf item
  | .many items => (items.mapM (Item.read valueOf)).bind gather

def arrayOf (items : List Json) : Option Json :=
  some (.array items)

/-- The JSON of what is found, unless an object is in it. -/
def json? (found : Found Node) : Option Json :=
  found.read arrayOf Item.json?

/-- Goes on from every item. -/
def each (next : Item Node → Option (Option (Item Node))) :
    Found Node → Option (Found Node)
  | .one item => (Item.follow next item).map .one
  | .many items => (items.mapM (Item.follow next)).map .many

/-- What is found inside of an item of a list. -/
def inList (found : Found Node) : Option (Option (Item Node)) :=
  match found with
  | .one item => some item
  | .many _ => found.json?.map fun value => some (.value value)

/-- Goes on inside of every object. -/
def project (inside : Node → Option (Found Node)) (found : Found Node) :
    Option (Found Node) :=
  match found with
  | .one none => some (.one none)
  | .one (some item) => item.onObject inside
  | .many _ => found.each (Item.onObject fun node => (inside node).bind inList)

/-- Goes on at a field, which a list does not have. -/
def field (graph : Graph) (name : String) (arguments : List Argument)
    (found : Found graph.Node) : Option (Found graph.Node) :=
  match found with
  | .one _ =>
    found.project fun node => some (graph.field node name arguments).found
  | .many _ => none

/-- Goes on from every object, which must be of a type. -/
def cast (graph : Graph) (typeName : String) (found : Found graph.Node) :
    Option (Found graph.Node) :=
  found.each (Item.onObject fun node =>
    if graph.typeName node = typeName then some (some (.object node)) else none)

/-- Makes a record of every object. -/
def record (members : Node → Option (List (String × Json)))
    (found : Found Node) :
    Option (Found Node) :=
  found.each (Item.onObject fun node =>
    (members node).map fun members => some (.value (.object members)))

/-- Requires a value other than null. -/
def required (found : Found Node) : Option (Found Node) :=
  (found.json?.filter fun value => !value.isNull).map fun _ => found

/-- The dictionary of the objects of a list, without the absent ones. -/
def dictionary (pair : Node → Option (Json × Json)) (found : Found Node) :
    Option (Found Node) :=
  match found with
  | .one none => some (.one none)
  | .one (some _) => none
  | .many items => do
      let pairs ← items.mapM
        (Item.follow (Item.onObject fun node => (pair node).map some))
      let dictionary ← dictionaryOf pairs.reduceOption
      some (.one (some (.value (.object dictionary))))

end Found

namespace Pipeline

/-- The object a pipeline starts from: a root of the graph, or the innermost
element of a name. -/
def startOn (graph : Graph) (elements : Entries graph.Node) :
    Source → Option graph.Node
  | .root kind => some (graph.root kind)
  | .parameter parameter => Entries.lookup? elements parameter

mutual

/-- What a pipeline finds on a graph, inside of projections that name some
elements. -/
def foundOn (graph : Graph) :
    Pipeline → Entries graph.Node → Option (Found graph.Node)
  | .mk source steps, elements =>
      (startOn graph elements source).bind fun node =>
        foundBySteps graph steps elements (.one (some (.object node)))

def foundBySteps (graph : Graph) :
    List Step → Entries graph.Node → Found graph.Node →
      Option (Found graph.Node)
  | [], _, found => some found
  | step :: steps, elements, found =>
      (foundByStep graph step elements found).bind
        (foundBySteps graph steps elements)

/-- What a step makes of what is found before it.  All pages and filters have no
meaning here. -/
def foundByStep (graph : Graph) :
    Step → Entries graph.Node → Found graph.Node → Option (Found graph.Node)
  | .property field, _, found => found.field graph field.name []
  | .call field arguments, _, found =>
      found.field graph field.name (Argument.written arguments)
  | .record parameter fields, elements, found =>
      found.record fun node =>
        membersOn graph fields ((parameter, node) :: elements)
  | .value parameter inner, elements, found =>
      found.project fun node =>
        foundOn graph inner ((parameter, node) :: elements)
  | .cast typeName, _, found => found.cast graph typeName
  | .single, _, found => found.required
  | .singleOrDefault, _, found => some found
  | .toList, _, found => some found
  | .toDictionary parameter key value, elements, found =>
      found.dictionary fun node =>
        ((foundOn graph key ((parameter, node) :: elements)).bind
          Found.json?).bind fun key =>
          ((foundOn graph value ((parameter, node) :: elements)).bind
            Found.json?).map fun value => (key, value)
  | .allPages _, _, _ => none
  | .filter _, _, _ => none

def membersOn (graph : Graph) :
    List (String × Pipeline) → Entries graph.Node →
      Option (List (String × Json))
  | [], _ => some []
  | (key, pipeline) :: fields, elements =>
      ((foundOn graph pipeline elements).bind Found.json?).bind fun value =>
        (membersOn graph fields elements).map
          fun members => (key, value) :: members

end

/-- The value of a pipeline on a graph. -/
def valueOn (pipeline : Pipeline) (graph : Graph) : Option Json :=
  (pipeline.foundOn graph []).bind Found.json?

mutual

/-- Whether all roots of a pipeline are of one kind, the keys of each record are
distinct, and nothing in it asks for all pages or filters. -/
def isPlain (kind : OperationKind) : Pipeline → Bool
  | .mk source steps =>
      source.operationKind?.all (· == kind) && stepsArePlain kind steps

def stepsArePlain (kind : OperationKind) : List Step → Bool
  | [] => true
  | step :: steps => stepIsPlain kind step && stepsArePlain kind steps

def stepIsPlain (kind : OperationKind) : Step → Bool
  | .allPages _ => false
  | .filter _ => false
  | .record _ fields =>
    decide (Entries.keys fields).Nodup && fieldsArePlain kind fields
  | .value _ inner => inner.isPlain kind
  | .toDictionary _ key value => key.isPlain kind && value.isPlain kind
  | .property _ => true
  | .call _ _ => true
  | .cast _ => true
  | .single => true
  | .singleOrDefault => true
  | .toList => true

def fieldsArePlain (kind : OperationKind) : List (String × Pipeline) → Bool
  | [] => true
  | (_, pipeline) :: fields =>
    pipeline.isPlain kind && fieldsArePlain kind fields

end

end Pipeline

end GraphPipeline
