import GraphPipeline.Document

/-!
# Selections under construction

The selection sets of a document grow while a pipeline is compiled.  They are
kept in one arena and named by their position in it.  Selecting a field again
with the same arguments gives the existing selection, so pipelines that need the
same object share its selections.  With other arguments the field gets the next
free response key: `issues`, `issues1`, `issues2`.

A set shares its response keys with its fragments, because the fields of both
end up in one object.  A key space holds the keys of one such object, and the
key space of each object below it.
-/

namespace GraphPipeline

abbrev SetId := Nat

abbrev KeySpaceId := Nat

/-- A field selected in a set, with the set of its own selections if its values
are objects.  The signature is the name with the written arguments. -/
structure FieldRecord where
  name : String
  key : String
  signature : String
  type : TypeRef
  arguments : List Argument
  child : Option SetId

structure SetRecord where
  keySpace : KeySpaceId
  fields : List FieldRecord
  fragments : Entries SetId
  requiresTypename : Bool

/-- What a response key of an object stands for. -/
structure KeyEntry where
  signature : String
  type : TypeRef
  child : Option KeySpaceId
  deriving DecidableEq

structure Selections where
  sets : List SetRecord
  keySpaces : List (Entries KeyEntry)

/-- A response key that would stand for values of two types. -/
structure FieldConflict where
  key : String
  first : TypeRef
  second : TypeRef
  deriving DecidableEq

structure SelectedField where
  key : String
  child : Option SetId
  deriving DecidableEq

def SetRecord.empty (keySpace : KeySpaceId) : SetRecord :=
  { keySpace, fields := [], fragments := [], requiresTypename := false }

def FieldRecord.selected (field : FieldRecord) : SelectedField :=
  { key := field.key, child := field.child }

/-- The name of a field with its arguments as they are written. -/
def signature (name : String) (arguments : List Argument) : String :=
  name ++ Argument.renderAll arguments

/-- A name and the same name with each number from one to a count. -/
def keyCandidates (name : String) (count : Nat) : List String :=
  name :: (List.range count).map fun index => name ++ toString (index + 1)

/-- The first candidate for a name that is not taken.  One more candidate than
there are taken keys is enough. -/
def freeKey (taken : List String) (name : String) : String :=
  ((keyCandidates name taken.length).find? (· ∉ taken)).getD name

namespace Selections

/-- The set of the root object. -/
def rootId : SetId := 0

/-- An arena with the root set alone. -/
def initial : Selections :=
  { sets := [SetRecord.empty 0], keySpaces := [[]] }

def set (selections : Selections) (id : SetId) : SetRecord :=
  selections.sets[id]?.getD (SetRecord.empty 0)

def keys (selections : Selections) (id : KeySpaceId) : Entries KeyEntry :=
  selections.keySpaces[id]?.getD []

/-- The arena with a new empty set, and the name of that set. -/
def pushSet (selections : Selections) (keySpace : KeySpaceId) :
    SetId × Selections :=
  (selections.sets.length,
    { selections with sets := selections.sets ++ [SetRecord.empty keySpace] })

/-- The arena with a new empty key space, and the name of that key space. -/
def pushKeySpace (selections : Selections) : KeySpaceId × Selections :=
  (selections.keySpaces.length,
    { selections with keySpaces := selections.keySpaces ++ [[]] })

def modifySet (selections : Selections) (id : SetId)
    (change : SetRecord → SetRecord) : Selections :=
  { selections with sets := selections.sets.modify id change }

/-- The response key with a signature, if the key space has one. -/
def keyOf? (selections : Selections) (keySpace : KeySpaceId)
    (signature : String) : Option (String × KeyEntry) :=
  (selections.keys keySpace).find? (·.2.signature == signature)

/-- Takes a free response key for a field. -/
def takeKey (selections : Selections) (keySpace : KeySpaceId) (name : String)
    (signature : String) (type : TypeRef) :
    (String × Option KeySpaceId) × Selections :=
  let key := freeKey (Entries.keys (selections.keys keySpace)) name
  let (child, selections) :=
    if type.kind.isComposite then
      let (child, selections) := selections.pushKeySpace
      (some child, selections)
    else (none, selections)
  let entry : KeyEntry := { signature, type, child }
  ((key, child),
    { selections with
      keySpaces :=
        selections.keySpaces.modify keySpace (Entries.put · key entry) })

/-- The response key of a field: the one its signature has already in the key
space, or a free one. -/
def resolveKey (selections : Selections) (keySpace : KeySpaceId) (name : String)
    (signature : String) (type : TypeRef) :
    Except FieldConflict ((String × Option KeySpaceId) × Selections) :=
  match selections.keyOf? keySpace signature with
  | some (key, entry) =>
      if entry.type = type then .ok ((key, entry.child), selections)
      else .error { key, first := entry.type, second := type }
  | none => .ok (selections.takeKey keySpace name signature type)

/-- Records a field under a response key, with a new set for its selections if
it has a key space for them. -/
def pushField (selections : Selections) (parent : SetId) (name : String)
    (signature : String) (type : TypeRef) (arguments : List Argument)
    (key : String) (keySpace : Option KeySpaceId) :
    SelectedField × Selections :=
  let (child, selections) :=
    match keySpace with
    | some keySpace =>
        let (child, selections) := selections.pushSet keySpace
        (some child, selections)
    | none => (none, selections)
  let field : FieldRecord := { name, key, signature, type, arguments, child }
  (field.selected,
    selections.modifySet parent
      fun set => { set with fields := set.fields ++ [field] })

/-- Selects a field in a set. -/
def field (selections : Selections) (parent : SetId)
    (definition : FieldDefinition) (arguments : List Argument) :
    Except FieldConflict (SelectedField × Selections) :=
  let signature := signature definition.name arguments
  let set := selections.set parent
  match set.fields.find? (·.signature == signature) with
  | some field =>
      if field.type = definition.type then .ok (field.selected, selections)
      else .error { key := field.key, first := field.type,
                    second := definition.type }
  | none =>
      (selections.resolveKey set.keySpace definition.name signature
        definition.type).map fun ((key, keySpace), selections) =>
          selections.pushField parent definition.name signature definition.type
            arguments key keySpace

/-- The set of the fields that belong to one concrete type of an object.  The
type of the object has to be asked for. -/
def fragment (selections : Selections) (parent : SetId) (typeName : String) :
    SetId × Selections :=
  let selections :=
    selections.modifySet parent fun set => { set with requiresTypename := true }
  let set := selections.set parent
  match Entries.lookup? set.fragments typeName with
  | some id => (id, selections)
  | none =>
      let (id, selections) := selections.pushSet set.keySpace
      (id, selections.modifySet parent fun set =>
        { set with fragments := Entries.put set.fragments typeName id })

/-- The document's form of a set, down to a number of levels. -/
def materializeTo (selections : Selections) : Nat → SetId → SelectionSet
  | 0, _ => .mk false [] []
  | levels + 1, id =>
      let set := selections.set id
      .mk set.requiresTypename
        (set.fields.map fun field =>
          .mk field.name
            (if field.key = field.name then none else some field.key)
            field.arguments (field.child.map (selections.materializeTo levels)))
        (set.fragments.map fun (typeName, id) =>
          (typeName, selections.materializeTo levels id))

/-- The document's form of a set.  No set is nested deeper than there are
sets. -/
def materialize (selections : Selections) (id : SetId) : SelectionSet :=
  selections.materializeTo selections.sets.length id

end Selections

end GraphPipeline
