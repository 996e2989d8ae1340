import GraphPipeline.Document
import GraphPipeline.Program.State

/-!
# Evaluating programs

The value of a program on the data of a response.  A first evaluation records
the page each paginated connection holds.  A second one is given the nodes of
all pages and reads those in place of the nodes in the data.
-/

namespace GraphPipeline

/-- All nodes of connections, by the number of the connection. -/
abbrev AllNodes := List (SubqueryId × List Json)

def AllNodes.lookup? (nodes : AllNodes) (id : SubqueryId) :
    Option (List Json) :=
  (nodes.find? (·.1 == id)).map Prod.snd

/-- Whether a value can be the value of a leaf of a kind. -/
def TypeKind.accepts : TypeKind → Json → Bool
  | .scalar .string, .string _ => true
  | .scalar .string, _ => false
  | .enumeration, .string _ => true
  | .enumeration, _ => false
  | .scalar .id, .string _ => true
  | .scalar .id, .number (.integer _) => true
  | .scalar .id, _ => false
  | .scalar .int, .number (.integer _) => true
  | .scalar .int, _ => false
  | .scalar .float, .number _ => true
  | .scalar .float, _ => false
  | .scalar .boolean, .bool _ => true
  | .scalar .boolean, _ => false
  | .scalar (.custom _), _ => true
  | .object, _ => true
  | .interface, _ => true
  | .union, _ => true
  | .inputObject, _ => true

namespace Evaluate

/-- The member of an object under a key. -/
def memberOf (value : Json) (key : String) : Evaluate Json :=
  atPath fun path =>
    match value with
    | .object members =>
        match Entries.lookup? members key with
        | some member => .ok member
        | none => .error (.missingField (path.child (.key key)))
    | .null => .error (.unexpectedNull path)
    | other => .error (.invalidValue path "an object" other.kind)

def itemsOf (value : Json) : Evaluate (List Json) :=
  atPath fun path =>
    match value with
    | .array items => .ok items
    | .null => .error (.unexpectedNull path)
    | other => .error (.invalidValue path "a list" other.kind)

/-- The name of the type of an object. -/
def typenameOf (value : Json) : Evaluate String :=
  match (value.member? typenameKey).bind Json.text? with
  | some name => pure name
  | none => failAt .missingTypename

/-- Checks the kind of a value that is not null and has no list around it. -/
def checkKind (name : String) (kind : TypeKind) (value : Json) :
    Evaluate Unit :=
  if kind.accepts value then pure ()
  else failAt (.invalidValue · name value.kind)

/-- Checks a value that is neither null nor a list. -/
def checkSingle (name : String) (kind : TypeKind) (value : Json)
    (wrapping : Wrapping) : Evaluate Unit :=
  if wrapping.isList then
    failAt (.invalidValue · (wrapping.render name) value.kind)
  else checkKind name kind value

mutual

/-- Checks a value against the type of a leaf: null where the type admits it, a
list for each list of the type, and values of the kind inside them. -/
def checkLeaf (name : String) (kind : TypeKind) :
    Json → Wrapping → Evaluate Unit
  | .null, wrapping =>
      if wrapping.isRequired then failAt .unexpectedNull else pure ()
  | .array items, wrapping =>
      match wrapping.element? with
      | some element => checkItems name kind items element 0
      | none => checkKind name kind (.array items)
  | .bool value, wrapping => checkSingle name kind (.bool value) wrapping
  | .number value, wrapping => checkSingle name kind (.number value) wrapping
  | .string value, wrapping => checkSingle name kind (.string value) wrapping
  | .object members, wrapping =>
    checkSingle name kind (.object members) wrapping

/-- Checks the items of a list from an index on. -/
def checkItems (name : String) (kind : TypeKind) :
    List Json → Wrapping → Nat → Evaluate Unit
  | [], _, _ => pure ()
  | item :: items, wrapping, index => do
      within (.index index) (checkLeaf name kind item wrapping)
      checkItems name kind items wrapping (index + 1)

end

/-- The value of a leaf under a key. -/
def readLeaf (key : String) (type : TypeRef) (value : Json) :
    Evaluate Json := do
  let leaf ← memberOf value key
  within (.key key) do
    if leaf.isNull then
      modify fun state => { state with absentAt := some state.trail }
    checkLeaf type.name type.kind leaf type.wrapping
    pure leaf

/-- The outputs of the items of a list from an index on, without the rejected
ones. -/
def mapItems (filters : Nat) (evaluate : Json → Evaluate Json) :
    List Json → Nat → Evaluate (List Json)
  | [], _ => pure []
  | item :: items, index => do
      modify fun state =>
        { state with pendingFilters := filters, rejected := false }
      let output ← within (.index index) (evaluate item)
      let state ← get
      let outputs ← mapItems filters evaluate items (index + 1)
      pure (if state.rejected then outputs else output :: outputs)

/-- Goes on in an object of the type asked for. -/
def narrowed (typeName : String) (mode : NarrowingMode)
    (evaluate : Json → Evaluate Json) (value : Json) : Evaluate Json :=
  match mode, value with
  | .filter, .null => absent
  | .cast, .null => failAt .unexpectedNull
  | _, _ => do
      let received ← typenameOf value
      match decide (received = typeName), mode with
      | true, .filter => do
          modify fun state =>
            { state with pendingFilters := state.pendingFilters - 1 }
          evaluate value
      | true, .cast => evaluate value
      | false, .filter => absent
      | false, .cast => failAt (.typeMismatch · typeName received)

/-- The dictionary key written for a scalar. -/
def dictionaryKey : Json → Evaluate String
  | .string key => pure key
  | .bool value => pure (Json.bool value).render
  | .number value => pure (Json.number value).render
  | other => failAt (.invalidKey · other.kind)

/-- The dictionary with an entry more.  An entry is a pair of a key and a value,
or null for none. -/
def insertEntry (dictionary : Entries Json) : Json → Evaluate (Entries Json)
  | .null => pure dictionary
  | .array [key, value] => do
      let key ← dictionaryKey key
      if Entries.contains dictionary key then failAt (.duplicateKey · key)
      else pure (Entries.put dictionary key value)
  | other => failAt (.invalidValue · "a key and a value" other.kind)

/-- Adds the entries of the items of a list from an index on. -/
def addEntries (evaluate : Json → Evaluate Json) :
    List Json → Nat → Entries Json → Evaluate (Entries Json)
  | [], _, dictionary => pure dictionary
  | item :: items, index, dictionary => do
      let dictionary ← within (.index index) do
        let entry ← evaluate item
        insertEntry dictionary entry
      addEntries evaluate items (index + 1) dictionary

/-- Requires a result other than null.  The error is about the place where the
absent value was found. -/
def required (action : Evaluate Json) : Evaluate Json := do
  modify fun state => { state with absentAt := none }
  let result ← action
  if result.isNull then
    let state ← get
    throw (.absent (state.absentAt.getD state.trail).reverse)
  pure result

/-- Records the page of a connection that has none yet. -/
def recordPage (id : SubqueryId) (keys : PageKeys) (connection : Json) :
    Evaluate Unit := do
  let state ← get
  match state.pages.lookup? id with
  | some _ => pure ()
  | none =>
      let page ← atPath (Page.read connection keys)
      modify fun state => { state with pages := state.pages ++ [(id, page)] }

/-- The nodes of a connection: those of all pages if they are given, or else
those of the page in the data, which is recorded on a first evaluation. -/
def nodesOf (given : Option AllNodes) (id : SubqueryId) (keys : PageKeys)
    (connection : Json) : Evaluate Json :=
  match given, given.bind (·.lookup? id) with
  | _, some nodes => pure (.array nodes)
  | given, none => do
      let nodes ← memberOf connection keys.nodes
      if given.isNone then recordPage id keys connection
      pure (if nodes.isNull then .array [] else nodes)

mutual

/-- The value of a program on a value. -/
def program (given : Option AllNodes) : Program → Json → Evaluate Json
  | .field key inner, value => do
      let member ← memberOf value key
      within (.key key) (program given inner member)
  | .readScalar key type, value => readLeaf key type value
  | .optional inner, value =>
      if value.isNull then absent else program given inner value
  | .mapList filters inner, value => do
      let items ← itemsOf value
      let outputs ← isolated (mapItems filters (program given inner) items 0)
      pure (.array outputs)
  | .narrow typeName mode inner, value =>
      narrowed typeName mode (program given inner) value
  | .buildRecord fields, value => do
      let members ← fieldPrograms given fields value
      pure (.object (Entries.ofAssignments members))
  | .enforceSingle inner, value => required (program given inner value)
  | .toDictionary entry, value => do
      let items ← itemsOf value
      let dictionary ← addEntries (program given entry) items 0 []
      pure (.object dictionary)
  | .keyValue key inner, value => do
      let key ← program given key value
      let value ← program given inner value
      pure (.array [key, value])
  | .subquerySink id keys inner, value => do
      let nodes ← nodesOf given id keys value
      within (.key keys.nodes) (program given inner nodes)
  | .bind depth inner, value => binding depth value (program given inner value)
  | .parameter depth inner, _ => do
      let state ← get
      match state.binding? depth with
      | some value => program given inner value
      | none => failAt (.unboundParameter · depth)

/-- The values of the fields of a record, in order. -/
def fieldPrograms (given : Option AllNodes) :
    List (String × Program) → Json → Evaluate (List (String × Json))
  | [], _ => pure []
  | (key, inner) :: fields, value => do
      let member ← program given inner value
      let members ← fieldPrograms given fields value
      pure ((key, member) :: members)

end

end Evaluate

namespace Program

/-- Evaluates a program on the data of a response, and gives the pages of the
connections it has read. -/
def collect (program : Program) (data : Json) :
    Except ExtractionError (Json × Pages) :=
  let (result, state) :=
    (Evaluate.program none program data).result (.initial data)
  result.map fun value => (value, state.pages)

/-- Evaluates a program on the data of a response and the nodes of all pages. -/
def replay (program : Program) (nodes : AllNodes) (data : Json) :
    Except ExtractionError Json :=
  ((Evaluate.program (some nodes) program data).result (.initial data)).1

end Program

end GraphPipeline
