import GraphPipeline.Compile.State

/-!
# Steps without pipelines of their own

Selecting a field, asking for every page of a connection, narrowing to a
concrete type and ending a pipeline.
-/

namespace GraphPipeline.Compile

/-- The object on which a field can be selected. -/
def selectableObject (chain : Chain) (field : String) :
    Compile ObjectPosition :=
  match chain.position, chain.list with
  | .object object, none => pure object
  | .object object, some _ => throw (.fieldOnList field object.name)
  | _, _ => throw (.scalarAsComposite field chain.positionName)

/-- The cursor at which the pages of a connection start, given by its `after`
argument.  A variable cannot give it, because the variable of the later pages
takes its place. -/
def initialCursor (field : FieldDefinition) :
    ArgumentValue → Compile (Option String)
  | .variableRef _ => throw (.conflictingPagination field.name)
  | .literal value => pure value.text?
  | _ => pure none

/-- The arguments written after a field, without the omitted ones, and the
cursor its pages start at.  The variables in them are declared. -/
def passArguments (field : FieldDefinition) (paginate : Bool) :
    List Argument → Option String → Compile (List Argument × Option String)
  | [], cursor => pure ([], cursor)
  | ⟨name, value⟩ :: rest, cursor =>
      match field.argument? name with
      | none => throw (.unknownArgument field.name name)
      | some definition =>
          if value.isOmitted then passArguments field paginate rest cursor
          else if paginate && definition.name == "after" then do
            let cursor ← initialCursor field value
            passArguments field paginate rest cursor
          else do
            declareAll (value.variableUses definition.type)
            let (written, cursor) ← passArguments field paginate rest cursor
            pure (⟨definition.name, value⟩ :: written, cursor)

/-- The variable for the cursor of a connection whose pages the next step asks
for, as the last argument of the field. -/
def preparePage (chain : Chain) (field : FieldDefinition)
    (initialCursor : Option String) : Compile (Argument × PendingPage) := do
  if !field.isConnection then throw (.notAConnection field.name)
  if chain.repeated then throw (.nestedPagination field.name)
  let state ← get
  let variableName := "cursor" ++ toString state.subqueries.length
  declare variableName (TypeRef.scalar .string)
  pure (⟨"after", .variableRef variableName⟩, { variableName, initialCursor })

/-- Goes on at a field that has been selected. -/
def advance (chain : Chain) (object : ObjectPosition) (field : FieldDefinition)
    (selected : SelectedField) : Except CompileError Chain :=
  let chain := { chain with path := chain.path ++ [selected.key] }
  match selected.child with
  | none =>
      .ok { chain with
        position :=
          .value (.readScalar selected.key field.type) field.type.isList }
  | some set =>
      let chain := (chain.push (.field selected.key)).guardNull field.type
      let absentOk := object.absentOk || field.type.isNullable
      match field.type.element? with
      | none =>
          .ok { chain with
            position := .object
              { set, type := field.type, absentOk, name := field.name } }
      | some element =>
          if element.isList then .error (.nestedList field.name)
          else
            .ok { chain.mapList element with
              position := .object
                { set
                  type := element
                  absentOk := absentOk || element.isNullable
                  name := field.name } }

/-- Selects a field.  `paginate` says whether the next step asks for every page
of it. -/
def selectField (chain : Chain) (field : FieldDefinition)
    (arguments : List Argument) (paginate : Bool) : Compile Chain := do
  let object ← selectableObject chain field.name
  let (written, cursor) ← passArguments field paginate arguments none
  if paginate then
    let (after, pending) ← preparePage chain field cursor
    let selected ← selectIn object.set field (written ++ [after])
    liftM (advance { chain with pendingPage := some pending } object field
      selected)
  else
    let selected ← selectIn object.set field written
    liftM (advance chain object field selected)

/-- The type of the nodes of a page, which are objects. -/
def nodeType? (nodes : FieldDefinition) : Option TypeRef :=
  nodes.type.element?.filter
    fun element => element.kind.isComposite && !element.isList

/-- Selects the page information of a connection. -/
def selectPageInfo (connection : ObjectPosition) :
    Compile (String × String × String) := do
  let pageInfo ← selectIn connection.set pageInfoField []
  match pageInfo.child with
  | none => throw (.notAConnection connection.name)
  | some set =>
      let hasNextPage ← selectIn set hasNextPageField []
      let endCursor ← selectIn set endCursorField []
      pure (pageInfo.key, hasNextPage.key, endCursor.key)

/-- Goes on inside the nodes of every page of a connection. -/
def selectAllPages (chain : Chain) (nodes : FieldDefinition) : Compile Chain :=
  match chain.pendingPage, chain.position with
  | some pending, .object connection =>
      match nodeType? nodes with
      | none => throw (.notAConnection connection.name)
      | some element => do
          let (pageInfo, hasNextPage, endCursor) ← selectPageInfo connection
          let selected ← selectIn connection.set nodes []
          match selected.child with
          | none => throw (.notAConnection connection.name)
          | some set =>
              let keys : PageKeys :=
                { nodes := selected.key, pageInfo, hasNextPage, endCursor }
              let id ← pushSubquery pending.variableName pending.initialCursor
                chain.path keys
              let chain :=
                { chain with
                  pendingPage := none, path := chain.path ++ [keys.nodes] }
              pure { (chain.push (.subquerySink id keys)).mapList element with
                position := .object
                  { set
                    type := element
                    absentOk := connection.absentOk || element.isNullable
                    name := nodes.name } }
  | _, _ => throw (.notAConnection chain.positionName)

/-- The object that can be narrowed to one of its concrete types. -/
def narrowableObject (chain : Chain) (reducer : String) :
    Compile ObjectPosition :=
  match chain.position with
  | .object object =>
      if object.type.kind.isPolymorphic then pure object
      else throw (.notPolymorphic reducer object.type.name)
  | _ => throw (.notPolymorphic reducer chain.positionName)

/-- Goes on inside the objects of one concrete type. -/
def narrow (chain : Chain) (object : ObjectPosition) (typeName : String)
    (mode : NarrowingMode) : Compile Chain := do
  let set ← fragmentIn object.set typeName
  pure { chain.push (.narrow typeName mode) with
    position := .object
      { set
        type := TypeRef.object typeName
        absentOk := object.absentOk || mode == .filter
        name := object.name } }

def castTo (chain : Chain) (typeName : String) : Compile Chain := do
  let object ← narrowableObject chain "cast"
  narrow chain object typeName .cast

/-- A filter leaves elements out of the list being mapped.  Outside of a list
the position must admit an absent value. -/
def filterTo (chain : Chain) (typeName : String) : Compile Chain := do
  let object ← narrowableObject chain "filter"
  match chain.list with
  | some index => narrow (chain.countFilter index) object typeName .filter
  | none =>
      if object.absentOk then narrow chain object typeName .filter
      else throw (.filterRequiresOptional object.name)

/-- Ends a pipeline with a value that is not a list. -/
def endSingle (chain : Chain) (reducer : String) (enforceSingle : Bool) :
    Compile Chain :=
  if chain.isList then throw (.singleOnList reducer chain.positionName)
  else
    match chain.position with
    | .object object => throw (.missingSelection object.name)
    | _ => pure { chain with enforceSingle }

/-- Ends a pipeline with a list. -/
def endList (chain : Chain) : Compile Chain :=
  if chain.isList then pure chain
  else throw (.requiresList "to_list" chain.positionName)

/-- The object each entry of a dictionary is built from. -/
def dictionaryObject (chain : Chain) : Compile ObjectPosition :=
  match chain.list, chain.position with
  | none, _ => throw (.requiresList "to_dictionary" chain.positionName)
  | some _, .object object => pure object
  | some _, _ => throw (.unsupportedDictionarySource chain.positionName)

/-- The object a projection is applied to. -/
def projectedObject (chain : Chain) : Compile ObjectPosition :=
  match chain.position with
  | .object object => pure object
  | _ => throw (.scalarAsComposite "select" chain.positionName)

/-- The chain after a projection that goes on inside an element.  The projected
list stays the list being mapped, and no other list may be inside it. -/
def rejoin (outer : Chain) (inner : Chain) : Compile Chain :=
  match outer.list, inner.list with
  | some _, some _ => throw (.nestedList inner.positionName)
  | some index, none => pure { inner with list := some index }
  | none, _ => pure inner

end GraphPipeline.Compile
