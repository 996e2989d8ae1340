import GraphPipeline.Proofs.Compile.Declarations
import GraphPipeline.Proofs.ConflictFreedom

/-!
# Closed documents

A document declares each variable once, and it declares every variable that an
argument in it refers to.  The type of the declaration is written as the type of
each position at which a pipeline passes the variable.  A variable that is
declared is also referred to, as long as names are names of the query language:
a name that is none can make the text of other arguments the same, and the field
with these arguments is then taken for both.
-/

namespace GraphPipeline

namespace ArgumentValue

/-- A value of some type refers to a variable at a position of some type. -/
inductive Refers : ArgumentValue → TypeRef → String → TypeRef → Prop where
  | here {name : String} {type : TypeRef} :
      Refers (.variableRef name) type name type
  | item {items : List ArgumentValue} {item : ArgumentValue}
      {type element position : TypeRef} {name : String} :
      item ∈ items → type.element? = some element →
        Refers item element name position →
      Refers (.list items) type name position
  | single {items : List ArgumentValue} {item : ArgumentValue}
      {type position : TypeRef} {name : String} :
      item ∈ items → type.element? = none → Refers item type name position →
      Refers (.list items) type name position
  | field {fields : List (InputField ArgumentValue)}
      {field : InputField ArgumentValue} {type position : TypeRef}
      {name : String} :
      field ∈ fields → Refers field.value field.type name position →
      Refers (.object fields) type name position

variable {type : TypeRef} {use : String × TypeRef}

theorem mem_variableUsesOfItems {items : List ArgumentValue}
    {item : ArgumentValue}
    (member : item ∈ items) (inside : use ∈ item.variableUses type) :
    use ∈ variableUsesOfItems items type := by
  induction items with
  | nil => cases member
  | cons first items induction =>
      rw [variableUsesOfItems, List.mem_append]
      rcases List.mem_cons.mp member with rfl | later
      · exact Or.inl inside
      · exact Or.inr (induction later)

theorem mem_variableUsesOfFields {fields : List (InputField ArgumentValue)}
    {field : InputField ArgumentValue} (member : field ∈ fields)
    (inside : use ∈ field.value.variableUses field.type) :
    use ∈ variableUsesOfFields fields := by
  induction fields with
  | nil => cases member
  | cons first fields induction =>
      rw [variableUsesOfFields, List.mem_append]
      rcases List.mem_cons.mp member with rfl | later
      · exact Or.inl inside
      · exact Or.inr (induction later)

theorem Refers.mem_variableUses {value : ArgumentValue}
    {type position : TypeRef} {name : String}
    (refers : value.Refers type name position) :
    (name, position) ∈ value.variableUses type := by
  induction refers with
  | here => exact List.mem_singleton.mpr rfl
  | item member element _ induction =>
      rw [variableUses, element]
      exact mem_variableUsesOfItems member induction
  | single member noElement _ induction =>
      rw [variableUses, noElement]
      exact mem_variableUsesOfItems member induction
  | field member _ induction =>
      rw [variableUses]
      exact mem_variableUsesOfFields member induction

end ArgumentValue

/-- A field that the document selects at a path is the written form of a
recorded one, in a set for the objects at the path before its key. -/
theorem Selections.exists_record_at {named : String → Prop}
    {selections : Selections}
    (formed : selections.WellFormed named) {id : SetId} {path : List String}
    {field : FieldSelection}
    (selects : (selections.materialize id).Selects path field) :
    ∃ before inner record, path = before ++ [record.key] ∧
      selections.spaceAt? (selections.set id).keySpace before =
        some (selections.set inner).keySpace ∧
      record ∈ (selections.set inner).fields ∧
        field = selections.written record := by
  generalize written : selections.materialize id = set at selects
  induction selects generalizing id with
  | here member =>
      rw [← written, materialize_eq formed] at member
      obtain ⟨record, inside, rfl⟩ := List.mem_map.mp member
      exact ⟨[], id, record, by rw [responseKey_written]; rfl, rfl, inside, rfl⟩
  | inside member below _ induction =>
      rw [← written, materialize_eq formed] at member
      obtain ⟨outer, outside, rfl⟩ := List.mem_map.mp member
      obtain ⟨child, isChild, same⟩ := Option.map_eq_some_iff.mp below
      obtain ⟨before, inner, record, rfl, space, inside, rfl⟩ := induction same
      obtain ⟨entry, known, matching⟩ := formed.recorded outside
      have entryChild : entry.child = some (selections.set child).keySpace := by
        rw [matching.child, isChild]
        rfl
      refine ⟨outer.key :: before, inner, record,
        by rw [responseKey_written]; rfl, ?_, inside, rfl⟩
      simp only [spaceAt?, known, Option.bind_some, entryChild]
      exact space
  | fragment member _ induction =>
      rw [← written, materialize_eq formed] at member
      obtain ⟨fragment, inside, same⟩ := List.mem_map.mp member
      obtain ⟨before, inner, record, samePath, space, isRecorded, sameField⟩ :=
        induction (Prod.mk.inj same).2
      rw [formed.fragmentSpace inside] at space
      exact ⟨before, inner, record, samePath, space, isRecorded, sameField⟩

/-- Every field that a document selects is the written form of a recorded
one. -/
theorem Selections.exists_record_of_selects {named : String → Prop}
    {selections : Selections}
    (formed : selections.WellFormed named) {id : SetId} {path : List String}
    {field : FieldSelection}
    (selects : (selections.materialize id).Selects path field) :
    ∃ inner record, record ∈ (selections.set inner).fields ∧
      field = selections.written record := by
  obtain ⟨_, inner, record, _, _, inside, same⟩ :=
    exists_record_at formed selects
  exact ⟨inner, record, inside, same⟩

namespace CompileState

variable {state : CompileState} {cursors : Nat} {calls : List FieldCall}

/-- The names of the variables a document declares. -/
theorem map_variableDefinitions (state : CompileState) (kind : OperationKind) :
    (state.operation kind).variableDefinitions.map (·.name) =
      Entries.keys state.variableTypes := by
  simp [operation, Entries.keys]

theorem Declares.mem_keys {name : String} {type : TypeRef}
    (declares : state.Declares name type) :
    name ∈ Entries.keys state.variableTypes := by
  obtain ⟨declared, member, _⟩ := declares
  exact List.mem_map_of_mem member

/-- The variables that are declared are those of the calls and of the
cursors. -/
theorem Closed.mem_keys_iff (closed : state.Closed calls cursors)
    (declares : state.DeclaresCursors cursors) {name : String} :
    name ∈ Entries.keys state.variableTypes ↔
      (∃ call ∈ calls, name ∈ Argument.variableNames call.written) ∨
        ∃ cursor < cursors, name = cursorName cursor := by
  constructor
  · exact closed.only name
  · rintro (⟨call, made, refers⟩ | ⟨cursor, below, rfl⟩)
    · obtain ⟨argument, member, refers⟩ := List.mem_flatMap.mp refers
      obtain ⟨definition, _, declared⟩ := closed.typed call made argument member
      rw [← ArgumentValue.map_variableUses argument.value
          definition.type] at refers
      obtain ⟨use, inside, rfl⟩ := List.mem_map.mp refers
      exact (declared use inside).mem_keys
    · obtain ⟨_, known, _⟩ := declares.declared cursor below
      exact Entries.mem_keys_of_lookup? known

end CompileState

/-- The variables a document declares, what they are declared as, and where it
refers to them. -/
structure CompiledOperation.IsClosed (compiled : CompiledOperation)
    (pipeline : Pipeline) :
    Prop where
  /-- No variable is declared twice. -/
  distinct : (compiled.operation.variableDefinitions.map (·.name)).Nodup
  /-- The variables declared are those that the pipeline passes, but for the
  cursors that are replaced, and those of the cursors. -/
  declared :
    ∀ name, name ∈ compiled.operation.variableDefinitions.map (·.name) ↔
      (∃ call ∈ pipeline.calls, name ∈ Argument.variableNames call.written) ∨
        ∃ cursor < compiled.subqueries.length,
          name = CompileState.cursorName cursor
  /-- A variable that the document refers to is declared. -/
  closed : ∀ name ∈ compiled.operation.selections.variableNames,
    name ∈ compiled.operation.variableDefinitions.map (·.name)
  /-- A variable that is declared is referred to by the document. -/
  referenced : (∀ call ∈ pipeline.calls, call.isNamed = true) →
    ∀ name ∈ compiled.operation.variableDefinitions.map (·.name),
      name ∈ compiled.operation.selections.variableNames
  /-- The arguments of a field are those that one call passes, and the cursor of
  a connection. -/
  written : ∀ {path : List String} {field : FieldSelection},
    compiled.operation.selections.Selects path field →
      WrittenFor pipeline.calls compiled.subqueries.length field.name
        field.arguments
  /-- A variable is declared with the type of each position it is passed at. -/
  typed : ∀ call ∈ pipeline.calls, ∀ argument ∈ call.written, ∃ definition,
    call.field.argument? argument.name = some definition ∧
      ∀ {name : String} {position : TypeRef},
        argument.value.Refers definition.type name position →
          ⟨name, position.render⟩ ∈ compiled.operation.variableDefinitions

theorem compiled_isClosed {pipeline : Pipeline} {compiled : CompiledOperation}
    (success : compile pipeline = .ok compiled) :
    compiled.IsClosed pipeline := by
  have upkeep := CompileState.DeclaresCursors.upkeep.callUpkeep.and
    CompileState.Closed.callUpkeep
  have initially : CompileState.initial.DeclaresCursors 0 :=
    ⟨List.nodup_nil, fun _ below => absurd below (Nat.not_lt_zero _)⟩
  obtain ⟨kind, document, sameOperation, sameSubqueries, formed, declares,
    closed⟩ :=
    Compile.compiled_keepsCalls upkeep (pipeline.eachField fun _ _ => trivial)
      ⟨initially, .initial⟩ success
  have references : compiled.operation.selections.variableNames.Perm
      document.selections.variableNames := by
    rw [sameOperation]
    exact Selections.variableNames_materialize formed.selections closed.forest
  have names := document.map_variableDefinitions kind
  rw [← sameOperation] at names
  constructor
  · rw [names]
    exact declares.distinct
  · intro name
    rw [names, sameSubqueries]
    exact closed.mem_keys_iff declares
  · intro name member
    obtain ⟨id, record, inside, refers⟩ :=
      Selections.exists_record_of_mem_variableNames (references.subset member)
    rw [names, closed.mem_keys_iff declares]
    exact (closed.written inside).variableNames refers
  · intro named name member
    rw [names] at member
    exact references.symm.subset (closed.referenced named name member)
  · intro path field selects
    rw [sameOperation] at selects
    obtain ⟨id, record, inside, rfl⟩ :=
      Selections.exists_record_of_selects formed.selections selects
    rw [sameSubqueries]
    exact closed.written inside
  · intro call made argument member
    obtain ⟨definition, known, declared⟩ :=
      closed.typed call made argument member
    refine ⟨definition, known, fun {name position} refers => ?_⟩
    obtain ⟨type, declaration, text⟩ := declared _ refers.mem_variableUses
    rw [sameOperation, ← text]
    exact List.mem_map_of_mem declaration

namespace Sample

def titledAmong : FieldDefinition :=
  { name := "titled"
    type := (TypeRef.object "Item").nonNull
    arguments := [⟨"titles", (TypeRef.scalar .string).listOf⟩] }

/-- An item by some titles and an item by others. -/
def titledTwice (shown found : List ArgumentValue) : Pipeline :=
  let titleOf (titles : List ArgumentValue) :=
    ((Pipeline.parameter "query").call titledAmong
      [⟨"titles", .list titles⟩]).property title
  (Pipeline.root .query).select "query"
    [("shown", titleOf shown), ("found", titleOf found)]

def sharedVariable : Pipeline :=
  titledTwice [.variableRef "first"]
    [.variableRef "second", .variableRef "first"]

/-- A string with the text of a variable between two quotes. -/
def quotedVariable : Pipeline :=
  titledTwice [.literal (.string ", $first, ")]
    [.enumeration "\"", .variableRef "first", .enumeration "\""]

/-- The variables a document declares and those it refers to. -/
def variablesOf (compiled : CompiledOperation) :
    List VariableDefinition × List String :=
  (compiled.operation.variableDefinitions,
   compiled.operation.selections.variableNames)

end Sample

/-- A variable in two lists is declared once, with the type of the items. -/
theorem compile_sharedVariable_closed :
    ∃ compiled, compile Sample.sharedVariable = .ok compiled ∧
      Sample.variablesOf compiled =
        ([⟨"first", "String"⟩, ⟨"second", "String"⟩],
         ["first", "second", "first"]) ∧
      (∀ call ∈ Sample.sharedVariable.calls, call.isNamed = true) ∧
        compiled.IsClosed Sample.sharedVariable := by
  have computed : (compile Sample.sharedVariable).map Sample.variablesOf =
      .ok ([⟨"first", "String"⟩, ⟨"second", "String"⟩],
           ["first", "second", "first"]) := by
    cbv
  obtain ⟨compiled, success, names⟩ := Evaluate.map_eq_ok.mp computed
  exact ⟨compiled, success, names, by decide +kernel, compiled_isClosed success⟩

/-- Quotes that are passed as enumeration values make one string of what is
between them. The variable there is declared, but the field that is selected has
the string. -/
theorem quotedVariable_unreferenced :
    ∃ compiled, compile Sample.quotedVariable = .ok compiled ∧
      compiled.operation.variableDefinitions = [⟨"first", "String"⟩] ∧
        compiled.operation.selections.variableNames = [] := by
  have computed : (compile Sample.quotedVariable).map Sample.variablesOf =
      .ok ([⟨"first", "String"⟩], []) := by
    cbv
  obtain ⟨compiled, success, names⟩ := Evaluate.map_eq_ok.mp computed
  simp only [Sample.variablesOf, Prod.mk.injEq] at names
  exact ⟨compiled, success, names⟩

end GraphPipeline
