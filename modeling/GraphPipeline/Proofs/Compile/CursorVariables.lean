import GraphPipeline.Proofs.Compile.Upkeep

/-!
# Declared cursor variables

Every cursor variable of a document is declared, as a variable of strings that
may be null.  No variable is declared twice.
-/

namespace GraphPipeline

/-- The type of a cursor variable. -/
def cursorType : TypeRef := TypeRef.scalar .string

/-- Variables are declared once, and the cursor variables are among them. -/
structure CompileState.DeclaresCursors (cursors : Nat) (state : CompileState) :
    Prop where
  distinct : (Entries.keys state.variableTypes).Nodup
  declared : ∀ id < cursors, ∃ type,
    Entries.lookup? state.variableTypes (cursorName id) = some type ∧
      type.render = cursorType.render

namespace Compile

variable {before after : CompileState}

/-- A declaration either repeats an earlier one with the same text or adds a
variable. -/
theorem declare_spec {name : String} {type : TypeRef} {result : Unit}
    (success : declare name type before = .ok (result, after)) :
    (after = before ∧
      ∃ declared, Entries.lookup? before.variableTypes name = some declared ∧
        declared.render = type.render) ∨
      Entries.lookup? before.variableTypes name = none ∧
        after =
          { before with
            variableTypes := Entries.put before.variableTypes name type } := by
  simp only [declare, bind_eq_ok, get_eq_ok] at success
  obtain ⟨_, _, ⟨rfl, rfl⟩, success⟩ := success
  cases known : Entries.lookup? before.variableTypes name with
  | some declared =>
      simp only [known] at success
      by_cases sameText : declared.render = type.render
      · simp only [sameText, if_true, pure_eq_ok] at success
        exact Or.inl ⟨success.2.symm, declared, rfl, sameText⟩
      · simp [sameText] at success
  | none =>
      simp only [known] at success
      have changed : { before with
          variableTypes := before.variableTypes ++ [(name, type)] } = after :=
        set_eq_ok.mp success
      rw [Entries.put_fresh (Entries.lookup?_eq_none_iff.mp known)]
      exact Or.inr ⟨rfl, changed.symm⟩

theorem selectIn_sameVariables {set : SetId} {definition : FieldDefinition}
    {arguments : List Argument} {selected : SelectedField}
    (success :
      selectIn set definition arguments before = .ok (selected, after)) :
    after.variableTypes = before.variableTypes := by
  obtain ⟨_, _, rfl⟩ := selectIn_eq_ok success
  rfl

theorem fragmentIn_sameVariables {set id : SetId} {typeName : String}
    (success : fragmentIn set typeName before = .ok (id, after)) :
    after.variableTypes = before.variableTypes := by
  obtain ⟨_, rfl⟩ := fragmentIn_eq_ok success
  rfl

theorem pushSubquery_sameVariables {variableName : String}
    {initialCursor : Option String} {path : List String} {keys : PageKeys}
    {id : SubqueryId}
    (success :
      pushSubquery variableName initialCursor path keys before =
        .ok (id, after)) :
    after.variableTypes = before.variableTypes := by
  obtain ⟨_, rfl⟩ := pushSubquery_eq_ok success
  rfl

end Compile

namespace CompileState.DeclaresCursors

variable {before after : CompileState} {cursors : Nat}

theorem of_same (declares : before.DeclaresCursors cursors)
    (same : after.variableTypes = before.variableTypes) :
    after.DeclaresCursors cursors := by
  constructor
  · rw [same]
    exact declares.distinct
  · rw [same]
    exact declares.declared

theorem declare {name : String} {type : TypeRef} {result : Unit}
    (declares : before.DeclaresCursors cursors)
    (success : Compile.declare name type before = .ok (result, after)) :
    after.DeclaresCursors cursors := by
  rcases Compile.declare_spec success with ⟨rfl, _⟩ | ⟨unknown, rfl⟩
  · exact declares
  · have fresh := Entries.lookup?_eq_none_iff.mp unknown
    constructor
    · rw [Entries.keys_put_fresh fresh]
      exact List.nodup_append.mpr ⟨declares.distinct, by simp, by
        rintro first member second only rfl
        rw [List.mem_singleton.mp only] at member
        exact fresh member⟩
    · intro id below
      obtain ⟨found, known, text⟩ := declares.declared id below
      exact ⟨found, Entries.lookup?_put_fresh fresh known, text⟩

/-- A cursor variable that is declared is one of the declared cursor
variables. -/
theorem declareCursor {result : Unit}
    (declares : before.DeclaresCursors cursors)
    (success :
      Compile.declare (cursorName cursors) cursorType before =
        .ok (result, after)) :
    after.DeclaresCursors (cursors + 1) := by
  have later := declares.declare success
  refine ⟨later.distinct, ?_⟩
  intro id below
  rcases Nat.lt_succ_iff_lt_or_eq.mp below with earlier | rfl
  · exact later.declared id earlier
  · rcases Compile.declare_spec success with ⟨rfl, type, known, text⟩ | ⟨_, rfl⟩
    · exact ⟨type, known, text⟩
    · exact ⟨cursorType, Entries.lookup?_put_same _ _ _, rfl⟩

theorem upkeep : Compile.Upkeep (fun _ _ => True) fun cursors state =>
    state.DeclaresCursors cursors where
  pageInfo := trivial
  hasNextPage := trivial
  endCursor := trivial
  declared declares success := declares.declare success
  selected _ declares _ _ success :=
    declares.of_same (Compile.selectIn_sameVariables success)
  paged _ declares _ _ _ declared success :=
    (declares.declareCursor declared).of_same
      (Compile.selectIn_sameVariables success)
  narrowed _ declares _ success :=
    declares.of_same (Compile.fragmentIn_sameVariables success)
  pushed _ declares _ success :=
    declares.of_same (Compile.pushSubquery_sameVariables success)

end CompileState.DeclaresCursors

/-- The connections of a compiled pipeline are numbered, and each has a variable
of its own for its cursor, which is not required to have a value. -/
structure CompiledOperation.HasCursors (compiled : CompiledOperation) :
    Prop where
  numbered : ∀ {id : SubqueryId} {subquery : Subquery},
    compiled.subqueries[id]? = some subquery →
      subquery.id = id ∧ subquery.variableName = CompileState.cursorName id
  optional : ∀ definition ∈ compiled.operation.variableDefinitions,
    ∀ subquery ∈ compiled.subqueries, definition.name = subquery.variableName →
      definition.isRequired = false

theorem hasCursors_of_compile {pipeline : Pipeline}
    {compiled : CompiledOperation}
    (success : compile pipeline = .ok compiled) : compiled.HasCursors := by
  have initially : CompileState.initial.DeclaresCursors 0 :=
    ⟨List.nodup_nil, fun _ below => absurd below (Nat.not_lt_zero _)⟩
  obtain ⟨kind, document, sameOperation, sameSubqueries, formed, declares⟩ :=
    Compile.compiled_keeps CompileState.DeclaresCursors.upkeep
      (pipeline.eachField fun _ _ => trivial) initially success
  constructor
  · intro id subquery found
    rw [sameSubqueries] at found
    exact formed.numbered found
  · intro definition member subquery paginated sameName
    rw [sameOperation] at member
    obtain ⟨⟨name, type⟩, declared, rfl⟩ := List.mem_map.mp member
    rw [sameSubqueries] at paginated
    obtain ⟨id, found⟩ := List.mem_iff_getElem?.mp paginated
    obtain ⟨below, _⟩ := List.getElem?_eq_some_iff.mp found
    obtain ⟨cursor, known, text⟩ := declares.declared id below
    have sameType : some type = some cursor := by
      rw [← Entries.lookup?_of_mem declares.distinct declared, ← known,
        ← (formed.numbered found).2, ← sameName]
    obtain rfl := Option.some.inj sameType
    dsimp only [VariableDefinition.isRequired]
    rw [text]
    decide

end GraphPipeline
