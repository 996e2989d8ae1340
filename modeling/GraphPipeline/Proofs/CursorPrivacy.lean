import GraphPipeline.Proofs.RequestProtocol
import GraphPipeline.Proofs.VariableReferences

/-!
# Private cursor variables

The variable of a cursor is written once into a document, at the connection it
is for, unless the pipeline itself passes a variable of this name.  All requests
of a run then give the variables of the pipeline the values that the run was
given.
-/

namespace GraphPipeline

mutual

/-- The variables that a pipeline passes to its fields. -/
def Pipeline.variableNames : Pipeline → List String
  | .mk _ steps => Pipeline.variableNamesOfSteps steps

def Pipeline.variableNamesOfSteps : List Step → List String
  | [] => []
  | step :: steps =>
    Pipeline.variableNamesOfStep step ++ Pipeline.variableNamesOfSteps steps

def Pipeline.variableNamesOfStep : Step → List String
  | .call _ arguments => Argument.variableNames arguments
  | .record _ fields => Pipeline.variableNamesOfRecord fields
  | .value _ inner => inner.variableNames
  | .toDictionary _ key value => key.variableNames ++ value.variableNames
  | .property _ => []
  | .allPages _ => []
  | .cast _ => []
  | .filter _ => []
  | .single => []
  | .singleOrDefault => []
  | .toList => []

def Pipeline.variableNamesOfRecord : List (String × Pipeline) → List String
  | [] => []
  | (_, pipeline) :: fields =>
    pipeline.variableNames ++ Pipeline.variableNamesOfRecord fields

end

section passing

variable {holds : FieldDefinition → List Argument → Prop}
  {passed : String → Prop}

/-- Arguments that only refer to such variables. -/
def Argument.Passing (passed : String → Prop) (arguments : List Argument) :
    Prop :=
  ∀ name ∈ Argument.variableNames arguments, passed name

theorem Argument.passing_nil : Argument.Passing passed [] := by
  intro name member
  cases member

mutual

/-- What holds of each variable of a pipeline holds of those of each field. -/
theorem Pipeline.EachField.passing {pipeline : Pipeline}
    (each : pipeline.EachField holds)
    (all : ∀ name ∈ pipeline.variableNames, passed name) :
    pipeline.EachField fun field arguments =>
      holds field arguments ∧ Argument.Passing passed arguments := by
  cases pipeline with
  | mk source steps => exact Pipeline.EachFieldOfSteps.passing each all

theorem Pipeline.EachFieldOfSteps.passing {steps : List Step}
    (each : Pipeline.EachFieldOfSteps holds steps)
    (all : ∀ name ∈ Pipeline.variableNamesOfSteps steps, passed name) :
    Pipeline.EachFieldOfSteps (fun field arguments =>
      holds field arguments ∧ Argument.Passing passed arguments) steps := by
  cases steps with
  | nil => trivial
  | cons step steps =>
      rw [Pipeline.variableNamesOfSteps, List.forall_mem_append] at all
      exact ⟨Pipeline.EachFieldOfStep.passing each.1 all.1,
        Pipeline.EachFieldOfSteps.passing each.2 all.2⟩

theorem Pipeline.EachFieldOfStep.passing {step : Step}
    (each : Pipeline.EachFieldOfStep holds step)
    (all : ∀ name ∈ Pipeline.variableNamesOfStep step, passed name) :
    Pipeline.EachFieldOfStep (fun field arguments =>
      holds field arguments ∧ Argument.Passing passed arguments) step := by
  cases step with
  | property field => exact ⟨each, Argument.passing_nil⟩
  | call field arguments => exact ⟨each, all⟩
  | allPages nodes => exact ⟨each, Argument.passing_nil⟩
  | record parameter fields => exact Pipeline.EachFieldOfRecord.passing each all
  | value parameter inner => exact Pipeline.EachField.passing each all
  | toDictionary parameter key value =>
      rw [Pipeline.variableNamesOfStep, List.forall_mem_append] at all
      exact ⟨Pipeline.EachField.passing each.1 all.1,
        Pipeline.EachField.passing each.2 all.2⟩
  | cast typeName => trivial
  | filter typeName => trivial
  | single => trivial
  | singleOrDefault => trivial
  | toList => trivial

theorem Pipeline.EachFieldOfRecord.passing {fields : List (String × Pipeline)}
    (each : Pipeline.EachFieldOfRecord holds fields)
    (all : ∀ name ∈ Pipeline.variableNamesOfRecord fields, passed name) :
    Pipeline.EachFieldOfRecord (fun field arguments =>
      holds field arguments ∧ Argument.Passing passed arguments) fields := by
  cases fields with
  | nil => trivial
  | cons field fields =>
      obtain ⟨key, pipeline⟩ := field
      rw [Pipeline.variableNamesOfRecord, List.forall_mem_append] at all
      exact ⟨Pipeline.EachField.passing each.1 all.1,
        Pipeline.EachFieldOfRecord.passing each.2 all.2⟩

end

end passing

/-! ### Fields of callers and fields with cursors -/

section records

variable (subqueries : List Subquery)

/-- A name that is not the one of a cursor variable. -/
def IsCallers (name : String) : Prop :=
  ∀ subquery ∈ subqueries, subquery.variableName ≠ name

/-- Arguments as they are written for a caller. -/
structure Argument.AreCallers (arguments : List Argument) : Prop where
  avoids : ∀ argument ∈ arguments, argument.value.avoids subqueries = true
  written : ∀ argument ∈ arguments, argument.value.isOmitted = false
  passing : Argument.Passing (IsCallers subqueries) arguments

namespace FieldRecord

/-- A field with nothing but arguments of the caller. -/
structure IsCallers (record : FieldRecord) : Prop where
  nameOf : isGraphqlName record.name = true
  arguments : Argument.AreCallers subqueries record.arguments

/-- A field whose last argument is the variable of a cursor. -/
def IsPaged (cursor : SubqueryId) (record : FieldRecord) : Prop :=
  ∃ arguments, record.arguments =
    arguments ++ [⟨"after", .variableRef (CompileState.cursorName cursor)⟩]

end FieldRecord

/-- Every field of a document belongs to the caller or has a cursor that was
handed out, and each of these cursors is written once. -/
structure CompileState.PrivateCursors (cursors : Nat) (state : CompileState) :
    Prop where
  forest : state.selections.IsForest
  records : ∀ {id record}, record ∈ (state.selections.set id).fields →
    record.IsCallers subqueries ∨ ∃ cursor < cursors, record.IsPaged cursor
  once : ∀ cursor < subqueries.length,
    state.selections.variableNames.count (cursorName cursor) =
      if cursor < cursors then 1 else 0
  located : ∀ subquery ∈ state.subqueries,
    state.selections.CursorAt subquery.path subquery.variableName

/-- A field a caller may select beside connections with cursors. -/
def Compile.IsCallersField (field : FieldDefinition)
    (arguments : List Argument) : Prop :=
  CompileState.IsPlain subqueries field arguments ∧
    Argument.Passing (IsCallers subqueries) arguments

end records

section

variable {subqueries : List Subquery} {arguments : List Argument}

theorem Argument.Passing.of_subset {passed : String → Prop}
    {written : List Argument}
    (passing : Argument.Passing passed arguments)
    (subset : ∀ argument ∈ written, argument ∈ arguments) :
    Argument.Passing passed written := by
  intro name member
  obtain ⟨argument, inside, refers⟩ := List.mem_flatMap.mp member
  exact passing name
    (List.mem_flatMap.mpr ⟨argument, subset argument inside, refers⟩)

theorem Compile.IsCallersField.areCallers {field : FieldDefinition}
    {written : List Argument}
    (callers : IsCallersField subqueries field arguments)
    (among :
      ∀ argument ∈ written,
        argument ∈ arguments ∧ argument.value.isOmitted = false) :
    Argument.AreCallers subqueries written where
  avoids argument member := callers.1.2 argument (among argument member).1
  written argument member := (among argument member).2
  passing :=
    callers.2.of_subset fun argument member => (among argument member).1

/-- What a caller writes refers to no cursor. -/
theorem Argument.AreCallers.count_eq_zero
    (numbered :
      ∀ {id : SubqueryId} {subquery : Subquery},
        subqueries[id]? = some subquery →
        subquery.variableName = CompileState.cursorName id)
    (callers : Argument.AreCallers subqueries arguments) {cursor : SubqueryId}
    (known : cursor < subqueries.length) :
    (Argument.variableNames arguments).count (CompileState.cursorName cursor) =
      0 := by
  rw [List.count_eq_zero]
  intro member
  have found := List.getElem?_eq_getElem known
  exact callers.passing _ member _ (List.getElem_mem known) (numbered found)

end

namespace CompileState.PrivateCursors

variable {subqueries : List Subquery} {before after : CompileState}
  {cursors : Nat}

theorem initial : CompileState.initial.PrivateCursors subqueries 0 where
  forest := Selections.initial_isForest
  records {id record} member := by
    rw [CompileState.initial, Selections.fields_initial] at member
    cases member
  once cursor _ := rfl
  located subquery member := by cases member

theorem of_same (privately : before.PrivateCursors subqueries cursors)
    (sameSelections : after.selections = before.selections)
    (sameSubqueries : after.subqueries = before.subqueries) :
    after.PrivateCursors subqueries cursors := by
  constructor
  · rw [sameSelections]
    exact privately.forest
  · rw [sameSelections]
    exact privately.records
  · rw [sameSelections]
    exact privately.once
  · rw [sameSelections, sameSubqueries]
    exact privately.located

/-- A change of the selections that adds fields with some references, among them
those to the cursors that are handed out with them. -/
theorem change (more : Nat) (added : List String)
    (privately : before.PrivateCursors subqueries cursors)
    (grows : before.selections.Grows after.selections)
    (sameSubqueries : after.subqueries = before.subqueries)
    (forest : after.selections.IsForest)
    (names :
      after.selections.variableNames.Perm
        (before.selections.variableNames ++ added))
    (records : ∀ {id record}, record ∈ (after.selections.set id).fields →
      record ∈ (before.selections.set id).fields ∨ record.IsCallers subqueries ∨
        ∃ cursor < cursors + more, record.IsPaged cursor)
    (once : ∀ cursor < subqueries.length, added.count (cursorName cursor) =
      if cursors ≤ cursor ∧ cursor < cursors + more then 1 else 0) :
    after.PrivateCursors subqueries (cursors + more) := by
  constructor
  · exact forest
  · intro id record member
    rcases records member with old | new
    · refine (privately.records old).imp_right ?_
      rintro ⟨cursor, below, paged⟩
      exact ⟨cursor, Nat.lt_add_right more below, paged⟩
    · exact new
  · intro cursor known
    rw [names.count_eq, List.count_append, privately.once cursor known,
      once cursor known]
    split <;> split <;> split <;> omega
  · intro subquery member
    rw [sameSubqueries] at member
    exact (privately.located subquery member).grow grows

variable (numbered : ∀ {id : SubqueryId} {subquery : Subquery},
  subqueries[id]? = some subquery → subquery.variableName = cursorName id)
include numbered

theorem select {set : SetId} {field : FieldDefinition}
    {arguments : List Argument} {selected : SelectedField}
    (formed : before.WellFormed Compile.AnyName)
    (bound : set < before.selections.sets.length)
    (privately : before.PrivateCursors subqueries cursors)
    (callers : Compile.IsCallersField subqueries field arguments)
    (success : Compile.selectIn set field (Argument.written arguments) before =
      .ok (selected, after)) : after.PrivateCursors subqueries cursors := by
  obtain ⟨_, grows, sameSubqueries, _⟩ :=
    Compile.selectIn_spec formed bound trivial success
  obtain ⟨selections, selecting, rfl⟩ := Compile.selectIn_eq_ok success
  have written :
      Argument.AreCallers subqueries (Argument.written arguments) := by
    apply callers.areCallers
    intro argument member
    obtain ⟨passed, given⟩ := List.mem_filter.mp member
    exact ⟨passed, by simpa using given⟩
  rcases Selections.field_variableNames formed.selections privately.forest bound
    selecting with
    ⟨rfl, _⟩ | ⟨forest, names, records⟩
  · exact privately
  · refine privately.change 0 _ grows.selections rfl forest names ?_ ?_
    · intro id record member
      refine (records member).imp_right ?_
      rintro ⟨nameOf, given⟩
      exact Or.inl ⟨by rw [nameOf]; exact callers.1.1,
        by rw [given]; exact written⟩
    · intro cursor known
      rw [written.count_eq_zero numbered known, if_neg (by omega)]

/-- A connection with the next cursor is none of the fields there are. -/
theorem not_holds (formed : before.selections.WellFormed Compile.AnyName)
    (privately : before.PrivateCursors subqueries cursors)
    (known : cursors < subqueries.length) {set : SetId}
    {field : FieldDefinition} {arguments : List Argument}
    {selected : SelectedField} :
    ¬ before.selections.Holds set field
      (arguments ++ [⟨"after", .variableRef (cursorName cursors)⟩])
        selected := by
  rintro ⟨record, member, signed, _⟩
  rw [formed.signed member] at signed
  rcases privately.records member with callers | ⟨cursor, below, others, same⟩
  · have found := List.getElem?_eq_getElem known
    rw [← numbered found] at signed
    exact signature_ne_cursor callers.nameOf callers.arguments.avoids
      callers.arguments.written (List.getElem_mem known) (numbered found) signed
  · rw [same] at signed
    exact absurd (cursor_injective signed) (Nat.ne_of_lt below)

theorem page {middle : CompileState} {set : SetId} {field : FieldDefinition}
    {arguments written : List Argument} {selected : SelectedField}
    {result : Unit}
    (formed : before.WellFormed Compile.AnyName)
    (bound : set < before.selections.sets.length)
    (known : before.subqueries.length < subqueries.length)
    (privately : before.PrivateCursors subqueries before.subqueries.length)
    (callers : Compile.IsCallersField subqueries field arguments)
    (among :
      ∀ argument ∈ written,
        argument ∈ arguments ∧ argument.value.isOmitted = false)
    (declared : Compile.declare (cursorName before.subqueries.length)
      (TypeRef.scalar .string) before = .ok (result, middle))
    (success : Compile.selectIn set field (written ++ [⟨"after", .variableRef
      (cursorName before.subqueries.length)⟩]) middle = .ok (selected, after)) :
    after.PrivateCursors subqueries (before.subqueries.length + 1) := by
  have same := Compile.declare_sameDocument declared
  have formedMiddle := same.wellFormed formed
  have privatelyMiddle := privately.of_same same.1 same.2.1
  rw [← same.1] at bound
  rw [← same.2.1] at known success privatelyMiddle ⊢
  obtain ⟨_, grows, sameSubqueries, _⟩ :=
    Compile.selectIn_spec formedMiddle bound trivial success
  obtain ⟨selections, selecting, rfl⟩ := Compile.selectIn_eq_ok success
  rcases Selections.field_variableNames formedMiddle.selections
    privatelyMiddle.forest bound selecting with
    ⟨_, holds⟩ | ⟨forest, names, records⟩
  · exact absurd holds
      (privatelyMiddle.not_holds numbered formedMiddle.selections known)
  · refine privatelyMiddle.change 1 _ grows.selections rfl forest names ?_ ?_
    · intro id record member
      refine (records member).imp_right ?_
      rintro ⟨_, given⟩
      exact Or.inr ⟨_, Nat.lt_succ_self _, written, given⟩
    · intro cursor inside
      have none := (callers.areCallers among).count_eq_zero numbered inside
      have one : Argument.variableNames (written ++ [⟨"after", .variableRef
          (cursorName middle.subqueries.length)⟩]) =
            Argument.variableNames written ++
              [cursorName middle.subqueries.length] := by
        simp [Argument.variableNames, ArgumentValue.variableNames]
      rw [one, List.count_append, none, Nat.zero_add, List.count_singleton]
      by_cases last : cursor = middle.subqueries.length
      · subst last
        simp
      · have different :
            cursorName middle.subqueries.length ≠ cursorName cursor :=
          fun equal => last (cursorName_injective equal).symm
        rw [if_neg (by simpa using different), if_neg (by omega)]

theorem upkeep :
    Compile.Upkeep (Compile.IsCallersField subqueries) fun cursors state =>
      cursors ≤ subqueries.length →
        state.PrivateCursors subqueries cursors where
  pageInfo := ⟨⟨by decide, by simp⟩, Argument.passing_nil⟩
  hasNextPage := ⟨⟨by decide, by simp⟩, Argument.passing_nil⟩
  endCursor := ⟨⟨by decide, by simp⟩, Argument.passing_nil⟩
  declared keeps success within :=
    (keeps within).of_same (Compile.declare_sameDocument success).1
      (Compile.declare_sameDocument success).2.1
  selected formed keeps bound callers success within :=
    (keeps within).select numbered formed bound callers success
  paged formed keeps bound callers among declared success within :=
    (keeps (Nat.le_of_succ_le within)).page numbered formed bound within callers
      among declared success
  narrowed {before after cursors set id typeName} formed keeps bound success
    within := by
    obtain ⟨_, grows, _⟩ := Compile.fragmentIn_spec formed bound success
    obtain ⟨_, rfl⟩ := Compile.fragmentIn_eq_ok success
    obtain ⟨forest, names, sameFields⟩ :=
      Selections.fragment_variableNames (keeps within).forest bound typeName
    refine (keeps within).change 0 [] grows.selections rfl forest
      (by rwa [List.append_nil]) ?_ ?_
    · intro id record member
      rw [sameFields] at member
      exact Or.inl member
    · intro cursor _
      rw [if_neg (by omega)]
      rfl
  pushed {before after initialCursor path keys id} _ keeps cursor success
    within := by
    obtain ⟨rfl, rfl⟩ := Compile.pushSubquery_eq_ok success
    have privately := keeps within
    refine ⟨privately.forest, privately.records, privately.once,
      fun subquery member => ?_⟩
    rcases List.mem_append.mp member with old | new
    · exact privately.located subquery old
    · rw [List.mem_singleton.mp new]
      exact cursor

end CompileState.PrivateCursors

namespace CompiledOperation

section

variable {σ : Type} (compiled : CompiledOperation) (pipeline : Pipeline)
  (transport : Transport σ) (options : ClientOptions) (values : Entries Json)
  (state : σ)

/-- The variable of each cursor is used for its connection alone. -/
structure KeepsCursorsPrivate : Prop where
  /-- The document refers to the variable of a cursor once. -/
  once : ∀ subquery ∈ compiled.subqueries,
    compiled.operation.selections.variableNames.count subquery.variableName = 1
  /-- It does so in an argument of the connection. -/
  placed : ∀ subquery ∈ compiled.subqueries, ∃ field,
    compiled.operation.selections.Selects subquery.path field ∧
      ⟨"after", .variableRef subquery.variableName⟩ ∈ field.arguments
  /-- Every request gives the variables of the pipeline the values of the
  run. -/
  carried :
    ∀ request ∈ (compiled.plan.run transport options values state).2.sent,
      ∀ name ∈ pipeline.variableNames,
        Entries.lookup? request.variableValues name =
          Entries.lookup? values name

end

/-- Unless a pipeline passes a variable with the name of a cursor variable, the
cursor variables are private to their connections. -/
theorem keepsCursorsPrivate {σ : Type} {pipeline : Pipeline}
    {compiled : CompiledOperation}
    (success : compile pipeline = .ok compiled)
    (plain : pipeline.EachField (CompileState.IsPlain compiled.subqueries))
    (callers :
      ∀ name ∈ pipeline.variableNames, IsCallers compiled.subqueries name)
    (transport : Transport σ) (options : ClientOptions) (values : Entries Json)
    (state : σ) :
    compiled.KeepsCursorsPrivate pipeline transport options values state := by
  have cursors := hasCursors_of_compile success
  have numbered : ∀ {id : SubqueryId} {subquery : Subquery},
      compiled.subqueries[id]? = some subquery →
        subquery.variableName = CompileState.cursorName id :=
    fun found => (cursors.numbered found).2
  obtain ⟨kind, document, sameOperation, sameSubqueries, formed, keeps⟩ :=
    Compile.compiled_keeps (CompileState.PrivateCursors.upkeep numbered)
      (plain.passing callers) (fun _ => .initial) success
  rw [← sameSubqueries] at keeps
  have privately := keeps (Nat.le_refl _)
  have sameSelections : compiled.operation.selections =
      document.selections.materialize Selections.rootId := by
    rw [sameOperation]
    rfl
  constructor
  · intro subquery member
    obtain ⟨id, found⟩ := List.mem_iff_getElem?.mp member
    obtain ⟨known, _⟩ := List.getElem?_eq_some_iff.mp found
    rw [sameSelections,
      (Selections.variableNames_materialize formed.selections
        privately.forest).count_eq,
      numbered found, privately.once id known, if_pos known]
  · intro subquery member
    rw [sameSelections]
    obtain ⟨id, found⟩ := List.mem_iff_getElem?.mp member
    obtain ⟨parent, set, record, name, arguments, reached, inside, samePath,
      signed⟩ := privately.located subquery (sameSubqueries ▸ member)
    rw [samePath]
    refine ⟨_, reached.selects_record formed.selections inside, ?_⟩
    show _ ∈ record.arguments
    rw [formed.selections.signed inside] at signed
    rcases privately.records inside with own | ⟨cursor, _, others, same⟩
    · exact absurd signed (signature_ne_cursor own.nameOf own.arguments.avoids
        own.arguments.written member (numbered found))
    · rw [same, numbered found] at signed
      rw [same, numbered found, cursor_injective signed]
      exact List.mem_append_right _ List.mem_cons_self
  · intro request sent name member
    have apart := callers name member
    have given :
        Entries.lookup? (compiled.firstRequest values).variableValues name =
          Entries.lookup? values name := Run.lookup?_withCursors_other apart
    have gives : transport.Gives Request.AnyReply := fun _ _ => trivial
    obtain ⟨_, _, runs, same, _⟩ :=
      run_runs compiled options values gives state
    rw [same] at sent
    rcases runs.mem_requests sent with rfl | ⟨subquery, known, cursor, rfl⟩
    · exact given
    · rw [Request.lookup?_atCursor_other _ _ _ (apart subquery known)]
      exact given

end CompiledOperation

namespace Sample

def named : FieldDefinition :=
  { name := "named"
    type := (TypeRef.object "Item").nonNull
    arguments := [⟨"title", TypeRef.scalar .string⟩] }

/-- The titles of all items, and the one of the item that a variable names. -/
def allAndNamed (passed : String) : Pipeline :=
  (Pipeline.root .query).select "query"
    [("all", allTitles (.parameter "query") []),
      ("found", ((Pipeline.parameter "query").call named
        [⟨"title", .variableRef passed⟩]).property title)]

/-- Two pages of items, beside an item with the title that a cursor variable
names. -/
def namedTransport : Transport Unit := fun request =>
  let reply (pageInfo found : String) : List UInt8 :=
    ascii ("\x7b\"data\":\x7b\"items\":\x7b\"nodes\":[],\"pageInfo\":\x7b" ++
      pageInfo ++
      "\x7d\x7d,\"named\":\x7b\"title\":\"" ++ found ++ "\"\x7d\x7d\x7d")
  pure
    { delay := ⟨0⟩
      outcome := .ok
        { status := .ok
          body :=
            match (Entries.lookup? request.variableValues "cursor0").bind
              Json.text? with
            | some title => reply "\"hasNextPage\":false" title
            | none =>
              reply "\"hasNextPage\":true,\"endCursor\":\"a\"" "none" } }

end Sample

namespace CompiledOperation

theorem keepsCursorsPrivate_allAndNamed :
    ∃ compiled, compile (Sample.allAndNamed "title") = .ok compiled ∧
      compiled.subqueries = [Sample.itemsSubquery] ∧
        (Sample.allAndNamed "title").variableNames = ["title"] ∧
          compiled.KeepsCursorsPrivate (Sample.allAndNamed "title")
            Sample.namedTransport
            Sample.options [("title", .string "mine")] () := by
  have computed : (compile (Sample.allAndNamed "title")).map (·.subqueries) =
      .ok [Sample.itemsSubquery] := by
    cbv
  obtain ⟨compiled, success, subqueries⟩ := Evaluate.map_eq_ok.mp computed
  have passes : (Sample.allAndNamed "title").variableNames = ["title"] := by
    cbv
  refine ⟨compiled, success, subqueries, passes, ?_⟩
  apply keepsCursorsPrivate success
  · rw [subqueries]
    decide +kernel
  · rw [passes, subqueries]
    simp [IsCallers, Sample.itemsSubquery]

set_option maxRecDepth 8192 in
/-- A variable of the pipeline with the name of a cursor variable is taken for
it: the document refers to it twice, and the requests give it the cursor in
place of its value. -/
theorem cursor_captured :
    ∃ compiled, compile (Sample.allAndNamed "cursor0") = .ok compiled ∧
      compiled.subqueries = [Sample.itemsSubquery] ∧
        (Sample.allAndNamed "cursor0").variableNames =
          [Sample.itemsSubquery.variableName] ∧
        compiled.operation.selections.variableNames.count
          Sample.itemsSubquery.variableName =
          2 ∧
        (compiled.plan.run Sample.namedTransport Sample.options
          [("cursor0", .string "mine")] ()).2.sent.map
            (Entries.lookup? ·.variableValues "cursor0") =
              [some .null, some (.string "a")] := by
  have computed : (compile (Sample.allAndNamed "cursor0")).map (fun compiled =>
      (compiled.subqueries,
       compiled.operation.selections.variableNames.count "cursor0",
       (compiled.plan.run Sample.namedTransport Sample.options
         [("cursor0", .string "mine")] ()).2.sent.map
         (Entries.lookup? ·.variableValues "cursor0"))) =
      .ok ([Sample.itemsSubquery], 2, [some .null, some (.string "a")]) := by
    cbv
  obtain ⟨compiled, success, facts⟩ := Evaluate.map_eq_ok.mp computed
  simp only [Prod.mk.injEq] at facts
  obtain ⟨subqueries, count, carried⟩ := facts
  exact ⟨compiled, success, subqueries, by cbv, count, carried⟩

end CompiledOperation

end GraphPipeline
