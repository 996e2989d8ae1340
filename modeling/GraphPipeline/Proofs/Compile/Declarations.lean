import GraphPipeline.Proofs.Compile.CursorVariables
import GraphPipeline.Proofs.ReferenceTexts

/-!
# Declarations of variables

A call declares the variables of the arguments it passes, with the types of the
positions they stand at, and then selects a field with these arguments.  The
field may be there already, with arguments of the same text.  These refer to the
same variables if all names are names of the query language.  So after each call
the variables that are declared are those that the document refers to.
-/

namespace GraphPipeline

/-- Whether a field, its arguments and what is written in them have names of the
query language. -/
def FieldCall.isNamed (call : FieldCall) : Bool :=
  isGraphqlName call.field.name && call.arguments.all Argument.isNamed

theorem FieldCall.written_subset (call : FieldCall) {argument : Argument}
    (member : argument ∈ call.written) : argument ∈ call.arguments :=
  (List.mem_filter.mp member).1

/-- The argument for the cursor of the connection with a number. -/
def cursorArgument (cursor : SubqueryId) : Argument :=
  ⟨"after", .variableRef (CompileState.cursorName cursor)⟩

/-- A field with its arguments is written for one of some calls, or to see
whether a connection has a next page. -/
inductive WrittenFor (calls : List FieldCall) (cursors : Nat) :
    String → List Argument → Prop where
  | call {call : FieldCall} : call ∈ calls → call.paginated = false →
      WrittenFor calls cursors call.field.name call.written
  | page {call : FieldCall} {cursor : SubqueryId} :
      call ∈ calls → call.paginated = true →
      cursor < cursors →
      WrittenFor calls cursors call.field.name
        (call.written ++ [cursorArgument cursor])
  | information {field : FieldDefinition} :
      field ∈ [pageInfoField, hasNextPageField, endCursorField] →
      WrittenFor calls cursors field.name []

namespace WrittenFor

variable {calls others : List FieldCall} {cursors more : Nat} {name : String}
  {arguments : List Argument}

theorem mono (written : WrittenFor calls cursors name arguments)
    (subset : calls ⊆ others) (later : cursors ≤ more) :
    WrittenFor others more name arguments := by
  cases written with
  | call member plain => exact .call (subset member) plain
  | page member paginated below =>
      exact .page (subset member) paginated (Nat.lt_of_lt_of_le below later)
  | information member => exact .information member

/-- The variables of what is written are those of a call and the one of a
cursor. -/
theorem variableNames (written : WrittenFor calls cursors name arguments)
    {variableName : String}
    (refers : variableName ∈ Argument.variableNames arguments) :
    (∃ call ∈ calls, variableName ∈ Argument.variableNames call.written) ∨
      ∃ cursor < cursors, variableName = CompileState.cursorName cursor := by
  cases written with
  | call member _ => exact Or.inl ⟨_, member, refers⟩
  | @page call cursor member _ below =>
      rw [Argument.variableNames, List.flatMap_append,
        List.mem_append] at refers
      rcases refers with passed | last
      · exact Or.inl ⟨call, member, passed⟩
      · refine Or.inr ⟨cursor, below, ?_⟩
        simpa [cursorArgument, ArgumentValue.variableNames] using last
  | information _ => cases refers

/-- What is written for calls with names of the query language has such names
itself. -/
theorem isNamed (written : WrittenFor calls cursors name arguments)
    (named : ∀ call ∈ calls, call.isNamed = true) :
    isGraphqlName name = true ∧
      ∀ argument ∈ arguments, argument.isNamed = true := by
  have parts : ∀ call ∈ calls, isGraphqlName call.field.name = true ∧
      ∀ argument ∈ call.written, argument.isNamed = true := by
    intro call member
    have both := named call member
    rw [FieldCall.isNamed, Bool.and_eq_true, List.all_eq_true] at both
    exact ⟨both.1,
      fun argument inside => both.2 argument (call.written_subset inside)⟩
  cases written with
  | call member _ => exact parts _ member
  | @page call cursor member _ _ =>
      obtain ⟨nameOf, passed⟩ := parts call member
      refine ⟨nameOf, List.forall_mem_append.mpr ⟨passed, ?_⟩⟩
      intro argument last
      obtain rfl := List.mem_singleton.mp last
      have after : isGraphqlName "after" = true := by decide
      rw [Argument.isNamed, Bool.and_eq_true]
      exact ⟨after, isGraphqlName_cursorName cursor⟩
  | information member =>
      refine ⟨?_, by simp⟩
      simp only [List.mem_cons, List.not_mem_nil, or_false] at member
      rcases member with rfl | rfl | rfl <;> decide

end WrittenFor

/-! ### Declared types -/

namespace CompileState

/-- A variable is declared with the text of a type. -/
def Declares (state : CompileState) (name : String) (type : TypeRef) : Prop :=
  ∃ declared,
    (name, declared) ∈ state.variableTypes ∧ declared.render = type.render

/-- The variables in arguments of a field are declared with the types of their
positions. -/
def Types (state : CompileState) (field : FieldDefinition)
    (arguments : List Argument) : Prop :=
  ∀ argument ∈ arguments, ∃ definition,
    field.argument? argument.name = some definition ∧
    ∀ use ∈ argument.value.variableUses definition.type,
      state.Declares use.1 use.2

variable {before after : CompileState}

theorem Declares.grow {name : String} {type : TypeRef}
    (declares : before.Declares name type)
    (longer : before.variableTypes <+: after.variableTypes) :
    after.Declares name type := by
  obtain ⟨declared, member, text⟩ := declares
  exact ⟨declared, longer.subset member, text⟩

theorem Types.grow {field : FieldDefinition} {arguments : List Argument}
    (types : before.Types field arguments)
    (longer : before.variableTypes <+: after.variableTypes) :
    after.Types field arguments := by
  intro argument member
  obtain ⟨definition, known, declared⟩ := types argument member
  exact ⟨definition, known, fun use inside => (declared use inside).grow longer⟩

end CompileState

namespace Compile

variable {before after : CompileState}

/-- A declaration declares one variable. -/
theorem declare_declares {name : String} {type : TypeRef} {result : Unit}
    (success : declare name type before = .ok (result, after)) :
    after.Declares name type ∧ ∀ other ∈ Entries.keys after.variableTypes,
      other ∈ Entries.keys before.variableTypes ∨ other = name := by
  rcases declare_spec success with ⟨rfl, declared, known, text⟩ | ⟨unknown, rfl⟩
  · exact ⟨⟨declared, Entries.mem_of_lookup? known, text⟩, fun _ => Or.inl⟩
  · have fresh := Entries.lookup?_eq_none_iff.mp unknown
    constructor
    · refine ⟨type, ?_, rfl⟩
      rw [Entries.put_fresh fresh]
      exact List.mem_append_right _ List.mem_cons_self
    · intro other member
      rw [Entries.keys_put_fresh fresh] at member
      exact (List.mem_append.mp member).imp_right List.mem_singleton.mp

theorem declareAll_declares {uses : List (String × TypeRef)} {result : Unit}
    (success : declareAll uses before = .ok (result, after)) :
    (∀ use ∈ uses, after.Declares use.1 use.2) ∧
      ∀ other ∈ Entries.keys after.variableTypes,
        other ∈ Entries.keys before.variableTypes ∨ other ∈ uses.map (·.1) := by
  induction uses generalizing before with
  | nil =>
      simp only [declareAll, pure_eq_ok] at success
      rw [← success.2]
      exact ⟨by simp, fun _ => Or.inl⟩
  | cons use uses induction =>
      obtain ⟨name, type⟩ := use
      simp only [declareAll, bind_eq_ok] at success
      obtain ⟨_, middle, first, rest⟩ := success
      obtain ⟨declared, only⟩ := declare_declares first
      obtain ⟨others, onlyOthers⟩ := induction rest
      constructor
      · exact List.forall_mem_cons.mpr
          ⟨declared.grow (declareAll_sameDocument rest).2.2, others⟩
      · intro other member
        rcases onlyOthers other member with earlier | later
        · exact (only other earlier).imp_right fun same => by simp [same]
        · exact Or.inr (List.mem_cons_of_mem _ later)

/-- Passing arguments declares the variables of those that are written. -/
theorem passArguments_declares {field : FieldDefinition} {paginate : Bool}
    {arguments written : List Argument} {cursor found : Option String}
    (success : passArguments field paginate arguments cursor before =
      .ok ((written, found), after)) :
    written = FieldCall.written ⟨field, arguments, paginate⟩ ∧
      after.Types field written ∧
      ∀ other ∈ Entries.keys after.variableTypes,
        other ∈ Entries.keys before.variableTypes ∨
          other ∈ Argument.variableNames written := by
  induction arguments generalizing before cursor written with
  | nil =>
      simp only [passArguments, pure_eq_ok, Prod.mk.injEq] at success
      obtain ⟨⟨rfl, _⟩, rfl⟩ := success
      exact ⟨rfl, by simp [CompileState.Types], fun _ => Or.inl⟩
  | cons argument arguments induction =>
      obtain ⟨name, value⟩ := argument
      unfold passArguments at success
      cases known : field.argument? name with
      | none => simp [known] at success
      | some definition =>
          have sameName := argument?_name known
          simp only [known] at success
          by_cases omitted : value.isOmitted = true
          · simp only [omitted, if_true] at success
            obtain ⟨rfl, rest⟩ := induction success
            have left : Argument.isWritten paginate ⟨name, value⟩ ≠ true := by
              simp [Argument.isWritten, omitted]
            exact ⟨(List.filter_cons_of_neg left).symm, rest⟩
          · by_cases replaced : (paginate && definition.name == "after") = true
            · simp only [omitted, replaced, if_true, if_false, bind_eq_ok,
                Bool.false_eq_true] at success
              obtain ⟨_, _, first, success⟩ := success
              obtain rfl := initialCursor_sameState first
              obtain ⟨rfl, rest⟩ := induction success
              rw [sameName] at replaced
              have left : Argument.isWritten paginate ⟨name, value⟩ ≠ true := by
                simp [Argument.isWritten, replaced]
              exact ⟨(List.filter_cons_of_neg left).symm, rest⟩
            · simp only [omitted, replaced, if_false, bind_eq_ok, pure_eq_ok,
                Bool.false_eq_true] at success
              obtain ⟨_, middle, declaring, ⟨others, _⟩, _, passing, same,
                rfl⟩ := success
              obtain ⟨rfl, rfl⟩ := Prod.mk.inj same
              obtain ⟨declared, only⟩ := declareAll_declares declaring
              obtain ⟨rfl, types, onlyOthers⟩ := induction passing
              rw [sameName] at replaced
              rw [sameName]
              have kept : Argument.isWritten paginate ⟨name, value⟩ = true := by
                rw [Argument.isWritten, Bool.eq_false_iff.mpr omitted,
                  Bool.eq_false_iff.mpr replaced]
                rfl
              have longer := (passArguments_spec passing).1.2.2
              refine ⟨(List.filter_cons_of_pos kept).symm, ?_, ?_⟩
              · exact List.forall_mem_cons.mpr
                  ⟨⟨definition, known,
                    fun use member => (declared use member).grow longer⟩, types⟩
              · intro other member
                simp only [Argument.variableNames, List.flatMap_cons,
                  List.mem_append]
                rcases onlyOthers other member with earlier | later
                · rw [ArgumentValue.map_variableUses] at only
                  exact (only other earlier).imp_right Or.inl
                · exact Or.inr (Or.inr later)

end Compile

/-! ### References to declared variables -/

namespace Selections

variable {named : String → Prop} {selections : Selections}

theorem mem_variableNames {id : SetId} {record : FieldRecord} {name : String}
    (member : record ∈ (selections.set id).fields)
    (refers : name ∈ Argument.variableNames record.arguments) :
    name ∈ selections.variableNames := by
  cases found : selections.sets[id]? with
  | none =>
      rw [set, found] at member
      cases member
  | some set =>
      rw [set_eq_of_getElem? found] at member
      exact List.mem_flatMap.mpr ⟨set, List.mem_of_getElem? found,
        List.mem_flatMap.mpr ⟨record, member, refers⟩⟩

theorem exists_record_of_mem_variableNames {name : String}
    (refers : name ∈ selections.variableNames) :
    ∃ id record, record ∈ (selections.set id).fields ∧
      name ∈ Argument.variableNames record.arguments := by
  obtain ⟨set, inside, refers⟩ := List.mem_flatMap.mp refers
  obtain ⟨record, member, refers⟩ := List.mem_flatMap.mp refers
  obtain ⟨id, found⟩ := List.mem_iff_getElem?.mp inside
  refine ⟨id, record, ?_, refers⟩
  rw [set_eq_of_getElem? found]
  exact member

/-- The variables of arguments that are selected are referred to.  If the field
is there already its arguments have the same text. -/
theorem field_references (formed : WellFormed named selections)
    (forest : selections.IsForest) {parent : SetId}
    (bound : parent < selections.sets.length)
    {definition : FieldDefinition} {arguments : List Argument}
    {selected : SelectedField} {after : Selections}
    (success :
      selections.field parent definition arguments = .ok (selected, after))
    (namedRecords : ∀ {id record}, record ∈ (selections.set id).fields →
      isGraphqlName record.name = true ∧
        ∀ argument ∈ record.arguments, argument.isNamed = true)
    (nameOf : isGraphqlName definition.name = true)
    (namedArguments : ∀ argument ∈ arguments, argument.isNamed = true) :
    ∀ name ∈ selections.variableNames ++ Argument.variableNames arguments,
      name ∈ after.variableNames := by
  intro name member
  rcases field_variableNames formed forest bound success with
    ⟨rfl, record, inside, signed, _⟩ | ⟨_, names, _⟩
  · rcases List.mem_append.mp member with old | passed
    · exact old
    · obtain ⟨recordName, recordArguments⟩ := namedRecords inside
      rw [formed.signed inside] at signed
      rw [← variableNames_eq_of_signature recordName recordArguments nameOf
          namedArguments signed] at passed
      exact mem_variableNames inside passed
  · exact names.symm.subset member

end Selections

/-- The calls that were made are typed and found in the document, and once all
their names are names of the query language the variables declared are referred
to. -/
structure CompileState.Closed (done : List FieldCall) (cursors : Nat)
    (state : CompileState) : Prop where
  forest : state.selections.IsForest
  typed : ∀ call ∈ done, state.Types call.field call.written
  written : ∀ {id record}, record ∈ (state.selections.set id).fields →
    WrittenFor done cursors record.name record.arguments
  only : ∀ name ∈ Entries.keys state.variableTypes,
    (∃ call ∈ done, name ∈ Argument.variableNames call.written) ∨
      ∃ cursor < cursors, name = cursorName cursor
  referenced : (∀ call ∈ done, call.isNamed = true) →
    ∀ name ∈ Entries.keys state.variableTypes,
      name ∈ state.selections.variableNames

namespace CompileState.Closed

variable {before middle after : CompileState} {done others : List FieldCall}
  {cursors more : Nat}

theorem initial : CompileState.initial.Closed [] 0 where
  forest := Selections.initial_isForest
  typed call member := by cases member
  written {id record} member := by
    rw [CompileState.initial, Selections.fields_initial] at member
    cases member
  only name member := by cases member
  referenced _ name member := by cases member

/-- A field is selected after the variables in its arguments are declared. -/
theorem select {set : SetId} {field : FieldDefinition}
    {arguments : List Argument} {selected : SelectedField}
    (closed : before.Closed done cursors)
    (formed : before.WellFormed Compile.AnyName)
    (same : before.SameDocument middle)
    (bound : set < before.selections.sets.length) (subset : done ⊆ others)
    (later : cursors ≤ more)
    (typed :
      ∀ call ∈ others, call ∈ done ∨ middle.Types call.field call.written)
    (written : WrittenFor others more field.name arguments)
    (declared : ∀ name ∈ Entries.keys middle.variableTypes,
      name ∈ Entries.keys before.variableTypes ∨
        name ∈ Argument.variableNames arguments)
    (success :
      Compile.selectIn set field arguments middle = .ok (selected, after)) :
    after.Closed others more := by
  have formedMiddle := (same.wellFormed formed).selections
  have forest := closed.forest
  rw [← same.1] at forest bound
  obtain ⟨selections, selecting, rfl⟩ := Compile.selectIn_eq_ok success
  have changes :=
    Selections.field_variableNames formedMiddle forest bound selecting
  constructor
  · rcases changes with ⟨rfl, _⟩ | ⟨forest, _⟩ <;> exact forest
  · intro call member
    rcases typed call member with old | new
    · exact (closed.typed call old).grow same.2.2
    · exact new
  · intro id record member
    have old : record ∈ (middle.selections.set id).fields →
        WrittenFor others more record.name record.arguments := by
      rw [same.1]
      exact fun inside => (closed.written inside).mono subset later
    rcases changes with ⟨rfl, _⟩ | ⟨_, _, records⟩
    · exact old member
    · rcases records member with inside | ⟨nameOf, given⟩
      · exact old inside
      · rw [nameOf, given]
        exact written
  · intro name member
    rcases declared name member with old | passed
    · rcases closed.only name old with
        ⟨call, made, refers⟩ | ⟨cursor, below, named⟩
      · exact Or.inl ⟨call, subset made, refers⟩
      · exact Or.inr ⟨cursor, Nat.lt_of_lt_of_le below later, named⟩
    · exact written.variableNames passed
  · intro named name member
    have namedBefore : ∀ call ∈ done, call.isNamed = true :=
      fun call made => named call (subset made)
    obtain ⟨nameOf, namedArguments⟩ := written.isNamed named
    apply Selections.field_references formedMiddle forest bound selecting ?_
      nameOf namedArguments
    · rw [same.1]
      exact List.mem_append.mpr
        ((declared name member).imp_left (closed.referenced namedBefore name))
    · rw [same.1]
      exact fun inside => (closed.written inside).isNamed namedBefore

theorem of_same (closed : before.Closed done cursors)
    (sameSelections : after.selections = before.selections)
    (sameVariables : after.variableTypes = before.variableTypes) :
    after.Closed done cursors := by
  constructor
  · rw [sameSelections]
    exact closed.forest
  · intro call made
    exact (closed.typed call made).grow (sameVariables ▸ List.prefix_rfl)
  · rw [sameSelections]
    exact closed.written
  · rw [sameVariables]
    exact closed.only
  · rw [sameSelections, sameVariables]
    exact closed.referenced

theorem narrow {set id : SetId} {typeName : String}
    (closed : before.Closed done cursors)
    (bound : set < before.selections.sets.length)
    (success : Compile.fragmentIn set typeName before = .ok (id, after)) :
    after.Closed done cursors := by
  obtain ⟨_, rfl⟩ := Compile.fragmentIn_eq_ok success
  obtain ⟨forest, names, sameFields⟩ :=
    Selections.fragment_variableNames closed.forest bound typeName
  refine ⟨forest, closed.typed, ?_, closed.only, ?_⟩
  · intro id record member
    rw [sameFields] at member
    exact closed.written member
  · intro named name member
    exact names.symm.subset (closed.referenced named name member)

theorem callUpkeep :
    Compile.CallUpkeep (fun _ _ => True) fun done cursors state =>
      state.Closed done cursors where
  information formed closed bound page success :=
    closed.select formed (.refl _) bound (List.Subset.refl _) (Nat.le_refl _)
      (fun _ => Or.inl) (.information page) (fun _ => Or.inl) success
  selected {before middle after done cursors set field arguments written found
    selected}
      formed closed bound _ passing success := by
    obtain ⟨rfl, types, only⟩ := Compile.passArguments_declares passing
    refine closed.select formed (Compile.passArguments_spec passing).1 bound
      (List.subset_append_left _ _) (Nat.le_refl _) ?_ ?_ only success
    · intro call made
      refine (List.mem_append.mp made).imp_right fun last => ?_
      rw [List.mem_singleton.mp last]
      exact types
    · exact @WrittenFor.call _ _ ⟨field, arguments, false⟩ (by simp) rfl
  paged {before passed middle after done set field arguments written found
    selected result}
      formed closed bound _ passing declaring success := by
    obtain ⟨rfl, types, only⟩ := Compile.passArguments_declares passing
    obtain ⟨_, onlyCursor⟩ := Compile.declare_declares declaring
    have same := Compile.declare_sameDocument declaring
    refine closed.select formed
      ((Compile.passArguments_spec passing).1.trans same) bound
      (List.subset_append_left _ _) (Nat.le_succ _) ?_ ?_ ?_ success
    · intro call made
      refine (List.mem_append.mp made).imp_right fun last => ?_
      rw [List.mem_singleton.mp last]
      exact types.grow same.2.2
    · exact @WrittenFor.page _ _ ⟨field, arguments, true⟩ _ (by simp) rfl
        (Nat.lt_succ_self _)
    · intro name member
      rw [Argument.variableNames, List.flatMap_append, List.mem_append]
      rcases onlyCursor name member with earlier | rfl
      · exact (only name earlier).imp_right Or.inl
      · exact Or.inr (Or.inr (by simp [ArgumentValue.variableNames]))
  narrowed _ closed bound success := closed.narrow bound success
  pushed _ closed _ success :=
    closed.of_same (Compile.pushSubquery_sameSelections success)
      (Compile.pushSubquery_sameVariables success)

end CompileState.Closed

end GraphPipeline
