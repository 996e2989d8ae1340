import GraphPipeline.Proofs.Compile.Calls
import GraphPipeline.Proofs.Compile.Mirroring

/-!
# Properties that walks keep

A property of the document that holds at the start of a compilation and is kept
by each of its actions holds of the finished document.  The property may depend
on the number of cursor variables that are handed out, one of which may wait for
its connection.  The connection is then found at the path of the chain.

The variables of a call are declared one by one before its field is selected, so
a property that ties them to the selections is kept by whole calls alone.  It
may depend on the calls that were made.
-/

namespace GraphPipeline

namespace Compile

/-- Each action keeps a property of the document and the number of cursors in
it. -/
structure Upkeep (allowed : FieldDefinition → List Argument → Prop)
    (kept : Nat → CompileState → Prop) : Prop where
  pageInfo : allowed pageInfoField []
  hasNextPage : allowed hasNextPageField []
  endCursor : allowed endCursorField []
  declared : ∀ {before after : CompileState} {cursors : Nat} {name : String}
    {type : TypeRef} {result : Unit}, kept cursors before →
    declare name type before = .ok (result, after) → kept cursors after
  selected : ∀ {before after : CompileState} {cursors : Nat} {set : SetId}
    {field : FieldDefinition} {arguments : List Argument}
      {selected : SelectedField},
    before.WellFormed AnyName → kept cursors before →
      set < before.selections.sets.length →
    allowed field arguments →
    selectIn set field (Argument.written arguments) before =
      .ok (selected, after) →
    kept cursors after
  paged :
    ∀ {before middle after : CompileState} {set : SetId}
        {field : FieldDefinition} {arguments written : List Argument}
        {selected : SelectedField} {result : Unit}, before.WellFormed AnyName →
      kept before.subqueries.length before →
    set < before.selections.sets.length → allowed field arguments →
    (∀ argument ∈ written,
      argument ∈ arguments ∧ argument.value.isOmitted = false) →
    declare (CompileState.cursorName before.subqueries.length)
        (TypeRef.scalar .string) before = .ok (result, middle) →
    selectIn set field (written ++ [⟨"after", .variableRef
      (CompileState.cursorName before.subqueries.length)⟩]) middle =
        .ok (selected, after) →
    kept (before.subqueries.length + 1) after
  narrowed : ∀ {before after : CompileState} {cursors : Nat} {set id : SetId}
    {typeName : String}, before.WellFormed AnyName → kept cursors before →
    set < before.selections.sets.length →
    fragmentIn set typeName before = .ok (id, after) → kept cursors after
  pushed : ∀ {before after : CompileState} {initialCursor : Option String}
    {path : List String} {keys : PageKeys} {id : SubqueryId},
    before.WellFormed AnyName → kept (before.subqueries.length + 1) before →
    before.selections.CursorAt path
      (CompileState.cursorName before.subqueries.length) →
    pushSubquery (CompileState.cursorName before.subqueries.length)
        initialCursor path keys before = .ok (id, after) →
    kept (before.subqueries.length + 1) after

/-- Each call keeps a property of the document, the calls that were made and the
number of cursors in the document. -/
structure CallUpkeep (allowed : FieldDefinition → List Argument → Prop)
    (kept : List FieldCall → Nat → CompileState → Prop) : Prop where
  information :
    ∀ {before after : CompileState} {done : List FieldCall} {cursors : Nat}
        {set : SetId} {field : FieldDefinition} {selected : SelectedField},
        before.WellFormed AnyName → kept done cursors before →
    set < before.selections.sets.length →
    field ∈ [pageInfoField, hasNextPageField, endCursorField] →
    selectIn set field [] before = .ok (selected, after) →
      kept done cursors after
  selected :
    ∀ {before middle after : CompileState} {done : List FieldCall}
        {cursors : Nat} {set : SetId} {field : FieldDefinition}
        {arguments written : List Argument} {found : Option String}
        {selected : SelectedField}, before.WellFormed AnyName →
      kept done cursors before →
    set < before.selections.sets.length → allowed field arguments →
    passArguments field false arguments none before =
      .ok ((written, found), middle) →
    selectIn set field written middle = .ok (selected, after) →
    kept (done ++ [⟨field, arguments, false⟩]) cursors after
  paged :
    ∀ {before passed middle after : CompileState} {done : List FieldCall}
        {set : SetId} {field : FieldDefinition}
        {arguments written : List Argument} {found : Option String}
        {selected : SelectedField} {result : Unit}, before.WellFormed AnyName →
      kept done before.subqueries.length before →
    set < before.selections.sets.length → allowed field arguments →
    passArguments field true arguments none before =
      .ok ((written, found), passed) →
    declare (CompileState.cursorName before.subqueries.length)
        (TypeRef.scalar .string) passed = .ok (result, middle) →
    selectIn set field (written ++ [⟨"after", .variableRef
      (CompileState.cursorName before.subqueries.length)⟩]) middle =
        .ok (selected, after) →
    kept (done ++ [⟨field, arguments, true⟩]) (before.subqueries.length + 1)
      after
  narrowed :
    ∀ {before after : CompileState} {done : List FieldCall} {cursors : Nat}
      {set id : SetId} {typeName : String}, before.WellFormed AnyName →
    kept done cursors before → set < before.selections.sets.length →
    fragmentIn set typeName before = .ok (id, after) → kept done cursors after
  pushed : ∀ {before after : CompileState} {done : List FieldCall}
    {initialCursor : Option String} {path : List String} {keys : PageKeys}
    {id : SubqueryId}, before.WellFormed AnyName →
    kept done (before.subqueries.length + 1) before →
    before.selections.CursorAt path
      (CompileState.cursorName before.subqueries.length) →
    pushSubquery (CompileState.cursorName before.subqueries.length)
        initialCursor path keys before = .ok (id, after) →
    kept done (before.subqueries.length + 1) after

/-- Two properties that are kept are kept together. -/
theorem CallUpkeep.and {allowed : FieldDefinition → List Argument → Prop}
    {kept others : List FieldCall → Nat → CompileState → Prop}
    (first : CallUpkeep allowed kept) (second : CallUpkeep allowed others) :
    CallUpkeep allowed fun done cursors state =>
      kept done cursors state ∧ others done cursors state where
  information formed holds bound page success :=
    ⟨first.information formed holds.1 bound page success,
      second.information formed holds.2 bound page success⟩
  selected formed holds bound allows passing success :=
    ⟨first.selected formed holds.1 bound allows passing success,
      second.selected formed holds.2 bound allows passing success⟩
  paged formed holds bound allows passing declared success :=
    ⟨first.paged formed holds.1 bound allows passing declared success,
      second.paged formed holds.2 bound allows passing declared success⟩
  narrowed formed holds bound success :=
    ⟨first.narrowed formed holds.1 bound success,
     second.narrowed formed holds.2 bound success⟩
  pushed formed holds cursor success :=
    ⟨first.pushed formed holds.1 cursor success,
     second.pushed formed holds.2 cursor success⟩

end Compile

/-- The number of cursors that are handed out: one for each connection, and the
one that waits for its connection. -/
def Chain.cursors (chain : Chain) (state : CompileState) : Nat :=
  state.subqueries.length + chain.pendingPage.toList.length

/-- A chain is where its path says, and a cursor that waits is at its path. -/
structure Chain.Upkept (kept : Nat → CompileState → Prop) (state : CompileState)
    (chain : Chain) : Prop where
  kept : kept (chain.cursors state) state
  reached : ∀ {object}, chain.position = .object object →
    state.selections.ReachesSet chain.path object.set
  cursor : ∀ {page}, chain.pendingPage = some page →
    state.selections.CursorAt chain.path page.variableName

theorem Selections.CursorAt.grow {before after : Selections}
    (grows : before.Grows after)
    {path : List String} {variableName : String}
    (cursor : before.CursorAt path variableName) :
    after.CursorAt path variableName := by
  obtain ⟨parent, id, record, name, arguments, reached, member, same, signed⟩ :=
    cursor
  exact ⟨parent, id, record, name, arguments, reached.grow grows,
    (grows.fields _).subset member, same, signed⟩

variable {kept : Nat → CompileState → Prop} {before after : CompileState}
  {scopes : Scopes} {chain : Chain}

theorem Chain.cursors_of_none (noPage : chain.pendingPage = none)
    (state : CompileState) :
    chain.cursors state = state.subqueries.length := by
  simp [Chain.cursors, noPage]

theorem Chain.start_upkept {source : Source} {depth : Nat} {scope : Scope}
    (reached : scopes.Reached before)
    (holds : kept before.subqueries.length before)
    (resolved : scopes.resolve? source = some (depth, scope)) :
    (Chain.start [] scopes depth scope).Upkept kept before := by
  constructor
  · rw [Chain.cursors_of_none rfl]
    exact holds
  · intro object atObject
    obtain rfl := Position.object.inj atObject
    exact reached scope (Scopes.mem_of_resolve? resolved)
  · intro page pending
    cases pending

theorem Chain.Upkept.inside {parameter : Parameter} {object : ObjectPosition}
    (upkept : chain.Upkept kept before) (reached : scopes.Reached before)
    (atObject : chain.position = .object object) :
    Scopes.Reached (chain.scope parameter object :: scopes) before := by
  intro scope member
  rcases List.mem_cons.mp member with rfl | outer
  · exact upkept.reached atObject
  · exact reached scope outer

/-- A value that is made of the object a chain is at keeps what its pipelines
keep. -/
theorem Chain.Upkept.made {position : Position}
    (noPage : chain.pendingPage = none)
    (holds : kept after.subqueries.length after)
    (noObject : ∀ inner, position ≠ .object inner) :
    ({ chain with position } : Chain).Upkept kept after := by
  have samePage : ({ chain with position } : Chain).pendingPage = none := noPage
  constructor
  · rw [Chain.cursors_of_none samePage]
    exact holds
  · intro inner same
    exact absurd same (noObject inner)
  · intro page pending
    rw [noPage] at pending
    cases pending

theorem Chain.Upkept.endedBy (upkept : chain.Upkept kept before) (step : Step) :
    (chain.endedBy step).Upkept kept before := by
  unfold Chain.endedBy
  split
  · exact ⟨upkept.kept, upkept.reached, upkept.cursor⟩
  · exact upkept

namespace Compile

variable {allowed : FieldDefinition → List Argument → Prop}

/-! ### Selecting fields -/

/-- A field that is selected leads to the objects below it. -/
theorem advance_place {object : ObjectPosition} {field : FieldDefinition}
    {selected : SelectedField} {next : Chain}
    (advanced : advance chain object field selected = .ok next) :
    next.path = chain.path ++ [selected.key] ∧
      ∀ {place},
        next.position = .object place → selected.child = some place.set := by
  unfold advance at advanced
  cases child : selected.child with
  | none =>
      simp only [child, Except.ok.injEq] at advanced
      subst next
      exact ⟨rfl, fun same => by cases same⟩
  | some set =>
      simp only [child] at advanced
      cases elementOf : field.type.element? with
      | none =>
          simp only [elementOf, guardNull_eq, Chain.push,
            Except.ok.injEq] at advanced
          subst next
          refine ⟨rfl, fun same => ?_⟩
          rw [← Position.object.inj same]
      | some element =>
          simp only [elementOf, guardNull_eq, mapList_eq,
            Chain.push] at advanced
          split at advanced
          · cases advanced
          · obtain rfl := Except.ok.inj advanced
            refine ⟨rfl, fun same => ?_⟩
            rw [← Position.object.inj same]

/-- The arguments that are written are among those passed. -/
theorem passArguments_written {field : FieldDefinition} {paginate : Bool}
    {arguments written : List Argument} {cursor found : Option String}
    (success : passArguments field paginate arguments cursor before =
      .ok ((written, found), after)) :
    ∀ argument ∈ written,
      argument ∈ arguments ∧ argument.value.isOmitted = false := by
  induction arguments generalizing before cursor written with
  | nil =>
      simp only [passArguments, pure_eq_ok, Prod.mk.injEq] at success
      obtain ⟨⟨rfl, _⟩, rfl⟩ := success
      simp
  | cons argument arguments induction =>
      obtain ⟨name, value⟩ := argument
      have later :
          ∀ {state : CompileState} {cursor : Option String}
              {others : List Argument}, passArguments field paginate arguments
              cursor state = .ok ((others, found), after) →
          ∀ argument ∈ others, argument ∈ ⟨name, value⟩ :: arguments ∧
            argument.value.isOmitted = false := by
        intro state cursor others rest argument member
        obtain ⟨passed, given⟩ := induction rest argument member
        exact ⟨List.mem_cons_of_mem _ passed, given⟩
      unfold passArguments at success
      cases known : field.argument? name with
      | none => simp [known] at success
      | some definition =>
          simp only [known] at success
          by_cases omitted : value.isOmitted = true
          · simp only [omitted, if_true] at success
            exact later success
          · by_cases replaced : (paginate && definition.name == "after") = true
            · simp only [omitted, replaced, if_true, if_false, bind_eq_ok,
                Bool.false_eq_true] at success
              obtain ⟨_, _, _, rest⟩ := success
              exact later rest
            · simp only [omitted, replaced, if_false, bind_eq_ok, pure_eq_ok,
                Bool.false_eq_true] at success
              obtain ⟨_, _, _, ⟨others, _⟩, _, rest, same, rfl⟩ := success
              obtain ⟨rfl, rfl⟩ := Prod.mk.inj same
              intro argument member
              rcases List.mem_cons.mp member with rfl | other
              · rw [argument?_name known]
                exact ⟨List.mem_cons_self, by simpa using omitted⟩
              · exact later rest argument other

/-- The variable of a cursor is declared as one of strings. -/
theorem preparePage_declares {field : FieldDefinition} {cursor : Option String}
    {argument : Argument} {page : PendingPage}
    (success :
      preparePage chain field cursor before = .ok ((argument, page), after)) :
    declare page.variableName (TypeRef.scalar .string) before =
      .ok ((), after) := by
  unfold preparePage at success
  cases connection : field.isConnection with
  | false => simp [connection] at success
  | true =>
      cases repeated : chain.repeated with
      | true => simp [connection, repeated] at success
      | false =>
          simp only [connection, repeated, Bool.not_true, Bool.false_eq_true,
            if_false, bind_eq_ok, get_eq_ok, pure_eq_ok] at success
          obtain ⟨_, _, ⟨rfl, rfl⟩, _, _, declared, same, rfl⟩ := success
          obtain ⟨rfl, rfl⟩ := Prod.mk.inj same
          exact declared

theorem pushSubquery_length {variableName : String}
    {initialCursor : Option String} {path : List String} {keys : PageKeys}
    {id : SubqueryId}
    (success :
      pushSubquery variableName initialCursor path keys before =
        .ok (id, after)) :
    after.subqueries.length = before.subqueries.length + 1 := by
  obtain ⟨_, rfl⟩ := pushSubquery_eq_ok success
  simp

section

variable (upkeep : Upkeep allowed kept)
include upkeep

theorem declareAll_keeps {cursors : Nat} {uses : List (String × TypeRef)}
    {result : Unit}
    (holds : kept cursors before)
    (success : declareAll uses before = .ok (result, after)) :
    kept cursors after := by
  induction uses generalizing before with
  | nil =>
      simp only [declareAll, pure_eq_ok] at success
      rw [← success.2]
      exact holds
  | cons use uses induction =>
      simp only [declareAll, bind_eq_ok] at success
      obtain ⟨_, middle, first, rest⟩ := success
      exact induction (upkeep.declared holds first) rest

theorem passArguments_keeps {cursors : Nat} {field : FieldDefinition}
    {paginate : Bool} {arguments written : List Argument}
    {cursor found : Option String}
    (holds : kept cursors before)
    (success : passArguments field paginate arguments cursor before =
      .ok ((written, found), after)) : kept cursors after := by
  induction arguments generalizing before cursor written with
  | nil =>
      simp only [passArguments, pure_eq_ok] at success
      rw [← success.2]
      exact holds
  | cons argument arguments induction =>
      obtain ⟨name, value⟩ := argument
      unfold passArguments at success
      cases known : field.argument? name with
      | none => simp [known] at success
      | some definition =>
          simp only [known] at success
          by_cases omitted : value.isOmitted = true
          · simp only [omitted, if_true] at success
            exact induction holds success
          · by_cases replaced : (paginate && definition.name == "after") = true
            · simp only [omitted, replaced, if_true, if_false, bind_eq_ok,
                Bool.false_eq_true] at success
              obtain ⟨start, middle, first, rest⟩ := success
              obtain rfl := initialCursor_sameState first
              exact induction holds rest
            · simp only [omitted, replaced, if_false, bind_eq_ok, pure_eq_ok,
                Bool.false_eq_true] at success
              obtain ⟨_, middle, declared, ⟨others, _⟩, _, rest, same, rfl⟩ :=
                success
              obtain ⟨_, rfl⟩ := Prod.mk.inj same
              exact induction (declareAll_keeps upkeep holds declared) rest

/-- A property that each action keeps is kept by each call. -/
theorem Upkeep.callUpkeep : CallUpkeep allowed fun _ => kept where
  information {before after done cursors set field selected} formed holds bound
      page success := by
    have allows : allowed field [] := by
      simp only [List.mem_cons, List.not_mem_nil, or_false] at page
      rcases page with rfl | rfl | rfl
      · exact upkeep.pageInfo
      · exact upkeep.hasNextPage
      · exact upkeep.endCursor
    exact upkeep.selected formed holds bound allows success
  selected formed holds bound allows passing success := by
    obtain ⟨same, written⟩ := passArguments_spec passing
    rw [written rfl] at success
    rw [← same.1] at bound
    exact upkeep.selected (same.wellFormed formed)
      (passArguments_keeps upkeep holds passing) bound allows success
  paged formed holds bound allows passing declared success := by
    obtain ⟨same, _⟩ := passArguments_spec passing
    rw [← same.1] at bound
    rw [← same.2.1] at holds declared success ⊢
    exact upkeep.paged (same.wellFormed formed)
      (passArguments_keeps upkeep holds passing) bound allows
      (passArguments_written passing) declared success
  narrowed := upkeep.narrowed
  pushed := upkeep.pushed

end

section

variable {kept : List FieldCall → Nat → CompileState → Prop}
  {done : List FieldCall}
  (upkeep : CallUpkeep allowed kept)
include upkeep

omit upkeep in
/-- A selected field leads to the objects below it, at their path. -/
theorem advance_upkept {object : ObjectPosition} {field : FieldDefinition}
    {selected : SelectedField} {next : Chain} {definition : FieldDefinition}
    {arguments : List Argument}
    (advanced : advance chain object field selected = .ok next)
    (reached : after.selections.ReachesSet chain.path object.set)
    (holds : after.selections.Holds object.set definition arguments selected)
    (keeps : kept done (chain.cursors after) after)
    (cursor : ∀ {page}, chain.pendingPage = some page →
      after.selections.CursorAt (chain.path ++ [selected.key])
        page.variableName) :
    next.Upkept (kept done) after := by
  obtain ⟨path, child⟩ := advance_place advanced
  have samePage := advance_pendingPage advanced
  constructor
  · rw [Chain.cursors, samePage]
    exact keeps
  · intro place atPlace
    rw [path]
    exact Selects.below reached holds (child atPlace)
  · intro page pending
    rw [path]
    rw [samePage] at pending
    exact cursor pending

theorem selectField_keeps {frames : List Frame} {own : Chain}
    {field : FieldDefinition} {arguments : List Argument} {paginate : Bool}
    (formed : before.WellFormed AnyName)
    (within : chain.position.Within before.selections)
    (allows : allowed field arguments) (noPage : chain.pendingPage = none)
    (upkept : chain.Upkept (kept done) before)
    (success :
      selectField (chain.under frames) field arguments paginate before =
        .ok (own.under frames, after)) :
    own.Upkept (kept (done ++ [⟨field, arguments, paginate⟩])) after := by
  simp only [selectField, bind_eq_ok] at success
  obtain ⟨object, start, selectable, ⟨written, cursor⟩, passed, passing,
    success⟩ := success
  obtain ⟨atObject, noList, rfl⟩ := selectableObject_spec selectable
  obtain ⟨samePassed, _⟩ := passArguments_spec passing
  have formedPassed := samePassed.wellFormed formed
  rw [atObject] at within
  have bound : object.set < passed.selections.sets.length := by
    rw [samePassed.1]
    exact within
  have keeps : kept done start.subqueries.length start := by
    have holds := upkept.kept
    rw [Chain.cursors_of_none noPage] at holds
    exact holds
  have reached := upkept.reached atObject
  rw [← samePassed.1] at reached
  cases paginate with
  | false =>
      simp only [Bool.false_eq_true, if_false, bind_eq_ok,
        liftM_eq_ok] at success
      obtain ⟨selected, _, selecting, advancing, rfl⟩ := success
      obtain ⟨next, advanced, same⟩ := advance_of_under advancing
      obtain rfl := under_injective same
      obtain ⟨_, grows, sameSubqueries, holds⟩ :=
        selectIn_spec formedPassed bound trivial selecting
      refine advance_upkept advanced (reached.grow grows.selections) holds ?_ ?_
      · rw [Chain.cursors_of_none noPage, sameSubqueries, samePassed.2.1]
        exact upkeep.selected formed keeps within allows passing selecting
      · intro page pending
        rw [noPage] at pending
        cases pending
  | true =>
      simp only [if_true, bind_eq_ok, liftM_eq_ok] at success
      obtain ⟨⟨argument, page⟩, prepared, preparing, selected, _, selecting,
        advancing, rfl⟩ := success
      obtain ⟨samePrepared, _, _, rfl, cursorOf⟩ := preparePage_spec preparing
      have declared := preparePage_declares preparing
      have pending :
          ({ chain.under frames with pendingPage := some page } : Chain) =
            ({ chain with pendingPage := some page } : Chain).under frames :=
              rfl
      rw [pending] at advancing
      obtain ⟨next, advanced, same⟩ := advance_of_under advancing
      obtain rfl := under_injective same
      have boundPrepared : object.set < prepared.selections.sets.length := by
        rw [samePrepared.1]
        exact bound
      obtain ⟨_, grows, sameSubqueries, holds⟩ :=
        selectIn_spec (samePrepared.wellFormed formedPassed) boundPrepared
          trivial selecting
      rw [← samePrepared.1] at reached
      have reachedAfter := reached.grow grows.selections
      have cursorStart := cursorOf
      rw [samePassed.2.1] at cursorStart
      refine advance_upkept advanced reachedAfter holds ?_ ?_
      · rw [cursorStart] at declared selecting
        have counted :=
          upkeep.paged formed keeps within allows passing declared selecting
        simpa [Chain.cursors, sameSubqueries, samePrepared.2.1, samePassed.2.1]
          using counted
      · intro waiting same
        obtain rfl := Option.some.inj same
        obtain ⟨record, member, signed, _, rfl⟩ := holds
        exact ⟨_, _, record, _, written, reachedAfter, member, rfl, signed⟩

/-! ### Pages -/

theorem selectPageInfo_keeps {cursors : Nat} {connection : ObjectPosition}
    {keys : String × String × String} (formed : before.WellFormed AnyName)
    (bound : connection.set < before.selections.sets.length)
    (holds : kept done cursors before)
    (success : selectPageInfo connection before = .ok (keys, after)) :
    kept done cursors after := by
  simp only [selectPageInfo, bind_eq_ok] at success
  obtain ⟨pageInfo, first, selectingInfo, success⟩ := success
  have keepsFirst :=
    upkeep.information formed holds bound (by simp) selectingInfo
  obtain ⟨formedFirst, _, _, holdsInfo⟩ :=
    selectIn_spec formed bound trivial selectingInfo
  cases child : pageInfo.child with
  | none => simp [child] at success
  | some info =>
      simp only [child, bind_eq_ok, pure_eq_ok] at success
      obtain ⟨_, second, selectingNext, _, _, selectingCursor, _, rfl⟩ :=
        success
      have boundFirst := holdsInfo.child_lt formedFirst.selections child
      have keepsSecond :=
        upkeep.information formedFirst keepsFirst boundFirst (by simp)
          selectingNext
      obtain ⟨formedSecond, growsSecond, _, _⟩ :=
        selectIn_spec formedFirst boundFirst trivial selectingNext
      exact upkeep.information formedSecond keepsSecond
        (Nat.lt_of_lt_of_le boundFirst growsSecond.selections.sets) (by simp)
          selectingCursor

theorem selectAllPages_keeps {frames : List Frame} {own : Chain}
    {nodes : FieldDefinition}
    (formed : before.WellFormed AnyName)
    (within : chain.position.Within before.selections)
    (allows : allowed nodes []) (pends : chain.Pends true before)
    (upkept : chain.Upkept (kept done) before)
    (success : selectAllPages (chain.under frames) nodes before =
      .ok (own.under frames, after)) :
    own.Upkept (kept (done ++ [⟨nodes, [], false⟩])) after := by
  unfold selectAllPages at success
  have samePage : (chain.under frames).pendingPage = chain.pendingPage := rfl
  have samePosition : (chain.under frames).position = chain.position := rfl
  rw [samePage, samePosition] at success
  cases pending : chain.pendingPage with
  | none => simp [pending] at success
  | some page =>
      cases position : chain.position with
      | value program isList => simp [pending, position] at success
      | dictionary entry => simp [pending, position] at success
      | object connection =>
          simp only [pending, position] at success
          cases known : nodeType? nodes with
          | none => simp [known] at success
          | some element =>
              simp only [known, bind_eq_ok] at success
              obtain ⟨⟨pageInfo, hasNextPage, endCursor⟩, first, selectingInfo,
                selected, second, selecting, success⟩ := success
              rw [position] at within
              have holds := upkept.kept
              rw [Chain.cursors, pending] at holds
              have keepsFirst :=
                selectPageInfo_keeps upkeep formed within holds selectingInfo
              obtain ⟨formedFirst, growsFirst, sameFirst, _⟩ :=
                selectPageInfo_spec formed anyPageNames within selectingInfo
              have boundFirst :=
                Nat.lt_of_lt_of_le within growsFirst.selections.sets
              have keepsSecond :=
                upkeep.selected formedFirst keepsFirst boundFirst allows rfl
                  selecting
              obtain ⟨formedSecond, growsSecond, sameSecond, holdsNodes⟩ :=
                selectIn_spec formedFirst boundFirst trivial selecting
              have grows := growsFirst.trans growsSecond
              have sameSubqueries := sameSecond.trans sameFirst
              cases child : selected.child with
              | none => simp [child] at success
              | some set =>
                  simp only [child, bind_eq_ok, pure_eq_ok] at success
                  obtain ⟨id, _, pushing, same, rfl⟩ := success
                  have sameSelections := pushSubquery_sameSelections pushing
                  have cursorOf : page.variableName =
                      CompileState.cursorName second.subqueries.length := by
                    rw [sameSubqueries]
                    exact (pends page pending).2
                  have cursor := (upkept.cursor pending).grow grows.selections
                  rw [cursorOf] at pushing cursor
                  rw [← sameSubqueries] at keepsSecond
                  have keeps :=
                    upkeep.pushed formedSecond keepsSecond cursor pushing
                  have sameOwn : own = chain.throughPages id
                      ⟨selected.key, pageInfo, hasNextPage, endCursor⟩
                      { set
                        type := element
                        absentOk := connection.absentOk || element.isNullable
                        name := nodes.name } := by
                    apply @under_injective _ _ frames
                    rw [← Chain.throughPages_under]
                    rw [← position] at same
                    exact same.symm
                  subst sameOwn
                  have noPage : (chain.throughPages id
                      ⟨selected.key, pageInfo, hasNextPage, endCursor⟩
                      { set
                        type := element
                        absentOk := connection.absentOk || element.isNullable
                        name :=
                          nodes.name }).pendingPage = none :=
                            guardNull_pendingPage _ _
                  constructor
                  · rw [Chain.cursors_of_none noPage,
                      pushSubquery_length pushing]
                    exact keeps
                  · intro place atPlace
                    rw [← Position.object.inj atPlace, sameSelections]
                    simp only [Chain.throughPages, mapList_eq, Chain.push]
                    exact Selects.below
                      ((upkept.reached position).grow grows.selections)
                      holdsNodes child
                  · intro waiting same
                    rw [noPage] at same
                    cases same

/-! ### Narrowing -/

theorem narrow_keeps {frames : List Frame} {own : Chain}
    {object : ObjectPosition} {typeName : String} {mode : NarrowingMode}
    (formed : before.WellFormed AnyName)
    (atObject : chain.position = .object object)
    (within : chain.position.Within before.selections)
    (noPage : chain.pendingPage = none)
    (upkept : chain.Upkept (kept done) before)
    (success :
      narrow ((chain.counted mode).under frames) object typeName mode before =
        .ok (own.under frames, after)) : own.Upkept (kept done) after := by
  simp only [narrow, bind_eq_ok, pure_eq_ok] at success
  obtain ⟨set, _, narrowing, same, rfl⟩ := success
  rw [atObject] at within
  obtain ⟨_, grows, sameSubqueries, found, _⟩ :=
    fragmentIn_spec formed within narrowing
  have sameOwn : own = chain.narrowedTo object typeName mode set := by
    apply @under_injective _ _ frames
    rw [← same, Chain.push_under]
    rfl
  have counted : (chain.counted mode).pendingPage = chain.pendingPage ∧
      (chain.counted mode).path = chain.path := by
    unfold Chain.counted
    split <;> exact ⟨rfl, rfl⟩
  have noPageAfter : own.pendingPage = none := by
    rw [sameOwn]
    exact counted.1.trans noPage
  constructor
  · rw [Chain.cursors_of_none noPageAfter, sameSubqueries,
      ← Chain.cursors_of_none noPage]
    exact upkeep.narrowed formed upkept.kept within narrowing
  · intro place atPlace
    subst own
    rw [← Position.object.inj atPlace]
    have samePath :
        (chain.narrowedTo object typeName mode set).path = chain.path :=
      counted.2
    rw [samePath]
    exact ((upkept.reached atObject).grow grows.selections).fragment found
  · intro page pending
    rw [noPageAfter] at pending
    cases pending

theorem castTo_keeps {frames : List Frame} {own : Chain} {typeName : String}
    (formed : before.WellFormed AnyName)
    (within : chain.position.Within before.selections)
    (noPage : chain.pendingPage = none)
    (upkept : chain.Upkept (kept done) before)
    (success : castTo (chain.under frames) typeName before =
      .ok (own.under frames, after)) : own.Upkept (kept done) after := by
  obtain ⟨object, atObject, _, narrows⟩ := castTo_narrows success
  exact narrow_keeps upkeep formed atObject within noPage upkept narrows

theorem filterTo_keeps {frames : List Frame} {own : Chain} {typeName : String}
    (formed : before.WellFormed AnyName)
    (within : chain.position.Within before.selections)
    (noPage : chain.pendingPage = none)
    (upkept : chain.Upkept (kept done) before)
    (success : filterTo (chain.under frames) typeName before =
      .ok (own.under frames, after)) : own.Upkept (kept done) after := by
  obtain ⟨object, atObject, _, _, narrows⟩ := filterTo_narrows success
  exact narrow_keeps upkeep formed atObject within noPage upkept narrows

end

/-! ### Whole pipelines -/

section

variable {kept : List FieldCall → Nat → CompileState → Prop}

/-- No cursor waits for a connection once a pipeline of its own is finished. -/
theorem finished_keeps {before after : CompileState} {scopes : Scopes}
    {pipeline : Pipeline} {program : Program} {calls : List FieldCall}
    (formed : before.WellFormed AnyName)
    (bound : scopes.Within before.selections)
    (success : Compile.pipeline scopes pipeline before = .ok (program, after))
    (keeps : ∀ {own : Chain},
      walkPipeline scopes [] pipeline before = .ok (own.under [], after) →
        own.Upkept (kept calls) after) :
    kept calls after.subqueries.length after := by
  obtain ⟨_, walking, _⟩ := pipeline_eq_ok.mp success
  obtain ⟨own, rfl, arrives⟩ :=
    walkPipeline_arrives pipeline formed anyPageNames
      (Pipeline.eachField (fun _ _ => trivial) pipeline) bound walking
  have upkept := (keeps walking).kept
  rwa [Chain.cursors_of_none arrives.pends.none] at upkept

mutual

/-- The walk of a pipeline keeps the property. -/
theorem walkPipeline_keeps (upkeep : CallUpkeep allowed kept)
    {before after : CompileState} {done : List FieldCall} {scopes : Scopes}
    {frames : List Frame} {own : Chain}
    (pipeline : Pipeline)
    (allows : pipeline.EachField allowed) (formed : before.WellFormed AnyName)
    (bound : scopes.Within before.selections) (reached : scopes.Reached before)
    (holds : kept done before.subqueries.length before)
    (success :
      walkPipeline scopes frames pipeline before =
        .ok (own.under frames, after)) :
    own.Upkept (kept (done ++ pipeline.calls)) after := by
  cases pipeline with
  | mk source steps =>
      obtain ⟨depth, scope, resolved, walking⟩ := walkPipeline_eq_ok.mp success
      rw [Chain.start_under] at walking
      have within :
          (Chain.start [] scopes depth scope).position.Within
            before.selections := bound scope (Scopes.mem_of_resolve? resolved)
      exact walk_keeps upkeep steps allows formed bound reached within
        (Chain.pends_of_none rfl) (Chain.start_upkept reached holds resolved)
        walking
termination_by structural pipeline

theorem walk_keeps (upkeep : CallUpkeep allowed kept)
    {before after : CompileState} {done : List FieldCall} {scopes : Scopes}
    {frames : List Frame} {chain own : Chain}
    (steps : List Step) (allows : Pipeline.EachFieldOfSteps allowed steps)
    (formed : before.WellFormed AnyName)
    (bound : scopes.Within before.selections) (reached : scopes.Reached before)
    (within : chain.position.Within before.selections)
    (pends : chain.Pends (steps.head?.any Step.isAllPages) before)
    (upkept : chain.Upkept (kept done) before)
    (success : walk scopes steps (chain.under frames) before =
      .ok (own.under frames, after)) :
    own.Upkept (kept (done ++ Pipeline.callsOfSteps steps)) after := by
  cases steps with
  | nil =>
      simp only [walk, pure_eq_ok] at success
      obtain ⟨same, rfl⟩ := success
      obtain rfl := under_injective same
      rw [Pipeline.callsOfSteps, List.append_nil]
      exact upkept
  | cons step rest =>
      obtain ⟨_, _, middle, first, others⟩ := walk_cons_eq_ok.mp success
      obtain ⟨next, rfl, arrives⟩ := walkStep_arrives step formed anyPageNames
        (Pipeline.eachFieldOfStep (fun _ _ => trivial) step) bound within pends
          first
      rw [endedBy_under] at others
      have upkeptNext :=
        walkStep_keeps upkeep step allows.1 formed bound reached within pends
          upkept first
      obtain ⟨withinNext, pendsNext⟩ := arrives.endedBy step
      rw [Pipeline.callsOfSteps, ← List.append_assoc]
      exact walk_keeps upkeep rest allows.2 arrives.formed
        (bound.grow arrives.grows.selections) (reached.grow arrives.grows)
          withinNext
        pendsNext (upkeptNext.endedBy step) others
termination_by structural steps

theorem walkStep_keeps (upkeep : CallUpkeep allowed kept)
    {before after : CompileState} {done : List FieldCall} {scopes : Scopes}
    {frames : List Frame} {chain own : Chain} {paginate : Bool} (step : Step)
    (allows : Pipeline.EachFieldOfStep allowed step)
    (formed : before.WellFormed AnyName)
    (bound : scopes.Within before.selections) (reached : scopes.Reached before)
    (within : chain.position.Within before.selections)
    (pends : chain.Pends step.isAllPages before)
    (upkept : chain.Upkept (kept done) before)
    (success : walkStep scopes step paginate (chain.under frames) before =
      .ok (own.under frames, after)) :
    own.Upkept (kept (done ++ Pipeline.callsOfStep paginate step)) after := by
  cases step with
  | property field =>
    exact selectField_keeps upkeep formed within allows pends.none upkept
      success
  | call field arguments =>
      exact selectField_keeps upkeep formed within allows pends.none upkept
        success
  | allPages nodes =>
      exact selectAllPages_keeps upkeep formed within allows pends upkept
        success
  | cast typeName =>
      rw [Pipeline.callsOfStep, List.append_nil]
      exact castTo_keeps upkeep formed within pends.none upkept success
  | filter typeName =>
      rw [Pipeline.callsOfStep, List.append_nil]
      exact filterTo_keeps upkeep formed within pends.none upkept success
  | single =>
      obtain ⟨_, same, rfl⟩ := endSingle_spec success
      obtain rfl := under_injective same
      rw [Pipeline.callsOfStep, List.append_nil]
      exact ⟨upkept.kept, upkept.reached, upkept.cursor⟩
  | singleOrDefault =>
      obtain ⟨_, same, rfl⟩ := endSingle_spec success
      obtain rfl := under_injective same
      rw [Pipeline.callsOfStep, List.append_nil]
      exact ⟨upkept.kept, upkept.reached, upkept.cursor⟩
  | toList =>
      obtain ⟨_, same, rfl⟩ := endList_spec success
      obtain rfl := under_injective same
      rw [Pipeline.callsOfStep, List.append_nil]
      exact upkept
  | record parameter fields =>
      have noPage : chain.pendingPage = none := pends.none
      have holds := upkept.kept
      rw [Chain.cursors_of_none noPage] at holds
      obtain ⟨object, programs, atObject, compiling, same⟩ :=
        walkStep_record_eq_ok.mp success
      have sameObject : chain.position = .object object := atObject
      obtain rfl : own = { chain with
          position := .value
            ((Program.buildRecord programs).bindIfRead scopes.length) false } :=
        under_injective same
      have keeps := compileFields_keeps upkeep fields allows formed
        (scope_within parameter bound sameObject within)
        (upkept.inside reached sameObject) holds compiling
      exact .made noPage keeps (by simp)
  | value parameter inner =>
      have noPage : chain.pendingPage = none := pends.none
      have holds := upkept.kept
      rw [Chain.cursors_of_none noPage] at holds
      cases ended : inner.endsTerminal with
      | true =>
          obtain ⟨object, program, atObject, compiling, same⟩ :=
            (walkStep_valueEnded_eq_ok ended).mp success
          have sameObject : chain.position = .object object := atObject
          obtain rfl : own = { chain with
              position := .value (program.bindIfRead scopes.length) false } :=
            under_injective same
          have inside := scope_within parameter bound sameObject within
          have innerReached :
              Scopes.Reached (chain.scope parameter object :: scopes) before :=
            upkept.inside reached sameObject
          have keeps := finished_keeps formed inside compiling fun walking =>
            walkPipeline_keeps upkeep inner allows formed inside innerReached
              holds walking
          exact .made noPage keeps (by simp)
      | false =>
          obtain ⟨object, _, middle, atObject, walking, rejoining⟩ :=
            (walkStep_valueContinued_eq_ok ended).mp success
          have sameObject : chain.position = .object object := atObject
          have inside := scope_within parameter bound sameObject within
          have innerReached :
              Scopes.Reached (chain.scope parameter object :: scopes) before :=
            upkept.inside reached sameObject
          obtain ⟨last, rfl, _⟩ :=
            walkPipeline_arrives inner formed anyPageNames
              (Pipeline.eachField (fun _ _ => trivial) inner) inside walking
          have keeps :=
            walkPipeline_keeps upkeep inner allows formed inside innerReached
              holds walking
          obtain ⟨_, same, rfl⟩ := rejoin_spec rejoining
          obtain rfl := under_injective same
          exact ⟨keeps.kept, keeps.reached, keeps.cursor⟩
  | toDictionary parameter key value =>
      have noPage : chain.pendingPage = none := pends.none
      have holds := upkept.kept
      rw [Chain.cursors_of_none noPage] at holds
      obtain ⟨object, keyProgram, valueProgram, middle, _, atObject, keyed,
        valued, same⟩ := walkStep_toDictionary_eq_ok.mp success
      have sameObject : chain.position = .object object := atObject
      obtain rfl : own = { chain with
          position := .dictionary
            ((Program.keyValue keyProgram valueProgram).bindIfRead
              scopes.length) } := under_injective same
      have inside := scope_within parameter bound sameObject within
      have innerReached :
          Scopes.Reached (chain.scope parameter object :: scopes) before :=
        upkept.inside reached sameObject
      obtain ⟨formedKey, grows⟩ := pipeline_arrives formed anyPageNames
        (Pipeline.eachField (fun _ _ => trivial) key) inside keyed
      have keepsKey := finished_keeps formed inside keyed fun walking =>
        walkPipeline_keeps upkeep key allows.1 formed inside innerReached holds
          walking
      have insideValue := inside.grow grows.selections
      have keepsValue :=
        finished_keeps formedKey insideValue valued fun walking =>
        walkPipeline_keeps upkeep value allows.2 formedKey insideValue
          (innerReached.grow grows) keepsKey walking
      rw [Pipeline.callsOfStep, ← List.append_assoc]
      exact .made noPage keepsValue (by simp)
termination_by structural step

theorem compileFields_keeps (upkeep : CallUpkeep allowed kept)
    {before after : CompileState} {done : List FieldCall} {scopes : Scopes}
    {programs : List (String × Program)}
    (fields : List (String × Pipeline))
    (allows : Pipeline.EachFieldOfRecord allowed fields)
    (formed : before.WellFormed AnyName)
    (bound : scopes.Within before.selections) (reached : scopes.Reached before)
    (holds : kept done before.subqueries.length before)
    (success : compileFields scopes fields before = .ok (programs, after)) :
    kept (done ++ Pipeline.callsOfRecord fields) after.subqueries.length
      after := by
  cases fields with
  | nil =>
      simp only [compileFields, pure_eq_ok] at success
      rw [← success.2, Pipeline.callsOfRecord, List.append_nil]
      exact holds
  | cons field fields =>
      obtain ⟨key, pipeline⟩ := field
      obtain ⟨program, others, middle, first, compiling, _⟩ :=
        compileFields_cons_eq_ok.mp success
      obtain ⟨formedMiddle, grows⟩ := pipeline_arrives formed anyPageNames
        (Pipeline.eachField (fun _ _ => trivial) pipeline) bound first
      have keeps := finished_keeps formed bound first fun walking =>
        walkPipeline_keeps upkeep pipeline allows.1 formed bound reached holds
          walking
      rw [Pipeline.callsOfRecord, ← List.append_assoc]
      exact compileFields_keeps upkeep fields allows.2 formedMiddle
        (bound.grow grows.selections) (reached.grow grows) keeps compiling
termination_by structural fields

end

/-- A property that calls keep holds of the state in which the compilation of a
pipeline ends, and all calls of the pipeline were made. -/
theorem pipeline_keepsCalls (upkeep : CallUpkeep allowed kept)
    {pipeline : Pipeline} {kind : OperationKind} {program : Program}
    {document : CompileState}
    (allows : pipeline.EachField allowed)
    (initially : kept [] 0 CompileState.initial)
    (compiling :
      Compile.pipeline [rootScope kind] pipeline CompileState.initial =
        .ok (program, document)) :
    document.WellFormed AnyName ∧
      kept pipeline.calls document.subqueries.length document := by
  simp only [Compile.pipeline, bind_eq_ok, finish, liftM_eq_ok] at compiling
  obtain ⟨last, _, walking, _, rfl⟩ := compiling
  have formed := CompileState.initial_wellFormed AnyName
  have reached : Scopes.Reached [rootScope kind] CompileState.initial := by
    intro scope member
    obtain rfl := List.mem_singleton.mp member
    exact .root
  obtain ⟨own, rfl, arrives⟩ :=
    walkPipeline_arrives pipeline formed anyPageNames
      (Pipeline.eachField (fun _ _ => trivial) pipeline) (rootScope_within _)
      walking
  have keeps :=
    (walkPipeline_keeps upkeep pipeline allows formed (rootScope_within _)
      reached initially walking).kept
  rw [Chain.cursors_of_none arrives.pends.none, List.nil_append] at keeps
  exact ⟨arrives.formed, keeps⟩

/-- A property that calls keep holds of the document of a compiled pipeline, in
which all calls of the pipeline were made. -/
theorem compiled_keepsCalls (upkeep : CallUpkeep allowed kept)
    {pipeline : Pipeline} {compiled : CompiledOperation}
    (allows : pipeline.EachField allowed)
    (initially : kept [] 0 CompileState.initial)
    (success : compile pipeline = .ok compiled) :
    ∃ kind document, compiled.operation = document.operation kind ∧
      compiled.subqueries = document.subqueries ∧ document.WellFormed AnyName ∧
        kept pipeline.calls document.subqueries.length document := by
  obtain ⟨kind, program, document, _, compiling, rfl, _⟩ :=
    compile_eq_ok success
  exact ⟨kind, document, rfl, rfl,
    pipeline_keepsCalls upkeep allows initially compiling⟩

end

/-- A property that actions keep holds of the document of a compiled
pipeline. -/
theorem compiled_keeps (upkeep : Upkeep allowed kept) {pipeline : Pipeline}
    {compiled : CompiledOperation} (allows : pipeline.EachField allowed)
    (initially : kept 0 CompileState.initial)
    (success : compile pipeline = .ok compiled) :
    ∃ kind document, compiled.operation = document.operation kind ∧
      compiled.subqueries = document.subqueries ∧ document.WellFormed AnyName ∧
        kept document.subqueries.length document :=
  compiled_keepsCalls upkeep.callUpkeep allows initially success

end Compile

end GraphPipeline
