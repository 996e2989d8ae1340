import GraphPipeline.Proofs.Compile.Successes

/-!
# Walks of successful compilations

A compilation that succeeds has walked its pipeline, in the document it leaves
and in every document that grows out of it.  The frames around a nested pipeline
take no part in its walk, and a cursor that waits for its connection is always
the one of the next connection to be numbered.
-/

namespace GraphPipeline

/-- The set of an object position is a set of the arena. -/
def Position.Within (selections : Selections) : Position → Prop
  | .object place => place.set < selections.sets.length
  | .value _ _ => True
  | .dictionary _ => True

def Scopes.Within (selections : Selections) (scopes : Scopes) : Prop :=
  ∀ scope ∈ scopes, scope.object.set < selections.sets.length

theorem Scopes.Within.grow {before after : Selections} {scopes : Scopes}
    (grows : before.Grows after) (within : scopes.Within before) :
    scopes.Within after :=
  fun scope member => Nat.lt_of_lt_of_le (within scope member) grows.sets

theorem Scopes.mem_of_resolve? {scopes : Scopes} {source : Source} {depth : Nat}
    {scope : Scope} (found : scopes.resolve? source = some (depth, scope)) :
    scope ∈ scopes := by
  induction scopes with
  | nil => simp [Scopes.resolve?] at found
  | cons head outer induction =>
      cases source with
      | root kind =>
          cases outer with
          | nil =>
              simp only [Scopes.resolve?, Option.some.injEq,
                Prod.mk.injEq] at found
              simp [found.2]
          | cons next outer =>
              exact List.mem_cons_of_mem _ (induction (by
                simpa [Scopes.resolve?] using found))
      | parameter parameter =>
          by_cases same : head.parameter = some parameter
          · simp only [Scopes.resolve?, same, if_true, Option.some.injEq,
              Prod.mk.injEq] at found
            simp [found.2]
          · exact List.mem_cons_of_mem _ (induction (by
              simpa [Scopes.resolve?, same] using found))

namespace Chain

/-- A cursor waits only when the pages of its connection are asked for next, and
it is the cursor of the next connection to be numbered. -/
def Pends (chain : Chain) (expected : Bool) (state : CompileState) : Prop :=
  ∀ page, chain.pendingPage = some page →
    expected = true ∧
      page.variableName = CompileState.cursorName state.subqueries.length

theorem Pends.none {chain : Chain} {state : CompileState}
    (pends : chain.Pends false state) : chain.pendingPage = none := by
  cases pending : chain.pendingPage with
  | none => rfl
  | some page => exact absurd (pends page pending).1 Bool.false_ne_true

theorem pends_of_none {chain : Chain} {expected : Bool} {state : CompileState}
    (noPage : chain.pendingPage = none) : chain.Pends expected state := by
  intro page pending
  rw [noPage] at pending
  simp at pending

theorem under_nil (chain : Chain) : chain.under [] = chain := by
  cases chain
  simp [under]

theorem under_under (chain : Chain) (inner outer : List Frame) :
    (chain.under inner).under outer = chain.under (outer ++ inner) := by
  cases chain
  simp [under, Function.comp_def, Nat.add_assoc]

theorem push_under (chain : Chain) (frames : List Frame) (frame : Frame) :
    (chain.under frames).push frame = (chain.push frame).under frames := by
  simp [under, push]

theorem guardNull_under (chain : Chain) (frames : List Frame) (type : TypeRef) :
    (chain.under frames).guardNull type =
      (chain.guardNull type).under frames := by
  unfold guardNull
  split
  · exact push_under chain frames .optional
  · rfl

theorem mapList_under (chain : Chain) (frames : List Frame)
    (element : TypeRef) :
    (chain.under frames).mapList element =
      (chain.mapList element).under frames := by
  unfold mapList
  rw [push_under, ← guardNull_under]
  simp [under]

theorem countFilter_under (chain : Chain) (frames : List Frame) (index : Nat) :
    (chain.under frames).countFilter (frames.length + index) =
      (chain.countFilter index).under frames := by
  simp only [under, countFilter, Chain.mk.injEq, and_true]
  apply List.ext_getElem?
  intro position
  rw [List.getElem?_modify]
  rcases Nat.lt_or_ge position frames.length with inside | beyond
  · have different : ¬ frames.length + index = position := by omega
    rw [List.getElem?_append_left inside, List.getElem?_append_left inside]
    simp [different]
  · rw [List.getElem?_append_right beyond, List.getElem?_append_right beyond,
      List.getElem?_modify]
    have same :
        frames.length + index = position ↔
          index = position - frames.length := by
      omega
    simp [same]

theorem counted_under (chain : Chain) (frames : List Frame)
    (mode : NarrowingMode) :
    (chain.under frames).counted mode = (chain.counted mode).under frames := by
  cases mode with
  | cast => rfl
  | filter =>
      unfold counted
      cases list : chain.list with
      | none => simp [under, list]
      | some index =>
          have underList :
              (chain.under frames).list = some (frames.length + index) := by
            simp [under, list]
          simp only [underList]
          exact countFilter_under chain frames index

theorem throughPages_under (chain : Chain) (frames : List Frame)
    (id : SubqueryId) (keys : PageKeys) (node : ObjectPosition) :
    (chain.under frames).throughPages id keys node =
      (chain.throughPages id keys node).under frames := by
  have moved : ({ chain.under frames with
        pendingPage :=
          none, path := (chain.under frames).path ++ [keys.nodes] } : Chain) =
      ({ chain with
        pendingPage :=
          none, path := chain.path ++ [keys.nodes] } : Chain).under frames :=
    rfl
  unfold throughPages
  rw [moved, push_under, mapList_under]
  rfl

theorem start_under (frames : List Frame) (scopes : Scopes) (depth : Nat)
    (scope : Scope) :
    Chain.start frames scopes depth scope =
      (Chain.start [] scopes depth scope).under frames := by
  unfold start under
  split <;> simp

theorem continued_under (outer inner : Chain) (frames : List Frame)
    (depth : Nat) :
    (outer.under frames).continued depth inner =
      (outer.continued depth inner).under frames := by
  unfold continued
  cases inner
  cases outer
  rename_i list _ _ _ _ _ _ _ outerList _ _ _ _ _
  cases list <;> cases outerList <;> simp [under, Nat.add_assoc]

end Chain

namespace Compile

/-- The outcome of a walk: the document has grown from one state into another,
in which the chain stands, and every later document derives the chain. -/
structure Arrives (named : String → Prop) (before after : CompileState)
    (expected : Bool) (derives : CompileState → Chain → Prop) (chain : Chain) :
    Prop where
  formed : after.WellFormed named
  grows : before.Grows after
  within : chain.position.Within after.selections
  pends : chain.Pends expected after
  derives : ∀ document, after.Grows document → derives document chain

variable {named : String → Prop} {before after : CompileState}

/-! ### Selecting fields -/

theorem advance_under (chain : Chain) (frames : List Frame)
    (object : ObjectPosition) (field : FieldDefinition)
    (selected : SelectedField) :
    advance (chain.under frames) object field selected =
      (advance chain object field selected).map (Chain.under · frames) := by
  unfold advance
  cases selected.child with
  | none => rfl
  | some set =>
      have entered : (({ chain.under frames with
            path := (chain.under frames).path ++ [selected.key] } : Chain).push
              (.field selected.key)).guardNull field.type =
          ((({ chain with path := chain.path ++ [selected.key] } : Chain).push
            (.field selected.key)).guardNull field.type).under frames := by
        rw [← Chain.guardNull_under, ← Chain.push_under]
        rfl
      simp only [entered]
      cases field.type.element? with
      | none => rfl
      | some element =>
          by_cases nested : element.isList = true
          · simp only [nested, if_true]
            rfl
          · simp only [nested, Chain.mapList_under]
            rfl

theorem advance_of_under {chain last : Chain} {frames : List Frame}
    {object : ObjectPosition} {field : FieldDefinition}
    {selected : SelectedField}
    (success : advance (chain.under frames) object field selected = .ok last) :
    ∃ own, advance chain object field selected = .ok own ∧
      last = own.under frames := by
  rw [advance_under] at success
  cases result : advance chain object field selected with
  | error error => simp [result, Except.map] at success
  | ok own =>
      simp only [result, Except.map, Except.ok.injEq] at success
      exact ⟨own, rfl, success.symm⟩

theorem advance_within {selections : Selections} {chain next : Chain}
    {object : ObjectPosition} {field : FieldDefinition}
    {selected : SelectedField}
    (bound : ∀ {set}, selected.child = some set → set < selections.sets.length)
    (success : advance chain object field selected = .ok next) :
    next.position.Within selections := by
  unfold advance at success
  cases child : selected.child with
  | none =>
      simp only [child, Except.ok.injEq] at success
      subst next
      trivial
  | some set =>
      simp only [child] at success
      cases element : field.type.element? with
      | none =>
          simp only [element, Except.ok.injEq] at success
          subst next
          exact bound child
      | some element =>
          simp only [*] at success
          split at success
          · simp at success
          · simp only [Except.ok.injEq] at success
            subst next
            exact bound child

theorem guardNull_pendingPage (chain : Chain) (type : TypeRef) :
    (chain.guardNull type).pendingPage = chain.pendingPage := by
  unfold Chain.guardNull
  split <;> rfl

theorem advance_pendingPage {chain next : Chain} {object : ObjectPosition}
    {field : FieldDefinition} {selected : SelectedField}
    (success : advance chain object field selected = .ok next) :
    next.pendingPage = chain.pendingPage := by
  unfold advance at success
  cases child : selected.child with
  | none =>
      simp only [child, Except.ok.injEq] at success
      subst next
      rfl
  | some set =>
      simp only [child] at success
      cases element : field.type.element? with
      | none =>
          simp only [element, Except.ok.injEq] at success
          subst next
          exact guardNull_pendingPage _ _
      | some element =>
          simp only [*] at success
          split at success
          · simp at success
          · simp only [Except.ok.injEq] at success
            subst next
            simp only [Chain.mapList, guardNull_pendingPage]
            exact guardNull_pendingPage _ _

theorem selectableObject_spec {frames : List Frame} {chain : Chain}
    {name : String} {object : ObjectPosition}
    (success :
      selectableObject (chain.under frames) name before = .ok (object, after)) :
    chain.position = .object object ∧ chain.list = none ∧ after = before := by
  unfold selectableObject at success
  cases position : chain.position with
  | value program isList => simp [Chain.under, position] at success
  | dictionary entry => simp [Chain.under, position] at success
  | object place =>
      cases list : chain.list with
      | some index => simp [Chain.under, position, list] at success
      | none =>
          simp only [Chain.under, position, list, Option.map_none,
            pure_eq_ok] at success
          obtain ⟨rfl, rfl⟩ := success
          exact ⟨rfl, rfl, rfl⟩

theorem argument?_name {field : FieldDefinition} {name : String}
    {definition : ArgumentDefinition}
    (found : field.argument? name = some definition) :
    definition.name = name := by
  have matched := List.find?_some found
  exact eq_of_beq matched

theorem initialCursor_sameState {field : FieldDefinition}
    {value : ArgumentValue} {cursor : Option String}
    (success : initialCursor field value before = .ok (cursor, after)) :
    before = after := by
  cases value with
  | variableRef name => simp [initialCursor] at success
  | literal literal => simpa [initialCursor] using (pure_eq_ok.mp success).2
  | enumeration name => simpa [initialCursor] using (pure_eq_ok.mp success).2
  | list items => simpa [initialCursor] using (pure_eq_ok.mp success).2
  | object fields => simpa [initialCursor] using (pure_eq_ok.mp success).2
  | omitted => simpa [initialCursor] using (pure_eq_ok.mp success).2

/-- Passing arguments declares variables alone.  Without pagination all of the
arguments are written that are not omitted. -/
theorem passArguments_spec {field : FieldDefinition} {paginate : Bool}
    {arguments written : List Argument} {cursor found : Option String}
    (success : passArguments field paginate arguments cursor before =
      .ok ((written, found), after)) :
    before.SameDocument after ∧
      (paginate = false → written = Argument.written arguments) := by
  induction arguments generalizing before cursor written with
  | nil =>
      simp only [passArguments, pure_eq_ok, Prod.mk.injEq] at success
      obtain ⟨⟨rfl, _⟩, rfl⟩ := success
      exact ⟨CompileState.SameDocument.refl before, fun _ => rfl⟩
  | cons argument arguments induction =>
      obtain ⟨name, value⟩ := argument
      unfold passArguments at success
      cases known : field.argument? name with
      | none => simp [known] at success
      | some definition =>
          simp only [known] at success
          by_cases omitted : value.isOmitted = true
          · simp only [omitted, if_true] at success
            obtain ⟨same, exact'⟩ := induction success
            refine ⟨same, fun plain => ?_⟩
            rw [exact' plain]
            simp [Argument.written, omitted]
          · by_cases replaced : (paginate && definition.name == "after") = true
            · simp only [omitted, replaced, if_true, if_false, bind_eq_ok,
                Bool.false_eq_true] at success
              obtain ⟨start, middle, first, rest⟩ := success
              have same := initialCursor_sameState first
              subst middle
              refine ⟨(induction rest).1, fun plain => ?_⟩
              simp [plain] at replaced
            · simp only [omitted, replaced, if_false, bind_eq_ok, pure_eq_ok,
                Bool.false_eq_true] at success
              obtain ⟨_, middle, declared, ⟨others, last⟩, _, rest, same,
                rfl⟩ := success
              obtain ⟨rfl, rfl⟩ := Prod.mk.inj same
              obtain ⟨sameRest, exact'⟩ := induction rest
              refine ⟨(declareAll_sameDocument declared).trans sameRest,
                fun plain => ?_⟩
              rw [exact' plain, argument?_name known]
              simp [Argument.written, omitted]

theorem preparePage_spec {chain : Chain} {field : FieldDefinition}
    {cursor : Option String} {argument : Argument} {page : PendingPage}
    (success :
      preparePage chain field cursor before = .ok ((argument, page), after)) :
    before.SameDocument after ∧ field.isConnection = true ∧
      chain.repeated = false ∧
      argument = ⟨"after", .variableRef page.variableName⟩ ∧
        page.variableName =
          CompileState.cursorName before.subqueries.length := by
  unfold preparePage at success
  cases connection : field.isConnection with
  | false => simp [connection] at success
  | true =>
      cases repeated : chain.repeated with
      | true => simp [connection, repeated] at success
      | false =>
          simp only [connection, repeated, Bool.not_true, Bool.false_eq_true,
            if_false, bind_eq_ok, get_eq_ok, pure_eq_ok] at success
          obtain ⟨_, _, ⟨rfl, rfl⟩, _, _, declared, same, rfl⟩ := success
          obtain ⟨rfl, rfl⟩ := Prod.mk.inj same
          exact ⟨declare_sameDocument declared, rfl, rfl, rfl, rfl⟩

/-- A selected field is where the next step goes on. -/
theorem selectField_arrives {frames : List Frame} {chain last : Chain}
    {field : FieldDefinition} {arguments : List Argument} {paginate : Bool}
    (formed : before.WellFormed named) (nameOf : named field.name)
    (within : chain.position.Within before.selections)
    (noPage : chain.pendingPage = none)
    (success :
      selectField (chain.under frames) field arguments paginate before =
        .ok (last, after)) :
    ∃ own : Chain, last = own.under frames ∧
      Arrives named before after paginate
        (fun document next =>
          SelectsField document chain field arguments paginate next)
        own := by
  simp only [selectField, bind_eq_ok] at success
  obtain ⟨object, _, selectable, ⟨written, cursor⟩, passed, passing, success⟩ :=
    success
  obtain ⟨atObject, noList, rfl⟩ := selectableObject_spec selectable
  obtain ⟨samePassed, allWritten⟩ := passArguments_spec passing
  have bound : object.set < passed.selections.sets.length := by
    rw [atObject] at within
    rw [samePassed.1]
    exact within
  have formedPassed := samePassed.wellFormed formed
  cases paginate with
  | false =>
      simp only [Bool.false_eq_true, if_false, bind_eq_ok,
        liftM_eq_ok] at success
      obtain ⟨selected, _, selecting, advancing, rfl⟩ := success
      obtain ⟨formedAfter, grows, sameSubqueries, holds⟩ :=
        selectIn_spec formedPassed bound nameOf selecting
      obtain ⟨own, advanced, rfl⟩ := advance_of_under advancing
      refine ⟨own, rfl, formedAfter, samePassed.grows.trans grows, ?_, ?_, ?_⟩
      · exact advance_within (holds.child_lt formedAfter.selections) advanced
      · exact Chain.pends_of_none ((advance_pendingPage advanced).trans noPage)
      · intro document later
        rw [allWritten rfl] at holds
        exact .plain atObject noList (holds.grow later.selections) advanced
  | true =>
      simp only [if_true, bind_eq_ok, liftM_eq_ok] at success
      obtain ⟨⟨argument, page⟩, prepared, preparing, selected, _, selecting,
        advancing, rfl⟩ := success
      obtain ⟨samePrepared, connection, once, rfl, cursorOf⟩ :=
        preparePage_spec preparing
      have boundPrepared : object.set < prepared.selections.sets.length := by
        rw [samePrepared.1]
        exact bound
      obtain ⟨formedAfter, grows, sameSubqueries, holds⟩ :=
        selectIn_spec (samePrepared.wellFormed formedPassed) boundPrepared
          nameOf selecting
      have pending :
          ({ chain.under frames with pendingPage := some page } : Chain) =
            ({ chain with pendingPage := some page } : Chain).under frames :=
              rfl
      rw [pending] at advancing
      obtain ⟨own, advanced, rfl⟩ := advance_of_under advancing
      refine ⟨own, rfl, formedAfter,
        (samePassed.trans samePrepared).grows.trans grows, ?_, ?_, ?_⟩
      · exact advance_within (holds.child_lt formedAfter.selections) advanced
      · intro waiting found
        rw [advance_pendingPage advanced] at found
        obtain rfl := Option.some.inj found
        rw [sameSubqueries, samePrepared.2.1]
        exact ⟨rfl, cursorOf⟩
      · intro document later
        exact .paged atObject noList once connection
          (holds.grow later.selections) advanced

/-! ### Pages -/

/-- The names of the fields that describe the page of a connection. -/
structure PageNames (named : String → Prop) : Prop where
  pageInfo : named pageInfoField.name
  hasNextPage : named hasNextPageField.name
  endCursor : named endCursorField.name

theorem selectPageInfo_spec {connection : ObjectPosition}
    {keys : String × String × String}
    (formed : before.WellFormed named) (names : PageNames named)
    (bound : connection.set < before.selections.sets.length)
    (success : selectPageInfo connection before = .ok (keys, after)) :
    after.WellFormed named ∧ before.Grows after ∧
      after.subqueries = before.subqueries ∧
      ∃ pageInfo hasNextPage endCursor info,
        keys = (pageInfo.key, hasNextPage.key, endCursor.key) ∧
          after.selections.Holds connection.set pageInfoField [] pageInfo ∧
            pageInfo.child = some info ∧
              after.selections.Holds info hasNextPageField [] hasNextPage ∧
                after.selections.Holds info endCursorField [] endCursor := by
  simp only [selectPageInfo, bind_eq_ok] at success
  obtain ⟨pageInfo, first, selectingInfo, success⟩ := success
  obtain ⟨formedFirst, growsFirst, sameFirst, holdsInfo⟩ :=
    selectIn_spec formed bound names.pageInfo selectingInfo
  cases child : pageInfo.child with
  | none => simp [child] at success
  | some info =>
      simp only [child, bind_eq_ok, pure_eq_ok] at success
      obtain ⟨hasNextPage, second, selectingNext, endCursor, _, selectingCursor,
        rfl, rfl⟩ := success
      have boundFirst := holdsInfo.child_lt formedFirst.selections child
      obtain ⟨formedSecond, growsSecond, sameSecond, holdsNext⟩ :=
        selectIn_spec formedFirst boundFirst names.hasNextPage selectingNext
      have boundSecond :=
        Nat.lt_of_lt_of_le boundFirst growsSecond.selections.sets
      obtain ⟨formedAfter, growsThird, sameThird, holdsCursor⟩ :=
        selectIn_spec formedSecond boundSecond names.endCursor selectingCursor
      refine ⟨formedAfter, (growsFirst.trans growsSecond).trans growsThird, ?_,
        pageInfo, hasNextPage, endCursor, info, rfl, ?_, child, ?_, holdsCursor⟩
      · rw [sameThird, sameSecond, sameFirst]
      · exact holdsInfo.grow (growsSecond.trans growsThird).selections
      · exact holdsNext.grow growsThird.selections

theorem lookup_grow {document : CompileState} {id : SubqueryId}
    {subquery : Subquery}
    (later : after.Grows document)
    (found : after.subqueries[id]? = some subquery) :
    document.subqueries[id]? = some subquery := by
  obtain ⟨added, extended⟩ := later.subqueries
  have bound : id < after.subqueries.length :=
    (List.getElem?_eq_some_iff.mp found).1
  rw [← extended, List.getElem?_append_left bound]
  exact found

theorem selectAllPages_arrives {frames : List Frame} {chain last : Chain}
    {nodes : FieldDefinition} (paginate : Bool)
    (formed : before.WellFormed named) (names : PageNames named)
    (nameOf : named nodes.name)
    (within : chain.position.Within before.selections)
    (pends : chain.Pends true before)
    (success :
      selectAllPages (chain.under frames) nodes before = .ok (last, after)) :
    ∃ own : Chain, last = own.under frames ∧
      Arrives named before after paginate
        (fun document next => SelectsPages document chain nodes next) own := by
  unfold selectAllPages at success
  have samePage : (chain.under frames).pendingPage = chain.pendingPage := rfl
  have samePosition : (chain.under frames).position = chain.position := rfl
  rw [samePage, samePosition] at success
  cases pending : chain.pendingPage with
  | none => simp [pending] at success
  | some page =>
      cases position : chain.position with
      | value program isList => simp [pending, position] at success
      | dictionary entry => simp [pending, position] at success
      | object connection =>
          simp only [pending, position] at success
          cases known : nodeType? nodes with
          | none => simp [known] at success
          | some element =>
              simp only [known, bind_eq_ok] at success
              obtain ⟨keys, first, selectingInfo, selected, second, selecting,
                success⟩ := success
              rw [position] at within
              obtain ⟨formedFirst, growsFirst, sameFirst, pageInfo, hasNextPage,
                endCursor, info, rfl, holdsInfo, below, holdsNext,
                holdsCursor⟩ :=
                  selectPageInfo_spec formed names within selectingInfo
              obtain ⟨formedSecond, growsSecond, sameSecond, holdsNodes⟩ :=
                selectIn_spec formedFirst
                  (Nat.lt_of_lt_of_le within growsFirst.selections.sets) nameOf
                    selecting
              cases child : selected.child with
              | none => simp [child] at success
              | some set =>
                  simp only [child, bind_eq_ok, pure_eq_ok] at success
                  obtain ⟨id, _, pushing, rfl, rfl⟩ := success
                  have cursorOf : page.variableName =
                      CompileState.cursorName second.subqueries.length := by
                    rw [sameSecond, sameFirst]
                    exact (pends page pending).2
                  obtain ⟨formedAfter, growsThird, recorded⟩ :=
                    pushSubquery_spec formedSecond cursorOf pushing
                  have growsInfo := growsSecond.trans growsThird
                  have holdsLater := holdsNodes.grow growsThird.selections
                  refine ⟨chain.throughPages id
                    ⟨selected.key, pageInfo.key, hasNextPage.key, endCursor.key⟩
                    { set
                      type := element
                      absentOk := connection.absentOk || element.isNullable
                      name :=
                        nodes.name }, ?_, formedAfter,
                        growsFirst.trans growsInfo,
                    holdsLater.child_lt formedAfter.selections child,
                    Chain.pends_of_none (guardNull_pendingPage _ _), ?_⟩
                  · rw [← Chain.throughPages_under, ← position]
                    rfl
                  · intro document later
                    have growsDocument := growsInfo.trans later
                    exact .mk pending position known
                      (holdsInfo.grow growsDocument.selections) below
                      (holdsNext.grow growsDocument.selections)
                      (holdsCursor.grow growsDocument.selections)
                      (holdsNodes.grow (growsThird.trans later).selections)
                        child
                      (lookup_grow later recorded)

/-! ### Narrowing and ending -/

theorem narrowableObject_spec {chain : Chain} {reducer : String}
    {object : ObjectPosition}
    (success : narrowableObject chain reducer before = .ok (object, after)) :
    chain.position = .object object ∧ object.type.kind.isPolymorphic = true ∧
      after = before := by
  unfold narrowableObject at success
  cases position : chain.position with
  | value program isList => simp [position] at success
  | dictionary entry => simp [position] at success
  | object place =>
      simp only [position] at success
      by_cases polymorphic : place.type.kind.isPolymorphic = true
      · simp only [polymorphic, if_true, pure_eq_ok] at success
        obtain ⟨rfl, rfl⟩ := success
        exact ⟨rfl, polymorphic, rfl⟩
      · simp [polymorphic] at success

theorem narrow_arrives {frames : List Frame} {chain last : Chain}
    {object : ObjectPosition} {typeName : String} {mode : NarrowingMode}
    (paginate : Bool) (formed : before.WellFormed named)
    (atObject : chain.position = .object object)
    (polymorphic : object.type.kind.isPolymorphic = true)
    (within : chain.position.Within before.selections)
    (noPage : chain.pendingPage = none)
    (absentOk : mode = .filter → chain.list = none → object.absentOk = true)
    (success :
      narrow ((chain.counted mode).under frames) object typeName mode before =
        .ok (last, after)) :
    ∃ own : Chain, last = own.under frames ∧
      Arrives named before after paginate
        (fun document next => Narrows document chain typeName mode next)
          own := by
  simp only [narrow, bind_eq_ok, pure_eq_ok] at success
  obtain ⟨set, _, narrowing, rfl, rfl⟩ := success
  rw [atObject] at within
  obtain ⟨formedAfter, grows, sameSubqueries, found, required⟩ :=
    fragmentIn_spec formed within narrowing
  have samePage : (chain.counted mode).pendingPage = chain.pendingPage := by
    unfold Chain.counted
    split <;> rfl
  refine ⟨chain.narrowedTo object typeName mode set, ?_, formedAfter, grows,
    Selections.fragment_lt formedAfter.selections found,
    Chain.pends_of_none (samePage.trans noPage), ?_⟩
  · rw [Chain.push_under]
    rfl
  · intro document later
    exact .mk atObject polymorphic absentOk (later.selections.fragments found)
      (later.selections.typename required)

/-- A cast narrows to the objects of one type. -/
theorem castTo_narrows {frames : List Frame} {chain last : Chain}
    {typeName : String}
    (success :
      castTo (chain.under frames) typeName before = .ok (last, after)) :
    ∃ object,
      chain.position = .object object ∧ object.type.kind.isPolymorphic = true ∧
      narrow ((chain.counted .cast).under frames) object typeName .cast before =
        .ok (last, after) := by
  simp only [castTo, bind_eq_ok] at success
  obtain ⟨object, _, narrowable, success⟩ := success
  obtain ⟨atObject, polymorphic, rfl⟩ := narrowableObject_spec narrowable
  exact ⟨object, atObject, polymorphic, success⟩

/-- A filter narrows to the objects of one type, and is counted on the list it
is in. -/
theorem filterTo_narrows {frames : List Frame} {chain last : Chain}
    {typeName : String}
    (success :
      filterTo (chain.under frames) typeName before = .ok (last, after)) :
    ∃ object,
      chain.position = .object object ∧ object.type.kind.isPolymorphic = true ∧
      (chain.list = none → object.absentOk = true) ∧
        narrow ((chain.counted .filter).under frames) object typeName .filter
          before =
          .ok (last, after) := by
  simp only [filterTo, bind_eq_ok] at success
  obtain ⟨object, _, narrowable, success⟩ := success
  obtain ⟨atObject, polymorphic, rfl⟩ := narrowableObject_spec narrowable
  refine ⟨object, atObject, polymorphic, ?_⟩
  have counted := Chain.counted_under chain frames .filter
  cases list : chain.list with
  | some index =>
      have sameChain : (chain.counted .filter).under frames =
          (chain.under frames).countFilter (frames.length + index) := by
        rw [← counted]
        simp [Chain.counted, Chain.under, list]
      simp only [Chain.under, list, Option.map_some] at success
      constructor
      · intro noList
        cases noList
      · rw [sameChain]
        simpa [Chain.under, list] using success
  | none =>
      have sameChain :
          (chain.counted .filter).under frames = chain.under frames := by
        simp [Chain.counted, list]
      by_cases absentOk : object.absentOk = true
      · refine ⟨fun _ => absentOk, ?_⟩
        rw [sameChain]
        simpa [Chain.under, list, absentOk] using success
      · simp [Chain.under, list, absentOk] at success

theorem castTo_arrives {frames : List Frame} {chain last : Chain}
    {typeName : String}
    (paginate : Bool) (formed : before.WellFormed named)
    (within : chain.position.Within before.selections)
    (noPage : chain.pendingPage = none)
    (success :
      castTo (chain.under frames) typeName before = .ok (last, after)) :
    ∃ own : Chain, last = own.under frames ∧
      Arrives named before after paginate
        (fun document next => Narrows document chain typeName .cast next)
          own := by
  obtain ⟨object, atObject, polymorphic, narrows⟩ := castTo_narrows success
  exact narrow_arrives paginate formed atObject polymorphic within noPage
    (fun filtering => by simp at filtering) narrows

theorem filterTo_arrives {frames : List Frame} {chain last : Chain}
    {typeName : String}
    (paginate : Bool) (formed : before.WellFormed named)
    (within : chain.position.Within before.selections)
    (noPage : chain.pendingPage = none)
    (success :
      filterTo (chain.under frames) typeName before = .ok (last, after)) :
    ∃ own : Chain, last = own.under frames ∧
      Arrives named before after paginate
        (fun document next => Narrows document chain typeName .filter next)
          own := by
  obtain ⟨object, atObject, polymorphic, absentOk, narrows⟩ :=
    filterTo_narrows success
  exact narrow_arrives paginate formed atObject polymorphic within noPage
    (fun _ => absentOk) narrows

theorem isSome_list_under {chain : Chain} {frames : List Frame} :
    (chain.under frames).list.isSome = true ↔ chain.list.isSome = true := by
  simp [Chain.under]

theorem isList_under (chain : Chain) (frames : List Frame) :
    (chain.under frames).isList = chain.isList := by
  simp [Chain.isList, Chain.under]

theorem endSingle_spec {chain last : Chain} {frames : List Frame}
    {reducer : String} {enforceSingle : Bool}
    (success : endSingle (chain.under frames) reducer enforceSingle before =
      .ok (last, after)) :
    chain.isList = false ∧ last = { chain with enforceSingle }.under frames ∧
      after = before := by
  unfold endSingle at success
  rw [isList_under] at success
  cases list : chain.isList with
  | true => simp [list] at success
  | false =>
      simp only [list, Bool.false_eq_true, if_false, Chain.under] at success
      cases position : chain.position with
      | object object => simp [position] at success
      | value program isList =>
          simp only [position, pure_eq_ok] at success
          obtain ⟨rfl, rfl⟩ := success
          exact ⟨rfl, by simp [Chain.under], rfl⟩
      | dictionary entry =>
          simp only [position, pure_eq_ok] at success
          obtain ⟨rfl, rfl⟩ := success
          exact ⟨rfl, by simp [Chain.under], rfl⟩

theorem endList_spec {chain last : Chain} {frames : List Frame}
    (success : endList (chain.under frames) before = .ok (last, after)) :
    chain.isList = true ∧ last = chain.under frames ∧ after = before := by
  unfold endList at success
  rw [isList_under] at success
  cases list : chain.isList with
  | false => simp [list] at success
  | true =>
      simp only [list, if_true, pure_eq_ok] at success
      exact ⟨rfl, success.1.symm, success.2.symm⟩

theorem rejoin_spec {outer inner last : Chain} {frames : List Frame}
    {depth : Nat}
    (success : rejoin (outer.under frames)
      (inner.under ((outer.under frames).frames ++ [.bind depth])) before =
        .ok (last, after)) :
    (outer.list = none ∨ inner.list = none) ∧
      last = (outer.continued depth inner).under frames ∧ after = before := by
  rw [← Chain.continued_under]
  unfold rejoin at success
  cases outerList : outer.list with
  | none =>
      simp only [Chain.under, outerList, Option.map_none, pure_eq_ok] at success
      refine ⟨Or.inl rfl, ?_, success.2.symm⟩
      rw [← success.1]
      simp [Chain.continued, Chain.under, outerList]
  | some index =>
      cases innerList : inner.list with
      | some other => simp [Chain.under, outerList, innerList] at success
      | none =>
          simp only [Chain.under, outerList, innerList, Option.map_some,
            Option.map_none, pure_eq_ok] at success
          refine ⟨Or.inr rfl, ?_, success.2.symm⟩
          rw [← success.1]
          simp [Chain.continued, Chain.under, outerList, innerList]

/-! ### Whole pipelines -/

theorem endedBy_under (chain : Chain) (frames : List Frame) (step : Step) :
    (chain.under frames).endedBy step = (chain.endedBy step).under frames := by
  unfold Chain.endedBy
  split <;> rfl

theorem position_endedBy (chain : Chain) (step : Step) :
    (chain.endedBy step).position = chain.position := by
  unfold Chain.endedBy
  split <;> rfl

theorem Arrives.endedBy {expected : Bool}
    {derives : CompileState → Chain → Prop} {chain : Chain}
    (arrives : Arrives named before after expected derives chain)
    (step : Step) :
    (chain.endedBy step).position.Within after.selections ∧
      (chain.endedBy step).Pends expected after := by
  have within := arrives.within
  have pends := arrives.pends
  unfold Chain.endedBy
  split <;> exact ⟨within, pends⟩

theorem scope_within {scopes : Scopes} {chain : Chain} {object : ObjectPosition}
    (parameter : Parameter) (bound : scopes.Within before.selections)
    (atObject : chain.position = .object object)
    (within : chain.position.Within before.selections) :
    Scopes.Within before.selections
      (chain.scope parameter object :: scopes) := by
  rw [atObject] at within
  intro scope member
  rcases List.mem_cons.mp member with rfl | outer
  · exact within
  · exact bound scope outer

end Compile

namespace Compile

variable {named : String → Prop}

mutual

/-- A pipeline that compiles walks to a chain in every later document. -/
theorem walkPipeline_arrives {before after : CompileState} {scopes : Scopes}
    {frames : List Frame} {last : Chain} (pipeline : Pipeline)
    (formed : before.WellFormed named) (names : PageNames named)
    (nameOf : pipeline.EachField fun field _ => named field.name)
    (bound : scopes.Within before.selections)
    (success : walkPipeline scopes frames pipeline before = .ok (last, after)) :
    ∃ own : Chain, last = own.under frames ∧
      Arrives named before after false
        (fun document chain => Walks document scopes pipeline chain) own := by
  cases pipeline with
  | mk source steps =>
      obtain ⟨depth, scope, resolved, walking⟩ := walkPipeline_eq_ok.mp success
      rw [Chain.start_under] at walking
      have within :
          (Chain.start [] scopes depth scope).position.Within
            before.selections := bound scope (Scopes.mem_of_resolve? resolved)
      obtain ⟨own, rfl, arrives⟩ :=
        walk_arrives steps formed names nameOf bound within
          (Chain.pends_of_none rfl) walking
      exact ⟨own, rfl, { arrives with
        derives :=
          fun document later => .mk resolved (arrives.derives document later) }⟩

theorem walk_arrives {before after : CompileState} {scopes : Scopes}
    {frames : List Frame} {chain last : Chain} (steps : List Step)
    (formed : before.WellFormed named) (names : PageNames named)
    (nameOf : Pipeline.EachFieldOfSteps (fun field _ => named field.name) steps)
    (bound : scopes.Within before.selections)
    (within : chain.position.Within before.selections)
    (pends : chain.Pends (steps.head?.any Step.isAllPages) before)
    (success :
      walk scopes steps (chain.under frames) before = .ok (last, after)) :
    ∃ own : Chain, last = own.under frames ∧
      Arrives named before after false
        (fun document next => WalksSteps document scopes steps chain next)
          own := by
  cases steps with
  | nil =>
      simp only [walk, pure_eq_ok] at success
      obtain ⟨rfl, rfl⟩ := success
      exact ⟨chain, rfl, formed, CompileState.Grows.refl before, within, pends,
        fun _ _ => .nil⟩
  | cons step rest =>
      obtain ⟨terminal, _, middle, first, others⟩ := walk_cons_eq_ok.mp success
      obtain ⟨next, rfl, arrives⟩ :=
        walkStep_arrives step formed names nameOf.1 bound within pends first
      rw [endedBy_under] at others
      obtain ⟨withinNext, pendsNext⟩ := arrives.endedBy step
      obtain ⟨own, rfl, arrivesLast⟩ :=
        walk_arrives rest arrives.formed names nameOf.2
          (bound.grow arrives.grows.selections) withinNext pendsNext others
      refine ⟨own, rfl, arrivesLast.formed,
        arrives.grows.trans arrivesLast.grows, arrivesLast.within,
        arrivesLast.pends, fun document later => ?_⟩
      exact .cons terminal
        (arrives.derives document (arrivesLast.grows.trans later))
        (arrivesLast.derives document later)

theorem walkStep_arrives {before after : CompileState} {scopes : Scopes}
    {frames : List Frame} {chain last : Chain} {paginate : Bool} (step : Step)
    (formed : before.WellFormed named)
    (names : PageNames named)
    (nameOf : Pipeline.EachFieldOfStep (fun field _ => named field.name) step)
    (bound : scopes.Within before.selections)
    (within : chain.position.Within before.selections)
    (pends : chain.Pends step.isAllPages before)
    (success : walkStep scopes step paginate (chain.under frames) before =
      .ok (last, after)) :
    ∃ own : Chain, last = own.under frames ∧
      Arrives named before after paginate
        (fun document next =>
          WalksStep document scopes step paginate chain next) own := by
  cases step with
  | property field =>
      obtain ⟨own, rfl, arrives⟩ :=
        selectField_arrives formed nameOf within pends.none success
      exact ⟨own, rfl, { arrives with
        derives :=
          fun document later => .property (arrives.derives document later) }⟩
  | call field arguments =>
      obtain ⟨own, rfl, arrives⟩ :=
        selectField_arrives formed nameOf within pends.none success
      exact ⟨own, rfl, { arrives with
        derives :=
          fun document later => .call (arrives.derives document later) }⟩
  | allPages nodes =>
      obtain ⟨own, rfl, arrives⟩ :=
        selectAllPages_arrives paginate formed names nameOf within pends success
      exact ⟨own, rfl, { arrives with
        derives :=
          fun document later => .allPages (arrives.derives document later) }⟩
  | cast typeName =>
      obtain ⟨own, rfl, arrives⟩ :=
        castTo_arrives paginate formed within pends.none success
      exact ⟨own, rfl, { arrives with
        derives :=
          fun document later => .cast (arrives.derives document later) }⟩
  | filter typeName =>
      obtain ⟨own, rfl, arrives⟩ :=
        filterTo_arrives paginate formed within pends.none success
      exact ⟨own, rfl, { arrives with
        derives :=
          fun document later => .filter (arrives.derives document later) }⟩
  | single =>
      obtain ⟨noList, rfl, rfl⟩ := endSingle_spec success
      exact ⟨_, rfl, formed, CompileState.Grows.refl _, within,
        Chain.pends_of_none pends.none, fun _ _ => .single noList⟩
  | singleOrDefault =>
      obtain ⟨noList, rfl, rfl⟩ := endSingle_spec success
      exact ⟨_, rfl, formed, CompileState.Grows.refl _, within,
        Chain.pends_of_none pends.none, fun _ _ => .singleOrDefault noList⟩
  | toList =>
      obtain ⟨isList, rfl, rfl⟩ := endList_spec success
      exact ⟨_, rfl, formed, CompileState.Grows.refl _, within,
        Chain.pends_of_none pends.none, fun _ _ => .toList isList⟩
  | record parameter fields =>
      obtain ⟨object, programs, atObject, compiling, rfl⟩ :=
        walkStep_record_eq_ok.mp success
      obtain ⟨formedAfter, grows, derives⟩ :=
        compileFields_arrives fields formed names nameOf
          (scope_within parameter bound atObject within) compiling
      exact ⟨{ chain with
          position := .value
            ((Program.buildRecord programs).bindIfRead scopes.length) false },
        rfl, formedAfter, grows, trivial, Chain.pends_of_none pends.none,
        fun document later => .record atObject (derives document later)⟩
  | value parameter inner =>
      cases ended : inner.endsTerminal with
      | true =>
          obtain ⟨object, program, atObject, compiling, rfl⟩ :=
            (walkStep_valueEnded_eq_ok ended).mp success
          have inside := scope_within parameter bound atObject within
          obtain ⟨_, walking, finished⟩ := pipeline_eq_ok.mp compiling
          obtain ⟨own, rfl, arrives⟩ :=
            walkPipeline_arrives inner formed names nameOf inside walking
          rw [Chain.under_nil] at finished
          exact ⟨{ chain with
              position := .value (program.bindIfRead scopes.length) false },
            rfl, arrives.formed, arrives.grows, trivial,
            Chain.pends_of_none pends.none, fun document later =>
              .valueEnded atObject ended (arrives.derives document later)
                finished⟩
      | false =>
          obtain ⟨object, _, middle, atObject, walking, rejoining⟩ :=
            (walkStep_valueContinued_eq_ok ended).mp success
          have inside := scope_within parameter bound atObject within
          obtain ⟨own, rfl, arrives⟩ :=
            walkPipeline_arrives inner formed names nameOf inside walking
          obtain ⟨oneList, rfl, rfl⟩ := rejoin_spec rejoining
          exact ⟨_, rfl, arrives.formed, arrives.grows, arrives.within,
            Chain.pends_of_none arrives.pends.none, fun document later =>
              .valueContinued atObject ended (arrives.derives document later)
                oneList⟩
  | toDictionary parameter key value =>
      obtain ⟨object, keyProgram, valueProgram, middle, isList, atObject, keyed,
        valued, rfl⟩ := walkStep_toDictionary_eq_ok.mp success
      obtain ⟨index, list⟩ :=
        Option.isSome_iff_exists.mp (isSome_list_under.mp isList)
      have inside := scope_within parameter bound atObject within
      obtain ⟨_, walkingKey, finishedKey⟩ := pipeline_eq_ok.mp keyed
      obtain ⟨_, walkingValue, finishedValue⟩ := pipeline_eq_ok.mp valued
      obtain ⟨keyChain, rfl, arrivesKey⟩ :=
        walkPipeline_arrives key formed names nameOf.1 inside walkingKey
      obtain ⟨valueChain, rfl, arrivesValue⟩ :=
        walkPipeline_arrives value arrivesKey.formed names nameOf.2
          (inside.grow arrivesKey.grows.selections) walkingValue
      rw [Chain.under_nil] at finishedKey finishedValue
      exact ⟨{ chain with
          position := .dictionary
            ((Program.keyValue keyProgram valueProgram).bindIfRead
              scopes.length) },
        rfl, arrivesValue.formed, arrivesKey.grows.trans arrivesValue.grows,
        trivial,
        Chain.pends_of_none pends.none, fun document later =>
          .toDictionary list atObject
            (arrivesKey.derives document (arrivesValue.grows.trans later))
              finishedKey
            (arrivesValue.derives document later) finishedValue⟩

theorem compileFields_arrives {before after : CompileState} {scopes : Scopes}
    {programs : List (String × Program)}
    (fields : List (String × Pipeline)) (formed : before.WellFormed named)
    (names : PageNames named)
    (nameOf :
      Pipeline.EachFieldOfRecord (fun field _ => named field.name) fields)
    (bound : scopes.Within before.selections)
    (success : compileFields scopes fields before = .ok (programs, after)) :
    after.WellFormed named ∧ before.Grows after ∧
      ∀ document,
        after.Grows document → WalksFields document scopes fields programs := by
  cases fields with
  | nil =>
      simp only [compileFields, pure_eq_ok] at success
      obtain ⟨rfl, rfl⟩ := success
      exact ⟨formed, CompileState.Grows.refl _, fun _ _ => .nil⟩
  | cons field fields =>
      obtain ⟨key, pipeline⟩ := field
      obtain ⟨program, others, middle, first, compiling, rfl⟩ :=
        compileFields_cons_eq_ok.mp success
      obtain ⟨_, walking, finished⟩ := pipeline_eq_ok.mp first
      obtain ⟨own, rfl, arrives⟩ :=
        walkPipeline_arrives pipeline formed names nameOf.1 bound walking
      rw [Chain.under_nil] at finished
      obtain ⟨formedAfter, grows, derives⟩ :=
        compileFields_arrives fields arrives.formed names nameOf.2
          (bound.grow arrives.grows.selections) compiling
      exact ⟨formedAfter, arrives.grows.trans grows, fun document later =>
        .cons (arrives.derives document (grows.trans later)) finished
          (derives document later)⟩

end

/-- A pipeline of its own leaves a well-formed document behind. -/
theorem pipeline_arrives {before after : CompileState} {scopes : Scopes}
    {pipeline : Pipeline} {program : Program} (formed : before.WellFormed named)
    (names : PageNames named)
    (nameOf : pipeline.EachField fun field _ => named field.name)
    (bound : scopes.Within before.selections)
    (success : Compile.pipeline scopes pipeline before = .ok (program, after)) :
    after.WellFormed named ∧ before.Grows after := by
  obtain ⟨_, walking, _⟩ := pipeline_eq_ok.mp success
  obtain ⟨_, _, arrives⟩ :=
    walkPipeline_arrives pipeline formed names nameOf bound walking
  exact ⟨arrives.formed, arrives.grows⟩

/-- The root object is in the arena from the start. -/
theorem rootScope_within (kind : OperationKind) :
    Scopes.Within CompileState.initial.selections [rootScope kind] := by
  intro scope member
  obtain rfl := List.mem_singleton.mp member
  exact Nat.zero_lt_one

/-- What a successful compilation leaves: its document holds everything that was
selected, and the program comes out of a walk in that document. -/
structure Outcome (named : String → Prop) (pipeline : Pipeline)
    (compiled : CompiledOperation) (kind : OperationKind)
    (document : CompileState) :
    Prop where
  rooted : pipeline.operationKind? = some kind
  operation : compiled.operation = document.operation kind
  subqueries : compiled.subqueries = document.subqueries
  typed :
    pipeline.typedDocument? = some (document.selections.typed Selections.rootId)
  formed : document.WellFormed named
  walks : ∃ chain, Walks document [rootScope kind] pipeline chain ∧
    chain.finish = .ok compiled.program

theorem outcome_of_compile {pipeline : Pipeline} {compiled : CompiledOperation}
    (names : PageNames named)
    (nameOf : pipeline.EachField fun field _ => named field.name)
    (success : compile pipeline = .ok compiled) :
    ∃ kind document, Outcome named pipeline compiled kind document := by
  obtain ⟨kind, program, document, sameKind, compiling, rfl, found⟩ :=
    compile_eq_ok success
  obtain ⟨last, walking, finished⟩ := pipeline_eq_ok.mp compiling
  obtain ⟨own, rfl, arrives⟩ := walkPipeline_arrives pipeline
    (CompileState.initial_wellFormed named) names nameOf (rootScope_within _)
      walking
  rw [Chain.under_nil] at finished
  refine ⟨kind, _, sameKind, rfl, rfl, ?_, arrives.formed, own,
    arrives.derives _ (CompileState.Grows.refl _), finished⟩
  simp [Pipeline.typedDocument?, found]

end Compile

end GraphPipeline
