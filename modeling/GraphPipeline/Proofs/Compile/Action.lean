import GraphPipeline.Proofs.TypedDocument

/-!
# Parts of a compilation

Inversion of the actions a compilation is made of: what a successful action has
returned, and how it has changed the document under construction.  A document
only ever grows, and the cursor variables of its connections are numbered.
-/

namespace GraphPipeline

namespace CompileState

/-- What a state of a compilation holds is held by a later one. -/
structure Grows (before after : CompileState) : Prop where
  selections : before.selections.Grows after.selections
  variableTypes : before.variableTypes <+: after.variableTypes
  subqueries : before.subqueries <+: after.subqueries

theorem Grows.refl (state : CompileState) : Grows state state :=
  ⟨Selections.Grows.refl _, List.prefix_rfl, List.prefix_rfl⟩

theorem Grows.trans {first second third : CompileState}
    (early : Grows first second) (late : Grows second third) :
    Grows first third :=
  ⟨early.selections.trans late.selections,
   early.variableTypes.trans late.variableTypes,
   early.subqueries.trans late.subqueries⟩

/-- The variable for the cursor of the connection with a number. -/
def cursorName (id : SubqueryId) : String :=
  "cursor" ++ toString id

theorem cursorName_injective {first second : SubqueryId}
    (same : cursorName first = cursorName second) : first = second := by
  have digits : (first : Nat).repr = (second : Nat).repr :=
    (String.append_right_inj "cursor").mp same
  exact Nat.repr_injective digits

structure WellFormed (named : String → Prop) (state : CompileState) : Prop where
  selections : state.selections.WellFormed named
  numbered : ∀ {id subquery}, state.subqueries[id]? = some subquery →
    subquery.id = id ∧ subquery.variableName = cursorName id

theorem initial_wellFormed (named : String → Prop) :
    WellFormed named initial := by
  constructor
  · exact Selections.initial_wellFormed named
  · intro id subquery found
    simp [initial] at found

/-- Two states hold the same selections and connections. -/
def SameDocument (before after : CompileState) : Prop :=
  after.selections = before.selections ∧ after.subqueries = before.subqueries ∧
    before.variableTypes <+: after.variableTypes

theorem SameDocument.refl (state : CompileState) : SameDocument state state :=
  ⟨rfl, rfl, List.prefix_rfl⟩

theorem SameDocument.trans {first second third : CompileState}
    (early : SameDocument first second) (late : SameDocument second third) :
    SameDocument first third :=
  ⟨late.1.trans early.1, late.2.1.trans early.2.1, early.2.2.trans late.2.2⟩

theorem SameDocument.grows {before after : CompileState}
    (same : SameDocument before after) : Grows before after := by
  obtain ⟨sameSelections, sameSubqueries, longer⟩ := same
  refine ⟨?_, longer, ?_⟩
  · rw [sameSelections]
    exact Selections.Grows.refl _
  · rw [sameSubqueries]

theorem SameDocument.wellFormed {named : String → Prop}
    {before after : CompileState}
    (same : SameDocument before after) (formed : WellFormed named before) :
    WellFormed named after := by
  obtain ⟨sameSelections, sameSubqueries, _⟩ := same
  constructor
  · rw [sameSelections]
    exact formed.selections
  · intro id subquery found
    rw [sameSubqueries] at found
    exact formed.numbered found

end CompileState

theorem except_bind_eq_ok {ε α β : Type} {action : Except ε α}
    {next : α → Except ε β} {value : β} :
    (action >>= next) = .ok value ↔
      ∃ middle, action = .ok middle ∧ next middle = .ok value := by
  cases action with
  | error error => simp [bind, Except.bind]
  | ok middle => simp [bind, Except.bind]

namespace Compile

variable {α β : Type} {state after : CompileState}

@[simp] theorem pure_eq_ok {value result : α} :
    (pure value : Compile α) state = .ok (result, after) ↔
      value = result ∧ state = after := by
  simp [pure, StateT.pure, Except.pure]

@[simp] theorem bind_eq_ok {action : Compile α} {next : α → Compile β}
    {result : β} :
    (action >>= next) state = .ok (result, after) ↔
      ∃ value middle, action state = .ok (value, middle) ∧
        next value middle = .ok (result, after) := by
  change (action state >>= fun pair => next pair.1 pair.2) = _ ↔ _
  rw [except_bind_eq_ok, Prod.exists]

@[simp] theorem throw_eq_ok {error : CompileError} {result : α} :
    (throw error : Compile α) state = .ok (result, after) ↔ False := by
  simp [throw, throwThe, MonadExceptOf.throw, StateT.lift, bind, Except.bind]

@[simp] theorem get_eq_ok {result : CompileState} :
    (get : Compile CompileState) state = .ok (result, after) ↔
      state = result ∧ state = after := by
  simp [get, getThe, MonadStateOf.get, StateT.get, pure, Except.pure]

@[simp] theorem set_eq_ok {new : CompileState} {result : PUnit} :
    (MonadStateOf.set new : Compile PUnit) state = .ok (result, after) ↔
      new = after := by
  simp [MonadStateOf.set, StateT.set, pure, Except.pure]

@[simp] theorem liftM_eq_ok {action : Except CompileError α} {result : α} :
    (liftM action : Compile α) state = .ok (result, after) ↔
      action = .ok result ∧ state = after := by
  cases action with
  | error error =>
      simp [liftM, monadLift, MonadLift.monadLift, StateT.lift, bind,
        Except.bind]
  | ok value =>
      simp [liftM, monadLift, MonadLift.monadLift, StateT.lift, bind,
        Except.bind,
        pure, Except.pure]

theorem declare_sameDocument {name : String} {type : TypeRef} {result : Unit}
    (success : declare name type state = .ok (result, after)) :
    state.SameDocument after := by
  simp only [declare, bind_eq_ok, get_eq_ok] at success
  obtain ⟨_, _, ⟨rfl, rfl⟩, success⟩ := success
  cases known : Entries.lookup? state.variableTypes name with
  | some declared =>
      simp only [known] at success
      by_cases sameText : declared.render = type.render
      · simp only [sameText, if_true, pure_eq_ok] at success
        rw [← success.2]
        exact CompileState.SameDocument.refl state
      · simp [sameText] at success
  | none =>
      simp only [known] at success
      have changed : { state with
          variableTypes := state.variableTypes ++ [(name, type)] } = after :=
        set_eq_ok.mp success
      rw [← changed]
      exact ⟨rfl, rfl, List.prefix_append _ _⟩

theorem declareAll_sameDocument {uses : List (String × TypeRef)} {result : Unit}
    (success : declareAll uses state = .ok (result, after)) :
    state.SameDocument after := by
  induction uses generalizing state with
  | nil =>
      simp only [declareAll, pure_eq_ok] at success
      rw [← success.2]
      exact CompileState.SameDocument.refl state
  | cons use uses induction =>
      obtain ⟨name, type⟩ := use
      simp only [declareAll, bind_eq_ok] at success
      obtain ⟨_, middle, first, rest⟩ := success
      exact (declare_sameDocument first).trans (induction rest)

theorem selectIn_eq_ok {set : SetId} {definition : FieldDefinition}
    {arguments : List Argument} {selected : SelectedField}
    (success :
      selectIn set definition arguments state = .ok (selected, after)) :
    ∃ selections, state.selections.field set definition arguments =
        .ok (selected, selections) ∧ after = { state with selections } := by
  simp only [selectIn, bind_eq_ok, get_eq_ok] at success
  obtain ⟨_, _, ⟨rfl, rfl⟩, success⟩ := success
  cases result : state.selections.field set definition arguments with
  | error conflict => simp [result] at success
  | ok pair =>
      simp only [result, bind_eq_ok, set_eq_ok, pure_eq_ok] at success
      obtain ⟨_, _, rfl, rfl, rfl⟩ := success
      exact ⟨_, rfl, rfl⟩

theorem fragmentIn_eq_ok {set id : SetId} {typeName : String}
    (success : fragmentIn set typeName state = .ok (id, after)) :
    id = (state.selections.fragment set typeName).1 ∧
      after =
        { state with
          selections := (state.selections.fragment set typeName).2 } := by
  simp only [fragmentIn, bind_eq_ok, get_eq_ok, set_eq_ok,
    pure_eq_ok] at success
  obtain ⟨_, _, ⟨rfl, rfl⟩, _, _, rfl, rfl, rfl⟩ := success
  exact ⟨rfl, rfl⟩

theorem pushSubquery_eq_ok {variableName : String}
    {initialCursor : Option String} {path : List String} {keys : PageKeys}
    {id : SubqueryId}
    (success :
      pushSubquery variableName initialCursor path keys state =
        .ok (id, after)) :
    id = state.subqueries.length ∧
      after = { state with subqueries := state.subqueries ++
        [{ id, variableName, initialCursor, path, keys }] } := by
  simp only [pushSubquery, bind_eq_ok, get_eq_ok, set_eq_ok,
    pure_eq_ok] at success
  obtain ⟨_, _, ⟨rfl, rfl⟩, _, _, rfl, rfl, rfl⟩ := success
  exact ⟨rfl, rfl⟩

theorem selectIn_spec {named : String → Prop} (formed : state.WellFormed named)
    {set : SetId} (bound : set < state.selections.sets.length)
    {definition : FieldDefinition} {arguments : List Argument}
    (nameOf : named definition.name) {selected : SelectedField}
    (success :
      selectIn set definition arguments state = .ok (selected, after)) :
    after.WellFormed named ∧ state.Grows after ∧
      after.subqueries = state.subqueries ∧
      after.selections.Holds set definition arguments selected := by
  obtain ⟨selections, result, rfl⟩ := selectIn_eq_ok success
  obtain ⟨selectionsFormed, grows, holds⟩ :=
    Selections.field_spec formed.selections bound nameOf result
  exact ⟨⟨selectionsFormed, formed.numbered⟩,
    ⟨grows, List.prefix_rfl, List.prefix_rfl⟩,
    rfl, holds⟩

theorem fragmentIn_spec {named : String → Prop}
    (formed : state.WellFormed named)
    {set : SetId} (bound : set < state.selections.sets.length)
    {typeName : String} {id : SetId}
    (success : fragmentIn set typeName state = .ok (id, after)) :
    after.WellFormed named ∧ state.Grows after ∧
      after.subqueries = state.subqueries ∧
      Entries.lookup? (after.selections.set set).fragments typeName = some id ∧
        (after.selections.set set).requiresTypename = true := by
  obtain ⟨rfl, rfl⟩ := fragmentIn_eq_ok success
  obtain ⟨selectionsFormed, grows, found, required⟩ :=
    Selections.fragment_spec formed.selections bound
      (rfl : state.selections.fragment set typeName = _)
  exact ⟨⟨selectionsFormed, formed.numbered⟩,
    ⟨grows, List.prefix_rfl, List.prefix_rfl⟩,
    rfl, found, required⟩

theorem pushSubquery_spec {named : String → Prop}
    (formed : state.WellFormed named)
    {variableName : String} (cursor : variableName =
      CompileState.cursorName state.subqueries.length)
    {initialCursor : Option String} {path : List String} {keys : PageKeys}
    {id : SubqueryId}
    (success :
      pushSubquery variableName initialCursor path keys state =
        .ok (id, after)) :
    after.WellFormed named ∧ state.Grows after ∧
      after.subqueries[id]? =
        some { id, variableName, initialCursor, path, keys } := by
  obtain ⟨rfl, rfl⟩ := pushSubquery_eq_ok success
  refine ⟨⟨formed.selections, ?_⟩, ⟨Selections.Grows.refl _, List.prefix_rfl,
    List.prefix_append _ _⟩, by simp⟩
  intro id subquery found
  rcases Nat.lt_trichotomy id state.subqueries.length with below | equal | above
  · rw [List.getElem?_append_left below] at found
    exact formed.numbered found
  · rw [equal, List.getElem?_append_right (Nat.le_refl _)] at found
    simp only [Nat.sub_self, List.getElem?_cons_zero,
      Option.some.injEq] at found
    subst found
    exact ⟨equal.symm, by rw [equal]; exact cursor⟩
  · rw [List.getElem?_append_right (Nat.le_of_lt above)] at found
    cases gap : id - state.subqueries.length with
    | zero => exact (Nat.sub_ne_zero_of_lt above gap).elim
    | succ beyond => simp [gap] at found

end Compile

end GraphPipeline
