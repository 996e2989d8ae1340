import GraphPipeline.Proofs.Evaluation.Readings
import GraphPipeline.Proofs.Evaluation.RestoredContexts

/-!
# Runs that succeed

What an action has done when it succeeds.  A run of a program leaves the
bindings as it found them, and where no filter of a list is pending it does not
reject the element at hand.
-/

namespace GraphPipeline.Evaluate

variable {α β : Type} {before after : EvaluationState}

/-- From one state, the action gives a value and leaves another state. -/
def Runs (action : Evaluate α) (before : EvaluationState) (value : α)
    (after : EvaluationState) : Prop :=
  action.result before = (.ok value, after)

@[simp] theorem runs_pure {given value : α} :
    (pure given : Evaluate α).Runs before value after ↔
      given = value ∧ before = after := by
  simp [Runs]

@[simp] theorem runs_throw {error : ExtractionError} {value : α} :
    (throw error : Evaluate α).Runs before value after ↔ False := by
  simp [Runs]

@[simp] theorem runs_failAt {error : ResponsePath → ExtractionError}
    {value : α} :
    (failAt error : Evaluate α).Runs before value after ↔ False := by
  simp [Runs]

@[simp] theorem runs_get {found : EvaluationState} :
    (get : Evaluate EvaluationState).Runs before found after ↔
      before = found ∧ before = after := by
  simp [Runs]

@[simp] theorem runs_modify {change : EvaluationState → EvaluationState}
    {done : PUnit} :
    (modify change : Evaluate PUnit).Runs before done after ↔
      change before = after := by
  simp [Runs]

@[simp] theorem runs_absent {value : Json} :
    absent.Runs before value after ↔
      .null = value ∧ before.markAbsent = after := by
  simp [Runs]

@[simp] theorem runs_atPath {compute : ResponsePath → Except ExtractionError α}
    {value : α} :
    (atPath compute).Runs before value after ↔
      compute before.path = .ok value ∧ before = after := by
  simp [Runs, result_atPath]

@[simp] theorem runs_bind {action : Evaluate α} {next : α → Evaluate β}
    {result : β} :
    (action >>= next).Runs before result after ↔
      ∃ value middle, action.Runs before value middle ∧
        (next value).Runs middle result after := by
  unfold Runs
  rw [result_bind]
  cases action.result before with
  | mk outcome middle => cases outcome <;> simp

@[simp] theorem runs_within {segment : PathSegment} {action : Evaluate α}
    {value : α} :
    (within segment action).Runs before value after ↔
      ∃ last,
        action.Runs { before with trail := segment :: before.trail } value
          last ∧
        { last with trail := last.trail.tail } = after := by
  unfold Runs
  rw [result_within]
  cases action.result { before with trail := segment :: before.trail } with
  | mk outcome last => simp

@[simp] theorem runs_binding {depth : Nat} {bound : Json} {action : Evaluate α}
    {value : α} :
    (binding depth bound action).Runs before value after ↔
      ∃ last, action.Runs (before.rebind depth (some bound)) value last ∧
        last.rebind depth (before.binding? depth) = after := by
  unfold Runs
  rw [result_binding]
  cases action.result (before.rebind depth (some bound)) with
  | mk outcome last => simp

@[simp] theorem runs_isolated {action : Evaluate α} {value : α} :
    (isolated action).Runs before value after ↔
      ∃ last, action.Runs before value last ∧
        { last with
          pendingFilters := before.pendingFilters
          rejected := before.rejected } = after := by
  unfold Runs
  rw [result_isolated]
  cases action.result before with
  | mk outcome last => simp

theorem runs_memberOf {value member : Json} {key : String} :
    (memberOf value key).Runs before member after ↔
      value.member? key = some member ∧ before = after := by
  unfold memberOf
  rw [runs_atPath]
  cases value with
  | object members =>
      simp only [Json.member?, Json.members?, Option.bind_some]
      cases Entries.lookup? members key <;> simp
  | null => simp [Json.member?, Json.members?]
  | bool value => simp [Json.member?, Json.members?]
  | number value => simp [Json.member?, Json.members?]
  | string value => simp [Json.member?, Json.members?]
  | array items => simp [Json.member?, Json.members?]

theorem runs_itemsOf {value : Json} {items : List Json} :
    (itemsOf value).Runs before items after ↔
      value = .array items ∧ before = after := by
  unfold itemsOf
  rw [runs_atPath]
  cases value <;> simp

/-- Past a filter, one filter less is pending. -/
theorem runs_narrowed_filter {typeName : String}
    {evaluate : Json → Evaluate Json} {value output : Json} :
    (narrowed typeName .filter evaluate value).Runs before output after ↔
      (value.typename? = some typeName ∧
        (evaluate value).Runs
          { before with pendingFilters := before.pendingFilters - 1 } output
            after) ∨
      ((value.isNull = true ∨
        ∃ name, value.typename? = some name ∧ name ≠ typeName) ∧
        Json.null = output ∧ before.markAbsent = after) := by
  cases absence : value.isNull with
  | true =>
      cases value with
      | null => simp [narrowed, Json.typename?, Json.member?, Json.members?]
      | _ => cases absence
  | false =>
      rw [narrowed_filter absence]
      unfold typenameOf
      rw [show (value.member? typenameKey).bind Json.text? =
          value.typename? from rfl]
      cases value.typename? with
      | none => simp
      | some name =>
          by_cases same : name = typeName
          · simp [same]
          · simp [same]

theorem runs_narrowed_cast {typeName : String} {evaluate : Json → Evaluate Json}
    {value output : Json} :
    (narrowed typeName .cast evaluate value).Runs before output after ↔
      value.typename? = some typeName ∧
        (evaluate value).Runs before output after := by
  cases absence : value.isNull with
  | true =>
      cases value with
      | null => simp [narrowed, Json.typename?, Json.member?, Json.members?]
      | _ => cases absence
  | false =>
      rw [narrowed_cast absence]
      unfold typenameOf
      rw [show (value.member? typenameKey).bind Json.text? =
          value.typename? from rfl]
      cases value.typename? with
      | none => simp
      | some name =>
          by_cases same : name = typeName
          · simp [same]
          · simp [same]

theorem runs_required {action : Evaluate Json} {value : Json}
    (run : (required action).Runs before value after) :
    action.Runs { before with absentAt := none } value after := by
  simp only [required, runs_bind, runs_modify] at run
  obtain ⟨_, _, rfl, result, middle, inside, checked⟩ := run
  cases absence : result.isNull with
  | true => simp [absence] at checked
  | false =>
      simp only [absence, Bool.false_eq_true, if_false, runs_pure] at checked
      obtain ⟨rfl, rfl⟩ := checked
      exact inside

theorem runs_nodesOf {given : Option AllNodes} {id : SubqueryId}
    {keys : PageKeys} {connection nodes : Json}
    (run : (nodesOf given id keys connection).Runs before nodes after) :
    Reading.nodes? given ⟨id, keys, connection⟩ = some nodes := by
  unfold nodesOf at run
  unfold Reading.nodes?
  cases listed : given.bind (·.lookup? id) with
  | some listedNodes =>
      simp only [listed, runs_pure] at run
      exact congrArg some run.1
  | none =>
      simp only [listed, runs_bind, runs_memberOf] at run
      obtain ⟨member, _, ⟨found, rfl⟩, kept⟩ := run
      simp only [found, Option.map_some, Option.some.injEq]
      cases given with
      | some given =>
          simp only [Option.isNone_some, Bool.false_eq_true, if_false,
            runs_pure] at kept
          exact kept.1
      | none =>
          simp only [Option.isNone_none, if_true, runs_bind, runs_pure] at kept
          obtain ⟨_, _, _, kept, _⟩ := kept
          exact kept

/-! ### What a run leaves -/

/-- Where no filter was pending, none is, and the verdict is as before. -/
def SparesVerdict (before after : EvaluationState) : Prop :=
  before.pendingFilters = 0 →
    after.pendingFilters = 0 ∧ after.rejected = before.rejected

theorem sparesVerdict_discipline : Discipline SparesVerdict where
  refl _ none := ⟨none, rfl⟩
  trans early late none := by
    obtain ⟨still, same⟩ := early none
    obtain ⟨done, kept⟩ := late still
    exact ⟨done, kept.trans same⟩
  within spares := spares
  binding spares := spares
  absent _ none := by simp [EvaluationState.markAbsent, none]
  noted _ _ none := ⟨none, rfl⟩
  passed _ none := by simp only [none, Nat.zero_sub, and_self]
  recorded _ _ none := ⟨none, rfl⟩

/-- The filters of a list inside of the element at hand say nothing about it. -/
theorem sparesVerdict_listDiscipline : ListDiscipline SparesVerdict where
  toDiscipline := sparesVerdict_discipline
  mapped _ _ _ none := ⟨none, rfl⟩

/-- The bindings are as before, and so is the verdict on the element at hand if
no filter was pending. -/
structure Spared (before after : EvaluationState) : Prop where
  bindings : after.binding? = before.binding?
  verdict : before.pendingFilters = 0 →
    after.pendingFilters = 0 ∧ after.rejected = before.rejected

theorem Spared.trans {first second third : EvaluationState}
    (early : Spared first second) (late : Spared second third) :
    Spared first third where
  bindings := late.bindings.trans early.bindings
  verdict := sparesVerdict_discipline.trans early.verdict late.verdict

/-- Every run of the action spares the state it starts from. -/
structure Calm (action : Evaluate α) : Prop where
  spares :
    ∀ {before after value}, action.Runs before value after → Spared before after

theorem Calm.bind {action : Evaluate α} {next : α → Evaluate β}
    (first : Calm action) (second : ∀ value, Calm (next value)) :
    Calm (action >>= next) := by
  constructor
  intro before after result run
  obtain ⟨value, middle, early, late⟩ := runs_bind.mp run
  exact (first.spares early).trans ((second value).spares late)

theorem calm_within {segment : PathSegment} {action : Evaluate α}
    (inside : Calm action) :
    Calm (within segment action) := by
  constructor
  intro before after value run
  obtain ⟨last, early, rfl⟩ := runs_within.mp run
  have spared := inside.spares early
  exact ⟨spared.bindings, spared.verdict⟩

/-! ### The parts of a program -/

/-- An action that keeps to both disciplines spares the states it runs from. -/
theorem calm_of_preserves {action : Evaluate α}
    (restores : Preserves EvaluationState.Restored action)
    (spares : Preserves SparesVerdict action) : Calm action := by
  constructor
  intro before after value run
  have final : (action.result before).2 = after := congrArg Prod.snd run
  exact final ▸ ⟨(restores before).binding?_eq, spares before⟩

theorem insertEntry_calm (dictionary : Entries Json) (entry : Json) :
    Calm (insertEntry dictionary entry) :=
  calm_of_preserves (insertEntry_preserves restored_discipline dictionary entry)
    (insertEntry_preserves sparesVerdict_discipline dictionary entry)

theorem nodesOf_calm (given : Option AllNodes) (id : SubqueryId)
    (keys : PageKeys) (connection : Json) :
    Calm (nodesOf given id keys connection) :=
  calm_of_preserves
    (nodesOf_preserves restored_discipline given id keys connection)
    (nodesOf_preserves sparesVerdict_discipline given id keys connection)

/-- A program spares the state it is evaluated from. -/
theorem program_calm (given : Option AllNodes) (program : Program)
    (value : Json) :
    Calm (Evaluate.program given program value) :=
  calm_of_preserves
    (program_preserves restored_listDiscipline given program value)
    (program_preserves sparesVerdict_listDiscipline given program value)

end GraphPipeline.Evaluate
