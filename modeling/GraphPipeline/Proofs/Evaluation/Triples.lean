import GraphPipeline.Proofs.Evaluation.Actions

/-!
# Triples

`Triple pre post fails action` says of an action that starts in a state with a
property what its value and the state it leaves are like, and what its error is
like if it fails.  An action that fails leaves a state nobody goes on from.
-/

namespace GraphPipeline.Evaluate

variable {α β : Type}

structure Triple (pre : EvaluationState → Prop)
    (post : α → EvaluationState → Prop) (fails : ExtractionError → Prop)
    (action : Evaluate α) : Prop where
  ok :
    ∀ {state later value},
      pre state → action.result state = (.ok value, later) →
      post value later
  error :
    ∀ {state later error},
      pre state → action.result state = (.error error, later) →
      fails error

variable {pre : EvaluationState → Prop} {post : α → EvaluationState → Prop}
  {fails : ExtractionError → Prop}

theorem Triple.imp {other : EvaluationState → Prop}
    {after : α → EvaluationState → Prop} {action : Evaluate α}
    (triple : Triple pre post fails action)
    (stronger : ∀ state, other state → pre state)
    (weaker : ∀ value state, post value state → after value state) :
    Triple other after fails action where
  ok := fun holds result => weaker _ _ (triple.ok (stronger _ holds) result)
  error := fun holds result => triple.error (stronger _ holds) result

/-- It is enough to look at the runs from one state each. -/
theorem Triple.of_each {action : Evaluate α}
    (each : ∀ state, pre state → Triple (· = state) post fails action) :
    Triple pre post fails action where
  ok := fun holds result => (each _ holds).ok rfl result
  error := fun holds result => (each _ holds).error rfl result

/-- The value comes from a run of the action. -/
theorem Triple.remember {action : Evaluate α}
    (triple : Triple pre post fails action) :
    Triple pre (fun value later => post value later ∧ ∃ state, pre state ∧
      (action.result state).1 = .ok value) fails action where
  ok := fun holds result => ⟨triple.ok holds result, _, holds, by rw [result]⟩
  error := triple.error

/-- What a state is known to satisfy can be used for the action. -/
theorem Triple.assuming {fact : Prop} {action : Evaluate α}
    (triple : fact → Triple pre post fails action) :
    Triple (fun state => pre state ∧ fact) post fails action where
  ok := fun holds result => (triple holds.2).ok holds.1 result
  error := fun holds result => (triple holds.2).error holds.1 result

theorem triple_pure {value : α}
    (holds : ∀ state, pre state → post value state) :
    Triple pre post fails (pure value) := by
  constructor
  · intro state later other start result
    cases result
    exact holds state start
  · intro state later error start result
    cases result

theorem triple_throw {error : ExtractionError} (allowed : fails error) :
    Triple pre post fails (throw error) := by
  constructor
  · intro state later value start result
    cases result
  · intro state later other start result
    cases result
    exact allowed

theorem triple_failAt {error : ResponsePath → ExtractionError}
    (allowed : ∀ state, pre state → fails (error state.path)) :
    Triple pre post fails (failAt error) := by
  constructor
  · intro state later value start result
    cases result
  · intro state later other start result
    cases result
    exact allowed state start

theorem triple_modify {change : EvaluationState → EvaluationState}
    {after : PUnit → EvaluationState → Prop}
    (holds : ∀ state, pre state → after ⟨⟩ (change state)) :
    Triple pre after fails (modify change) := by
  constructor
  · intro state later value start result
    cases result
    exact holds state start
  · intro state later error start result
    cases result

theorem triple_get :
    Triple pre (fun found state => found = state ∧ pre state) fails
      (get : Evaluate EvaluationState) := by
  constructor
  · intro state later value start result
    cases result
    exact ⟨rfl, start⟩
  · intro state later error start result
    cases result

theorem triple_atPath {compute : ResponsePath → Except ExtractionError α}
    (value :
      ∀ state value,
        pre state → compute state.path = .ok value → post value state)
    (error :
      ∀ state error,
        pre state → compute state.path = .error error → fails error) :
    Triple pre post fails (atPath compute) := by
  constructor
  · intro state later found start result
    rw [result_atPath] at result
    obtain ⟨computed, rfl⟩ := Prod.mk.inj result
    exact value state found start computed
  · intro state later failure start result
    rw [result_atPath] at result
    obtain ⟨computed, rfl⟩ := Prod.mk.inj result
    exact error state failure start computed

theorem Triple.bind {after : β → EvaluationState → Prop} {action : Evaluate α}
    {next : α → Evaluate β} (first : Triple pre post fails action)
    (second : ∀ value, Triple (post value) after fails (next value)) :
    Triple pre after fails (action >>= next) := by
  constructor
  · intro state later result start whole
    rw [result_bind] at whole
    cases outcome : action.result state with
    | mk result middle =>
        cases result with
        | error error =>
            rw [outcome] at whole
            cases whole
        | ok value =>
            rw [outcome] at whole
            exact (second value).ok (first.ok start outcome) whole
  · intro state later error start whole
    rw [result_bind] at whole
    cases outcome : action.result state with
    | mk result middle =>
        cases result with
        | error other =>
            rw [outcome] at whole
            cases whole
            exact first.error start outcome
        | ok value =>
            rw [outcome] at whole
            exact (second value).error (first.ok start outcome) whole

/-- An action between two changes of the state. -/
theorem triple_between {before after : EvaluationState → EvaluationState}
    {middle : EvaluationState → Prop} {ending : α → EvaluationState → Prop}
    {action : Evaluate α} (inside : Triple middle ending fails action)
    (enter : ∀ state, pre state → middle (before state))
    (leave : ∀ value state, ending value state → post value (after state)) :
    Triple pre post fails (between before after action) := by
  constructor
  · intro state later value start whole
    rw [result_between] at whole
    cases outcome : action.result (before state) with
    | mk result last =>
        rw [outcome] at whole
        cases whole
        exact leave _ _ (inside.ok (enter state start) outcome)
  · intro state later error start whole
    rw [result_between] at whole
    cases outcome : action.result (before state) with
    | mk result last =>
        rw [outcome] at whole
        cases whole
        exact inside.error (enter state start) outcome

/-- An action that binds a value, started from one state. -/
theorem triple_binding {depth : Nat} {value : Json} {state : EvaluationState}
    {ending : α → EvaluationState → Prop} {action : Evaluate α}
    (inside : Triple (· = state.rebind depth (some value)) ending fails action)
    (leave : ∀ value last, ending value last →
      post value (last.rebind depth (state.binding? depth))) :
    Triple (· = state) post fails (binding depth value action) := by
  apply Triple.bind triple_get
  intro found
  apply Triple.of_each
  rintro last ⟨rfl, rfl⟩
  apply triple_between inside
  · rintro _ rfl
    rfl
  · exact leave

theorem triple_isolated {state : EvaluationState}
    {ending : α → EvaluationState → Prop} {action : Evaluate α}
    (inside : Triple (· = state) ending fails action)
    (leave : ∀ value last, ending value last →
      post value { last with
        pendingFilters := state.pendingFilters
        rejected := state.rejected }) :
    Triple (· = state) post fails (isolated action) := by
  apply Triple.bind triple_get
  intro found
  apply Triple.of_each
  rintro last ⟨rfl, rfl⟩
  apply triple_between inside
  · rintro _ rfl
    rfl
  · exact leave

end GraphPipeline.Evaluate
