import GraphPipeline.Program.Evaluation
import GraphPipeline.Proofs.Entries

/-!
# Parts of an evaluation

What each action of an evaluation results in.  `Settles` says that an action
fails only in expected ways, that its value satisfies a postcondition, that it
leaves the trail and every binding as it found them, and that an invariant of
the recorded pages still holds, even if it fails.
-/

namespace GraphPipeline

namespace EvaluationState

theorem binding?_rebind_same (state : EvaluationState) (depth : Nat)
    (value : Option Json) :
    (state.rebind depth value).binding? depth = value := by
  have bound :
      depth < state.bindings.length + (depth + 1 - state.bindings.length) := by
    omega
  simp [rebind, binding?, bound]

theorem binding?_rebind_other (state : EvaluationState) {depth other : Nat}
    (different : depth ≠ other) (value : Option Json) :
    (state.rebind depth value).binding? other = state.binding? other := by
  simp only [rebind, binding?, List.getElem?_set_ne different]
  rcases Nat.lt_or_ge other state.bindings.length with inside | beyond
  · rw [List.getElem?_append_left inside]
  · rw [List.getElem?_append_right beyond, List.getElem?_eq_none beyond]
    cases found : (List.replicate (depth + 1 - state.bindings.length)
        (none : Option Json))[other - state.bindings.length]? with
    | none => rfl
    | some value =>
        have member := List.mem_of_getElem? found
        rw [List.eq_of_mem_replicate member]
        rfl

theorem binding?_rebind (state : EvaluationState) (depth : Nat)
    (value : Option Json) :
    (state.rebind depth value).binding? =
      Function.update state.binding? depth value := by
  funext other
  by_cases same : depth = other
  · subst other
    rw [binding?_rebind_same, Function.update_self]
  · rw [binding?_rebind_other state same, Function.update_of_ne (Ne.symm same)]

end EvaluationState

namespace Evaluate

variable {α β : Type}

@[simp] theorem result_pure (value : α) (state : EvaluationState) :
    (pure value : Evaluate α).result state = (.ok value, state) := rfl

theorem result_bind (action : Evaluate α) (next : α → Evaluate β)
    (state : EvaluationState) :
    (action >>= next).result state =
      match action.result state with
      | (.ok value, later) => (next value).result later
      | (.error error, later) => (.error error, later) := by
  simp only [result, bind, ExceptT.bind, ExceptT.run, ExceptT.mk, StateT.bind,
    StateT.run]
  cases action state with
  | mk outcome later => cases outcome <;> rfl

@[simp] theorem result_get (state : EvaluationState) :
    (get : Evaluate EvaluationState).result state = (.ok state, state) := rfl

@[simp] theorem result_modify (change : EvaluationState → EvaluationState)
    (state : EvaluationState) :
    (modify change : Evaluate PUnit).result state = (.ok ⟨⟩, change state) :=
  rfl

@[simp] theorem result_throw (error : ExtractionError)
    (state : EvaluationState) :
    (throw error : Evaluate α).result state = (.error error, state) := rfl

theorem result_between (before after : EvaluationState → EvaluationState)
    (action : Evaluate α) (state : EvaluationState) :
    (between before after action).result state =
      ((action.result (before state)).1,
       after (action.result (before state)).2) :=
  rfl

theorem result_within (segment : PathSegment) (action : Evaluate α)
    (state : EvaluationState) :
    (within segment action).result state =
      ((action.result { state with trail := segment :: state.trail }).1,
        let later :=
  (action.result { state with trail := segment :: state.trail }).2
        { later with trail := later.trail.tail }) := rfl

theorem result_binding (depth : Nat) (value : Json) (action : Evaluate α)
    (state : EvaluationState) :
    (binding depth value action).result state =
      ((action.result (state.rebind depth (some value))).1,
        (action.result (state.rebind depth (some value))).2.rebind depth
          (state.binding? depth)) := rfl

theorem result_isolated (action : Evaluate α) (state : EvaluationState) :
    (isolated action).result state =
      ((action.result state).1,
        { (action.result state).2 with
          pendingFilters := state.pendingFilters
          rejected := state.rejected }) := rfl

@[simp] theorem result_failAt (error : ResponsePath → ExtractionError)
    (state : EvaluationState) :
    (failAt error : Evaluate α).result state =
      (.error (error state.path), state) :=
  rfl

theorem result_atPath (compute : ResponsePath → Except ExtractionError α)
    (state : EvaluationState) :
    (atPath compute).result state = (compute state.path, state) := by
  simp only [atPath, result_bind, result_get]
  cases compute state.path <;> rfl

@[simp] theorem result_absent (state : EvaluationState) :
    absent.result state = (.ok .null, state.markAbsent) := rfl

theorem narrowed_filter {typeName : String} {evaluate : Json → Evaluate Json}
    {value : Json} (present : value.isNull = false) :
    narrowed typeName .filter evaluate value = (do
      let received ← typenameOf value
      if received = typeName then do
        modify fun state =>
          { state with pendingFilters := state.pendingFilters - 1 }
        evaluate value
      else absent) := by
  cases value with
  | null => cases present
  | _ =>
      simp only [narrowed]
      congr 1
      funext received
      by_cases same : received = typeName
      · simp [same]
      · simp [same]

theorem narrowed_cast {typeName : String} {evaluate : Json → Evaluate Json}
    {value : Json} (present : value.isNull = false) :
    narrowed typeName .cast evaluate value = (do
      let received ← typenameOf value
      if received = typeName then evaluate value
      else failAt (.typeMismatch · typeName received)) := by
  cases value with
  | null => cases present
  | _ =>
      simp only [narrowed]
      congr 1
      funext received
      by_cases same : received = typeName
      · simp [same]
      · simp [same]

theorem map_eq_ok {ε β : Type} {attempt : Except ε α} {read : α → β}
    {found : β} :
    attempt.map read = .ok found ↔
      ∃ value, attempt = .ok value ∧ read value = found := by
  cases attempt with
  | error error => simp [Except.map]
  | ok value => simp [Except.map]

theorem map_eq_error {ε β : Type} {attempt : Except ε α} {read : α → β}
    {error : ε} :
    attempt.map read = .error error ↔ attempt = .error error := by
  cases attempt with
  | error other => simp [Except.map]
  | ok value => simp [Except.map]

theorem collect_eq_error {program : Program} {data : Json}
    {error : ExtractionError} :
    program.collect data = .error error ↔
      ((Evaluate.program none program data).result (.initial data)).1 =
        .error error := by
  unfold Program.collect
  cases outcome :
      (Evaluate.program none program data).result (.initial data) with
  | mk result state => cases result <;> simp [Except.map]

theorem collect_eq_ok {program : Program} {data value : Json} {pages : Pages} :
    program.collect data = .ok (value, pages) ↔
      ((Evaluate.program none program data).result (.initial data)).1 =
        .ok value ∧
        ((Evaluate.program none program data).result (.initial data)).2.pages =
          pages := by
  unfold Program.collect
  cases outcome :
      (Evaluate.program none program data).result (.initial data) with
  | mk result state => cases result <;> simp [Except.map]

/-- From any state with some bindings, the action fails only in expected ways,
gives a value with a property, and restores the trail and the bindings. -/
structure Settles (bindings : Nat → Option Json) (recorded : Pages → Prop)
    (expected : ExtractionError → Prop) (post : α → Prop)
    (action : Evaluate α) :
    Prop where
  trail : ∀ {state : EvaluationState}, state.binding? = bindings →
    (action.result state).2.trail = state.trail
  restored : ∀ {state : EvaluationState}, state.binding? = bindings →
    (action.result state).2.binding? = bindings
  pages : ∀ {state : EvaluationState}, state.binding? = bindings →
    recorded state.pages → recorded (action.result state).2.pages
  value : ∀ {state : EvaluationState} {value : α}, state.binding? = bindings →
    (action.result state).1 = .ok value → post value
  error : ∀ {state : EvaluationState} {error : ExtractionError},
    state.binding? = bindings → (action.result state).1 = .error error →
      expected error

variable {bindings : Nat → Option Json} {recorded : Pages → Prop}
  {expected : ExtractionError → Prop} {post : α → Prop} {after : β → Prop}

theorem settles_pure {value : α} (holds : post value) :
    Settles bindings recorded expected post (pure value) where
  trail := fun _ => rfl
  restored := fun bound => bound
  pages := fun _ kept => kept
  value := by
    intro state other bound same
    obtain rfl := Except.ok.inj same
    exact holds
  error := by
    intro state error bound same
    cases same

theorem settles_failAt {error : ResponsePath → ExtractionError}
    (allowed : ∀ path, expected (error path)) :
    Settles bindings recorded expected post (failAt error) where
  trail := fun _ => rfl
  restored := fun bound => bound
  pages := fun _ kept => kept
  value := by
    intro state other bound same
    cases same
  error := by
    intro state other bound same
    obtain rfl := Except.error.inj same
    exact allowed state.path

theorem settles_throw {error : ExtractionError} (allowed : expected error) :
    Settles bindings recorded expected post (throw error) where
  trail := fun _ => rfl
  restored := fun bound => bound
  pages := fun _ kept => kept
  value := by
    intro state other bound same
    cases same
  error := by
    intro state other bound same
    obtain rfl := Except.error.inj same
    exact allowed

/-- A change that leaves the trail and the bindings alone. -/
theorem settles_modify {change : EvaluationState → EvaluationState}
    (sameTrail : ∀ state, (change state).trail = state.trail)
    (sameBindings : ∀ state, (change state).bindings = state.bindings)
    (keepsPages :
      ∀ state, recorded state.pages → recorded (change state).pages) :
    Settles bindings recorded expected (fun _ => True) (modify change) where
  trail := fun {state} _ => sameTrail state
  restored := by
    intro state bound
    rw [← bound]
    funext depth
    simp only [result_modify, EvaluationState.binding?, sameBindings]
  pages := fun {state} _ kept => keepsPages state kept
  value := fun _ _ => trivial
  error := by
    intro state other bound same
    cases same

theorem settles_get :
    Settles bindings recorded expected (fun found => found.binding? = bindings)
      (get : Evaluate EvaluationState) where
  trail := fun _ => rfl
  restored := fun bound => bound
  pages := fun _ kept => kept
  value := by
    intro state found bound same
    obtain rfl := Except.ok.inj same
    exact bound
  error := by
    intro state other bound same
    cases same

theorem Settles.weaken {other : α → Prop} {action : Evaluate α}
    (settles : Settles bindings recorded expected post action)
    (implies : ∀ value, post value → other value) :
    Settles bindings recorded expected other action :=
  { settles with
    value := fun bound same => implies _ (settles.value bound same) }

theorem Settles.bind {action : Evaluate α} {next : α → Evaluate β}
    (first : Settles bindings recorded expected post action)
    (second :
      ∀ value,
        post value → Settles bindings recorded expected after (next value)) :
    Settles bindings recorded expected after (action >>= next) := by
  have cut : ∀ {state : EvaluationState}, state.binding? = bindings →
      (∃ error, expected error ∧
        (action >>= next).result state =
          (.error error, (action.result state).2)) ∨
      ∃ value, post value ∧
        (action >>= next).result state =
          (next value).result (action.result state).2 := by
    intro state bound
    cases outcome : action.result state with
    | mk result later =>
        cases result with
        | error error =>
            exact Or.inl ⟨error, first.error bound (by rw [outcome]),
              by rw [result_bind, outcome]⟩
        | ok value =>
            exact Or.inr ⟨value, first.value bound (by rw [outcome]),
              by rw [result_bind, outcome]⟩
  constructor
  · intro state bound
    rcases cut bound with ⟨error, _, whole⟩ | ⟨value, holds, whole⟩
    · rw [whole]
      exact first.trail bound
    · rw [whole, (second value holds).trail (first.restored bound)]
      exact first.trail bound
  · intro state bound
    rcases cut bound with ⟨error, _, whole⟩ | ⟨value, holds, whole⟩
    · rw [whole]
      exact first.restored bound
    · rw [whole]
      exact (second value holds).restored (first.restored bound)
  · intro state bound kept
    rcases cut bound with ⟨error, _, whole⟩ | ⟨value, holds, whole⟩
    · rw [whole]
      exact first.pages bound kept
    · rw [whole]
      exact (second value holds).pages (first.restored bound)
        (first.pages bound kept)
  · intro state result bound same
    rcases cut bound with ⟨error, _, whole⟩ | ⟨value, holds, whole⟩
    · rw [whole] at same
      cases same
    · rw [whole] at same
      exact (second value holds).value (first.restored bound) same
  · intro state error bound same
    rcases cut bound with ⟨error, allowed, whole⟩ | ⟨value, holds, whole⟩
    · rw [whole] at same
      obtain rfl := Except.error.inj same
      exact allowed
    · rw [whole] at same
      exact (second value holds).error (first.restored bound) same

theorem settles_within {segment : PathSegment} {action : Evaluate α}
    (inside : Settles bindings recorded expected post action) :
    Settles bindings recorded expected post (within segment action) := by
  have deeper : ∀ {state : EvaluationState}, state.binding? = bindings →
      ({ state with trail := segment :: state.trail } :
        EvaluationState).binding? =
        bindings :=
    fun bound => bound
  constructor
  · intro state bound
    simp only [result_within, inside.trail (deeper bound), List.tail_cons]
  · intro state bound
    exact inside.restored (deeper bound)
  · intro state bound kept
    exact inside.pages (deeper bound) kept
  · intro state value bound same
    exact inside.value (deeper bound) same
  · intro state error bound same
    exact inside.error (deeper bound) same

theorem settles_binding {depth : Nat} {value : Json} {action : Evaluate α}
    (inside :
      Settles (Function.update bindings depth (some value)) recorded expected
        post action) :
    Settles bindings recorded expected post (binding depth value action) := by
  have extended : ∀ {state : EvaluationState}, state.binding? = bindings →
      (state.rebind depth (some value)).binding? =
        Function.update bindings depth (some value) := by
    intro state bound
    rw [EvaluationState.binding?_rebind, bound]
  constructor
  · intro state bound
    exact inside.trail (extended bound)
  · intro state bound
    rw [result_binding]
    simp only
    rw [EvaluationState.binding?_rebind, inside.restored (extended bound),
      bound, Function.update_idem, Function.update_eq_self]
  · intro state bound kept
    exact inside.pages (extended bound) kept
  · intro state result bound same
    exact inside.value (extended bound) same
  · intro state error bound same
    exact inside.error (extended bound) same

theorem settles_isolated {action : Evaluate α}
    (inside : Settles bindings recorded expected post action) :
    Settles bindings recorded expected post (isolated action) where
  trail := inside.trail
  restored := inside.restored
  pages := inside.pages
  value := inside.value
  error := inside.error

theorem settles_atPath {compute : ResponsePath → Except ExtractionError α}
    (value : ∀ {path value}, compute path = .ok value → post value)
    (error : ∀ {path error}, compute path = .error error → expected error) :
    Settles bindings recorded expected post (atPath compute) := by
  constructor
  · intro state bound
    rw [result_atPath]
  · intro state bound
    rw [result_atPath]
    exact bound
  · intro state bound kept
    rw [result_atPath]
    exact kept
  · intro state result bound same
    rw [result_atPath] at same
    exact value same
  · intro state failure bound same
    rw [result_atPath] at same
    exact error same

theorem settles_absent {holds : Json → Prop} (null : holds .null) :
    Settles bindings recorded expected holds absent where
  trail := fun _ => rfl
  restored := fun bound => bound
  pages := fun _ kept => kept
  value := by
    intro state value bound same
    obtain rfl := Except.ok.inj same
    exact null
  error := by
    intro state error bound same
    cases same

end Evaluate

end GraphPipeline
