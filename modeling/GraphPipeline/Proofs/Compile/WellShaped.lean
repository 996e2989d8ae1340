import GraphPipeline.Proofs.Compile.Forms
import GraphPipeline.Proofs.Compile.Mirroring
import GraphPipeline.Proofs.Compile.Seams

/-!
# Well-shaped pipelines

A pipeline is well shaped if each of its steps can be taken from the form the
steps before it lead to.  The compilation of a well-shaped pipeline may fail,
but never because a step does not fit the place it is taken from.
-/

namespace GraphPipeline

/-- Whether an error says that a step does not fit the place it is taken from,
or that its arguments are not those of its field. -/
def CompileError.isShapeError : CompileError → Bool
  | .unknownArgument _ _ => true
  | .scalarAsComposite _ _ => true
  | .fieldOnList _ _ => true
  | .requiresList _ _ => true
  | .reducerNotTerminal _ => true
  | .unsupportedDictionarySource _ => true
  | _ => false

mutual

def Pipeline.WellShaped : Pipeline → Prop
  | .mk _ steps => Pipeline.WellShapedSteps steps .object

/-- Each step fits the form before it, and only the last one is terminal. -/
def Pipeline.WellShapedSteps : List Step → Form → Prop
  | [], _ => True
  | step :: steps, before =>
      Pipeline.WellShapedStep step before ∧
        (step.isTerminal = true → steps = []) ∧
        Pipeline.WellShapedSteps steps (Pipeline.formOfStep step before)

def Pipeline.WellShapedStep : Step → Form → Prop
  | .property _, before => before = .object
  | .call field arguments, before =>
      before = .object ∧
        ∀ argument ∈ arguments, (field.argument? argument.name).isSome = true
  | .record _ fields, before =>
    before.kind = .object ∧ Pipeline.WellShapedFields fields
  | .value _ inner, before => before.kind = .object ∧ inner.WellShaped
  | .toList, before => before.isList = true
  | .toDictionary _ key value, before =>
      before = .objects ∧ key.WellShaped ∧ value.WellShaped
  | .allPages _, _ => True
  | .cast _, _ => True
  | .filter _, _ => True
  | .single, _ => True
  | .singleOrDefault, _ => True

def Pipeline.WellShapedFields : List (String × Pipeline) → Prop
  | [] => True
  | (_, pipeline) :: fields =>
    pipeline.WellShaped ∧ Pipeline.WellShapedFields fields

end

namespace Compile

/-- If an action fails, it is not with a shape error. -/
def AvoidsShapeErrors {α : Type} (action : Compile α) (before : CompileState) :
    Prop :=
  ∀ error, action before = .error error → error.isShapeError = false

namespace AvoidsShapeErrors

variable {α β : Type} {before : CompileState}

theorem pure (value : α) : AvoidsShapeErrors (pure value) before := by
  intro error failure
  cases failure

theorem throw {error : CompileError} (harmless : error.isShapeError = false) :
    AvoidsShapeErrors (throw error : Compile α) before := by
  intro thrown failure
  cases failure
  exact harmless

/-- What follows matters only where the first action leads. -/
theorem bind {action : Compile α} {next : α → Compile β}
    (first : AvoidsShapeErrors action before)
    (others : ∀ value after, action before = .ok (value, after) →
      AvoidsShapeErrors (next value) after) :
    AvoidsShapeErrors (action >>= next) before := by
  intro error failure
  cases outcome : action before with
  | error thrown =>
      rw [bind_of_error outcome] at failure
      cases failure
      exact first _ outcome
  | ok pair =>
      obtain ⟨value, after⟩ := pair
      rw [bind_of_ok outcome] at failure
      exact others value after outcome error failure

theorem liftM {action : Except CompileError α}
    (harmless : ∀ error, action = .error error → error.isShapeError = false) :
    AvoidsShapeErrors (liftM action : Compile α) before := by
  intro error failure
  cases action with
  | ok value => cases failure
  | error thrown =>
      cases failure
      exact harmless _ rfl

end AvoidsShapeErrors

open AvoidsShapeErrors

variable {before : CompileState}

/-! ### Parts of a step -/

theorem declare_avoids (name : String) (type : TypeRef) :
    AvoidsShapeErrors (declare name type) before := by
  refine .bind (fun error failure => by cases failure) fun state _ _ => ?_
  split
  · split
    · exact .pure ()
    · exact .throw rfl
  · intro error failure
    cases failure

theorem declareAll_avoids (uses : List (String × TypeRef)) :
    AvoidsShapeErrors (declareAll uses) before := by
  induction uses generalizing before with
  | nil => exact .pure ()
  | cons use uses induction =>
      exact .bind (declare_avoids use.1 use.2) fun _ _ _ => induction

theorem selectIn_avoids (set : SetId) (definition : FieldDefinition)
    (arguments : List Argument) :
    AvoidsShapeErrors (selectIn set definition arguments) before := by
  refine .bind (fun error failure => by cases failure) fun state _ _ => ?_
  split
  · intro error failure
    cases failure
  · exact .throw rfl

theorem initialCursor_avoids (field : FieldDefinition) (value : ArgumentValue) :
    AvoidsShapeErrors (initialCursor field value) before := by
  cases value with
  | variableRef name => exact .throw rfl
  | literal value => exact .pure _
  | enumeration name => exact .pure _
  | list items => exact .pure _
  | object fields => exact .pure _
  | omitted => exact .pure _

/-- Arguments of the field are passed, if they can be. -/
theorem passArguments_avoids (field : FieldDefinition) (paginate : Bool)
    {arguments : List Argument} {cursor : Option String}
    (known :
      ∀ argument ∈ arguments, (field.argument? argument.name).isSome = true) :
    AvoidsShapeErrors (passArguments field paginate arguments cursor)
      before := by
  induction arguments generalizing cursor before with
  | nil => exact .pure _
  | cons argument rest induction =>
      have knownRest :
          ∀ argument ∈ rest, (field.argument? argument.name).isSome = true :=
        fun other member => known other (List.mem_cons_of_mem _ member)
      obtain ⟨definition, found⟩ :=
        Option.isSome_iff_exists.mp (known argument List.mem_cons_self)
      rw [passArguments, found]
      dsimp only
      split
      · exact induction knownRest
      · split
        · exact .bind (initialCursor_avoids field argument.value) fun _ _ _ =>
            induction knownRest
        · exact .bind (declareAll_avoids _) fun _ _ _ =>
            .bind (induction knownRest) fun _ _ _ => .pure _

theorem preparePage_avoids (chain : Chain) (field : FieldDefinition)
    (cursor : Option String) :
    AvoidsShapeErrors (preparePage chain field cursor) before := by
  unfold preparePage
  cases field.isConnection with
  | false => exact .throw rfl
  | true =>
      cases chain.repeated with
      | true => exact .throw rfl
      | false =>
          exact .bind (fun error failure => by cases failure) fun state _ _ =>
            .bind (declare_avoids _ _) fun _ _ _ => .pure _

theorem advance_avoids (chain : Chain) (object : ObjectPosition)
    (field : FieldDefinition) (selected : SelectedField) :
    AvoidsShapeErrors (liftM (advance chain object field selected)) before := by
  refine .liftM fun error failure => ?_
  unfold advance at failure
  cases child : selected.child with
  | none => simp [child] at failure
  | some set =>
      cases elementOf : field.type.element? with
      | none => simp [child, elementOf] at failure
      | some element =>
          simp only [child, elementOf] at failure
          split at failure
          · cases failure
            rfl
          · cases failure

/-- A field can be selected on an object of which there is one. -/
theorem selectField_avoids {chain : Chain} (field : FieldDefinition)
    {arguments : List Argument}
    (paginate : Bool) (single : chain.form = .object)
    (known :
      ∀ argument ∈ arguments, (field.argument? argument.name).isSome = true) :
    AvoidsShapeErrors (selectField chain field arguments paginate) before := by
  have selectable :
      AvoidsShapeErrors (selectableObject chain field.name) before := by
    obtain ⟨object, atObject⟩ :=
      Chain.object_of_kind (congrArg Form.kind single)
    have noList : chain.list = none := by
      simpa [Chain.form, Form.object] using congrArg Form.mapped single
    rw [selectableObject, atObject, noList]
    exact .pure object
  refine .bind selectable fun object _ _ =>
    .bind (passArguments_avoids field paginate known) fun passed _ _ => ?_
  obtain ⟨written, cursor⟩ := passed
  dsimp only
  split
  · exact .bind (preparePage_avoids chain field _) fun _ _ _ =>
      .bind (selectIn_avoids _ _ _) fun _ _ _ => advance_avoids _ _ _ _
  · exact .bind (selectIn_avoids _ _ _) fun _ _ _ => advance_avoids _ _ _ _

theorem selectPageInfo_avoids (connection : ObjectPosition) :
    AvoidsShapeErrors (selectPageInfo connection) before := by
  refine .bind (selectIn_avoids _ _ _) fun pageInfo _ _ => ?_
  split
  · exact .throw rfl
  · exact .bind (selectIn_avoids _ _ _)
      fun _ _ _ => .bind (selectIn_avoids _ _ _) fun _ _ _ =>
      .pure _

/-- All pages of what is no connection are refused, but that is no shape
error. -/
theorem selectAllPages_avoids (chain : Chain) (nodes : FieldDefinition) :
    AvoidsShapeErrors (selectAllPages chain nodes) before := by
  unfold selectAllPages
  split
  · split
    · exact .throw rfl
    · refine .bind (selectPageInfo_avoids _)
        fun _ _ _ => .bind (selectIn_avoids _ _ _) fun selected _ _ => ?_
      split
      · exact .throw rfl
      · exact .bind (fun error failure => by cases failure) fun _ _ _ => .pure _
  · exact .throw rfl

theorem narrow_avoids (chain : Chain) (object : ObjectPosition)
    (typeName : String) (mode : NarrowingMode) :
    AvoidsShapeErrors (narrow chain object typeName mode) before :=
  .bind (fun error failure => by cases failure) fun _ _ _ => .pure _

theorem narrowableObject_avoids (chain : Chain) (reducer : String) :
    AvoidsShapeErrors (narrowableObject chain reducer) before := by
  unfold narrowableObject
  split
  · split
    · exact .pure _
    · exact .throw rfl
  · exact .throw rfl

theorem castTo_avoids (chain : Chain) (typeName : String) :
    AvoidsShapeErrors (castTo chain typeName) before :=
  .bind (narrowableObject_avoids chain "cast")
    fun _ _ _ => narrow_avoids _ _ _ _

theorem filterTo_avoids (chain : Chain) (typeName : String) :
    AvoidsShapeErrors (filterTo chain typeName) before := by
  refine .bind (narrowableObject_avoids chain "filter") fun object _ _ => ?_
  split
  · exact narrow_avoids _ _ _ _
  · split
    · exact narrow_avoids _ _ _ _
    · exact .throw rfl

theorem endSingle_avoids (chain : Chain) (reducer : String)
    (enforceSingle : Bool) :
    AvoidsShapeErrors (endSingle chain reducer enforceSingle) before := by
  unfold endSingle
  split
  · exact .throw rfl
  · split
    · exact .throw rfl
    · exact .pure _

theorem endList_avoids {chain : Chain} (isList : chain.form.isList = true) :
    AvoidsShapeErrors (endList chain) before := by
  rw [endList, if_pos (chain.isList_eq_form.trans isList)]
  exact .pure chain

theorem dictionaryObject_avoids {chain : Chain}
    (objects : chain.form = .objects) :
    AvoidsShapeErrors (dictionaryObject chain) before := by
  obtain ⟨object, atObject⟩ := Chain.object_of_kind (congrArg Form.kind objects)
  have mapped : chain.list.isSome = true := congrArg Form.mapped objects
  obtain ⟨index, list⟩ := Option.isSome_iff_exists.mp mapped
  rw [dictionaryObject, list, atObject]
  exact .pure object

theorem projectedObject_avoids {chain : Chain}
    (kind : chain.form.kind = .object) :
    AvoidsShapeErrors (projectedObject chain) before := by
  obtain ⟨object, atObject⟩ := Chain.object_of_kind kind
  rw [projectedObject, atObject]
  exact .pure object

theorem rejoin_avoids (outer inner : Chain) :
    AvoidsShapeErrors (rejoin outer inner) before := by
  unfold rejoin
  split
  · exact .throw rfl
  · exact .pure _
  · exact .pure _

theorem finish_avoids (chain : Chain) :
    AvoidsShapeErrors (finish chain) before := by
  refine .liftM fun error failure => ?_
  cases position : chain.position with
  | object object =>
      rw [Chain.finish, position] at failure
      cases failure
      rfl
  | value program isList =>
      rw [Chain.finish, position] at failure
      cases failure
  | dictionary entry =>
      rw [Chain.finish, position] at failure
      cases failure

/-! ### Walks -/

/-- A step arrives in a document in which any name may occur. -/
theorem arrives_of_walkStep {scopes : Scopes} {chain last : Chain}
    {paginate : Bool} {step : Step} {after : CompileState}
    (formed : before.WellFormed AnyName)
    (bound : scopes.Within before.selections)
    (within : chain.position.Within before.selections)
    (pends : chain.Pends step.isAllPages before)
    (success : walkStep scopes step paginate chain before = .ok (last, after)) :
    Arrives AnyName before after paginate
      (fun document next => WalksStep document scopes step paginate chain next)
        last := by
  rw [← Chain.under_nil chain] at success
  obtain ⟨own, rfl, arrives⟩ := walkStep_arrives step formed anyPageNames
    (Pipeline.eachFieldOfStep (fun _ _ => trivial) step) bound within pends
      success
  rw [Chain.under_nil]
  exact arrives

mutual

/-- The walk of a well-shaped pipeline fails with no shape error. -/
theorem walkPipeline_avoids {before : CompileState} {scopes : Scopes}
    (frames : List Frame) (pipeline : Pipeline) (shaped : pipeline.WellShaped)
    (formed : before.WellFormed AnyName)
    (bound : scopes.Within before.selections) :
    AvoidsShapeErrors (walkPipeline scopes frames pipeline) before := by
  cases pipeline with
  | mk source steps =>
      unfold walkPipeline
      cases resolved : scopes.resolve? source with
      | none => exact .throw rfl
      | some place =>
          have within :
              (Chain.start frames scopes place.1 place.2).position.Within
              before.selections :=
            bound place.2 (Scopes.mem_of_resolve? resolved)
          exact walk_avoids steps shaped formed bound within
            (Chain.pends_of_none rfl) ⟨rfl, rfl⟩

theorem walk_avoids {before : CompileState} {scopes : Scopes} {chain : Chain}
    (steps : List Step) (shaped : Pipeline.WellShapedSteps steps chain.form)
    (formed : before.WellFormed AnyName)
    (bound : scopes.Within before.selections)
    (within : chain.position.Within before.selections)
    (pends : chain.Pends (steps.head?.any Step.isAllPages) before)
    (unended : chain.Unended) :
    AvoidsShapeErrors (walk scopes steps chain) before := by
  cases steps with
  | nil => exact .pure chain
  | cons step rest =>
      obtain ⟨fits, last, shapedRest⟩ := shaped
      rw [walk_cons scopes step rest unended.terminal]
      refine .bind (walkStep_avoids step fits formed bound within pends)
        fun next after first => ?_
      have arrives := arrives_of_walkStep formed bound within pends first
      have walks := arrives.derives after (CompileState.Grows.refl after)
      cases ends : step.isTerminal with
      | true =>
          rw [last ends]
          exact .pure _
      | false =>
          have sameNext : next.endedBy step = next := by
            rw [Chain.endedBy, if_neg (by simp [ends])]
          have form := walksStep_form step arrives.formed walks
          rw [sameNext]
          refine walk_avoids rest (form ▸ shapedRest) arrives.formed
            (bound.grow arrives.grows.selections) arrives.within arrives.pends
            (walksStep_unended step arrives.formed walks unended ends)

theorem walkStep_avoids {before : CompileState} {scopes : Scopes}
    {chain : Chain} {paginate : Bool} (step : Step)
    (shaped : Pipeline.WellShapedStep step chain.form)
    (formed : before.WellFormed AnyName)
    (bound : scopes.Within before.selections)
    (within : chain.position.Within before.selections)
    (pends : chain.Pends step.isAllPages before) :
    AvoidsShapeErrors (walkStep scopes step paginate chain) before := by
  cases step with
  | property field =>
      exact selectField_avoids field paginate shaped
        fun _ member => by cases member
  | call field arguments =>
    exact selectField_avoids field paginate shaped.1 shaped.2
  | allPages nodes => exact selectAllPages_avoids chain nodes
  | cast typeName => exact castTo_avoids chain typeName
  | filter typeName => exact filterTo_avoids chain typeName
  | single => exact endSingle_avoids chain _ _
  | singleOrDefault => exact endSingle_avoids chain _ _
  | toList => exact endList_avoids shaped
  | record parameter fields =>
      refine .bind (projectedObject_avoids shaped.1)
        fun object _ projecting => ?_
      obtain ⟨atObject, rfl⟩ := projectedObject_eq_ok.mp projecting
      exact .bind (compileFields_avoids fields shaped.2 formed
        (scope_within parameter bound atObject within)) fun _ _ _ => .pure _
  | value parameter inner =>
      refine .bind (projectedObject_avoids shaped.1)
        fun object _ projecting => ?_
      obtain ⟨atObject, rfl⟩ := projectedObject_eq_ok.mp projecting
      have inside := scope_within parameter bound atObject within
      dsimp only
      split
      · exact .bind (.bind (walkPipeline_avoids [] inner shaped.2 formed inside)
          fun _ _ _ => finish_avoids _) fun _ _ _ => .pure _
      · exact .bind (walkPipeline_avoids _ inner shaped.2 formed inside)
          fun _ _ _ => rejoin_avoids _ _
  | toDictionary parameter key value =>
      obtain ⟨objects, shapedKey, shapedValue⟩ := shaped
      refine .bind (dictionaryObject_avoids objects)
        fun object _ projecting => ?_
      obtain ⟨_, atObject, rfl⟩ := dictionaryObject_eq_ok.mp projecting
      have inside := scope_within parameter bound atObject within
      refine .bind (.bind (walkPipeline_avoids [] key shapedKey formed inside)
        fun _ _ _ => finish_avoids _) fun keyProgram afterKey first => ?_
      obtain ⟨formedKey, grows⟩ := pipeline_arrives formed anyPageNames
        (Pipeline.eachField (fun _ _ => trivial) key) inside first
      exact .bind (.bind (walkPipeline_avoids [] value shapedValue formedKey
        (inside.grow grows.selections))
          fun _ _ _ => finish_avoids _) fun _ _ _ => .pure _

theorem compileFields_avoids {before : CompileState} {scopes : Scopes}
    (fields : List (String × Pipeline))
    (shaped : Pipeline.WellShapedFields fields)
    (formed : before.WellFormed AnyName)
    (bound : scopes.Within before.selections) :
    AvoidsShapeErrors (compileFields scopes fields) before := by
  cases fields with
  | nil => exact .pure _
  | cons field fields =>
      obtain ⟨key, pipeline⟩ := field
      refine .bind (.bind (walkPipeline_avoids [] pipeline shaped.1 formed
        bound) fun _ _ _ => finish_avoids _) fun program after first => ?_
      obtain ⟨formedAfter, grows⟩ := pipeline_arrives formed anyPageNames
        (Pipeline.eachField (fun _ _ => trivial) pipeline) bound first
      exact .bind (compileFields_avoids fields shaped.2 formedAfter
        (bound.grow grows.selections)) fun _ _ _ => .pure _

end

/-- If a well-shaped pipeline does not compile, it is not for a shape error. -/
theorem compile_avoids {pipeline : Pipeline} (shaped : pipeline.WellShaped)
    {error : CompileError} (failure : compile pipeline = .error error) :
    error.isShapeError = false := by
  unfold compile at failure
  cases rooted : pipeline.operationKind? with
  | none =>
      rw [rooted] at failure
      cases failure
      rfl
  | some kind =>
      rw [rooted] at failure
      have failed := Evaluate.map_eq_error.mp failure
      have avoids :
          AvoidsShapeErrors (Compile.pipeline [rootScope kind] pipeline)
          CompileState.initial :=
        .bind (walkPipeline_avoids [] pipeline shaped
          (CompileState.initial_wellFormed AnyName) (rootScope_within kind))
          fun _ _ _ => finish_avoids _
      exact avoids error failed

end Compile

end GraphPipeline
