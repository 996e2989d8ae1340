import GraphPipeline.Proofs.Compile.Seams

/-!
# Compiling without what is omitted

The pipeline without its omitted arguments, and without the omitted fields of
the input objects in the others, is compiled in lockstep with the pipeline
itself.  The arena of one compilation is the arena of the other without the
omitted fields in the arguments it records: they are not part of a signature, so
the same selections are merged and the same keys are taken.
-/

namespace GraphPipeline

/-! ### Argument values -/

namespace ArgumentValue

mutual

/-- The value without the omitted fields of the input objects in it. -/
def withoutOmitted : ArgumentValue → ArgumentValue
  | .literal value => .literal value
  | .enumeration name => .enumeration name
  | .list items => .list (itemsWithoutOmitted items)
  | .object fields => .object (fieldsWithoutOmitted fields)
  | .variableRef name => .variableRef name
  | .omitted => .omitted

def itemsWithoutOmitted : List ArgumentValue → List ArgumentValue
  | [] => []
  | item :: items => item.withoutOmitted :: itemsWithoutOmitted items

def fieldsWithoutOmitted :
    List (InputField ArgumentValue) → List (InputField ArgumentValue)
  | [] => []
  | ⟨name, type, value⟩ :: fields =>
      if value.isOmitted then fieldsWithoutOmitted fields
      else ⟨name, type, value.withoutOmitted⟩ :: fieldsWithoutOmitted fields

end

mutual

/-- Whether no list in the value, at any depth, has an omitted item. -/
def listsComplete : ArgumentValue → Bool
  | .list items => itemsComplete items
  | .object fields => fieldListsComplete fields
  | _ => true

def itemsComplete : List ArgumentValue → Bool
  | [] => true
  | item :: items =>
    !item.isOmitted && item.listsComplete && itemsComplete items

def fieldListsComplete : List (InputField ArgumentValue) → Bool
  | [] => true
  | ⟨_, _, value⟩ :: fields => value.listsComplete && fieldListsComplete fields

end

mutual

/-- Whether nothing in the value is omitted, and neither is the value. -/
def isComplete : ArgumentValue → Bool
  | .list items => allComplete items
  | .object fields => fieldsComplete fields
  | .omitted => false
  | _ => true

def allComplete : List ArgumentValue → Bool
  | [] => true
  | item :: items => item.isComplete && allComplete items

def fieldsComplete : List (InputField ArgumentValue) → Bool
  | [] => true
  | ⟨_, _, value⟩ :: fields => value.isComplete && fieldsComplete fields

end

@[simp] theorem isOmitted_withoutOmitted (value : ArgumentValue) :
    value.withoutOmitted.isOmitted = value.isOmitted := by
  cases value <;> rfl

mutual

/-- Nothing but items of lists can be omitted in a value without omitted
fields. -/
theorem isComplete_withoutOmitted (value : ArgumentValue)
    (given : value.isOmitted = false) (lists : value.listsComplete = true) :
    value.withoutOmitted.isComplete = true := by
  cases value with
  | literal value => rfl
  | enumeration name => rfl
  | list items => exact allComplete_withoutOmitted items lists
  | object fields => exact fieldsComplete_withoutOmitted fields lists
  | variableRef name => rfl
  | omitted => cases given
termination_by structural value

theorem allComplete_withoutOmitted (items : List ArgumentValue)
    (lists : itemsComplete items = true) :
    allComplete (itemsWithoutOmitted items) = true := by
  cases items with
  | nil => rfl
  | cons item items =>
      simp only [itemsComplete, Bool.and_eq_true, Bool.not_eq_true'] at lists
      obtain ⟨⟨given, first⟩, others⟩ := lists
      rw [itemsWithoutOmitted, allComplete,
        isComplete_withoutOmitted item given first,
        allComplete_withoutOmitted items others, Bool.and_self]
termination_by structural items

theorem fieldsComplete_withoutOmitted (fields : List (InputField ArgumentValue))
    (lists : fieldListsComplete fields = true) :
    fieldsComplete (fieldsWithoutOmitted fields) = true := by
  cases fields with
  | nil => rfl
  | cons field fields =>
      obtain ⟨name, type, value⟩ := field
      obtain ⟨first, others⟩ := Bool.and_eq_true_iff.mp lists
      have rest := fieldsComplete_withoutOmitted fields others
      rw [fieldsWithoutOmitted]
      split
      · exact rest
      · rename_i given
        rw [fieldsComplete,
          isComplete_withoutOmitted value (Bool.eq_false_iff.mpr given) first,
          rest, Bool.and_self]
termination_by structural fields

end

mutual

/-- Omitted fields are not written. -/
theorem render_withoutOmitted (value : ArgumentValue) :
    value.withoutOmitted.render = value.render := by
  cases value with
  | list items =>
      rw [withoutOmitted, render, render, renderItems_withoutOmitted items]
  | object fields =>
      rw [withoutOmitted, render, render, renderFields_withoutOmitted fields]
  | _ => rfl
termination_by structural value

theorem renderItems_withoutOmitted (items : List ArgumentValue) :
    renderItems (itemsWithoutOmitted items) = renderItems items := by
  cases items with
  | nil => rfl
  | cons item items =>
      rw [itemsWithoutOmitted, renderItems, renderItems,
        render_withoutOmitted item, renderItems_withoutOmitted items]
termination_by structural items

theorem renderFields_withoutOmitted (fields : List (InputField ArgumentValue)) :
    renderFields (fieldsWithoutOmitted fields) = renderFields fields := by
  cases fields with
  | nil => rfl
  | cons field fields =>
      obtain ⟨name, type, value⟩ := field
      have others := renderFields_withoutOmitted fields
      rw [fieldsWithoutOmitted, renderFields]
      split
      · exact others
      · rename_i given
        rw [renderFields, isOmitted_withoutOmitted, if_neg given, others,
          render_withoutOmitted value]
termination_by structural fields

end

theorem variableUses_of_isOmitted {value : ArgumentValue}
    (omitted : value.isOmitted = true) (type : TypeRef) :
    value.variableUses type = [] := by
  cases value <;> first | rfl | cases omitted

mutual

/-- Omitted fields use no variables. -/
theorem variableUses_withoutOmitted (value : ArgumentValue) (type : TypeRef) :
    value.withoutOmitted.variableUses type = value.variableUses type := by
  cases value with
  | list items =>
      rw [withoutOmitted, variableUses, variableUses,
        variableUsesOfItems_withoutOmitted items]
  | object fields =>
      rw [withoutOmitted, variableUses, variableUses,
        variableUsesOfFields_withoutOmitted fields]
  | _ => rfl
termination_by structural value

theorem variableUsesOfItems_withoutOmitted (items : List ArgumentValue)
    (element : TypeRef) :
    variableUsesOfItems (itemsWithoutOmitted items) element =
      variableUsesOfItems items element := by
  cases items with
  | nil => rfl
  | cons item items =>
      rw [itemsWithoutOmitted, variableUsesOfItems, variableUsesOfItems,
        variableUses_withoutOmitted item,
        variableUsesOfItems_withoutOmitted items]
termination_by structural items

theorem variableUsesOfFields_withoutOmitted
    (fields : List (InputField ArgumentValue)) :
    variableUsesOfFields (fieldsWithoutOmitted fields) =
      variableUsesOfFields fields := by
  cases fields with
  | nil => rfl
  | cons field fields =>
      obtain ⟨name, type, value⟩ := field
      have others := variableUsesOfFields_withoutOmitted fields
      rw [fieldsWithoutOmitted, variableUsesOfFields]
      split
      · rename_i omitted
        rw [others, variableUses_of_isOmitted omitted, List.nil_append]
      · rw [variableUsesOfFields, others, variableUses_withoutOmitted value]
termination_by structural fields

end

end ArgumentValue

/-! ### Pipelines -/

namespace Argument

def withoutOmitted (argument : Argument) : Argument :=
  ⟨argument.name, argument.value.withoutOmitted⟩

/-- The arguments that are given, without the omitted fields of the input
objects in them. -/
def allWithoutOmitted (arguments : List Argument) : List Argument :=
  (written arguments).map withoutOmitted

@[simp] theorem render_withoutOmitted (argument : Argument) :
    argument.withoutOmitted.render = argument.render := by
  rw [render, render, withoutOmitted, ArgumentValue.render_withoutOmitted]

@[simp] theorem renderAll_withoutOmitted (arguments : List Argument) :
    renderAll (arguments.map withoutOmitted) = renderAll arguments := by
  cases arguments with
  | nil => rfl
  | cons argument arguments =>
      simp only [List.map_cons, renderAll, List.map_map, render_withoutOmitted]
      rw [show render ∘ withoutOmitted =
          render from funext render_withoutOmitted]

end Argument

namespace Pipeline

mutual

/-- The pipeline without its omitted arguments, and without the omitted fields
of the input objects in its arguments. -/
def withoutOmitted : Pipeline → Pipeline
  | .mk source steps => .mk source (stepsWithoutOmitted steps)

def stepsWithoutOmitted : List Step → List Step
  | [] => []
  | step :: steps => stepWithoutOmitted step :: stepsWithoutOmitted steps

def stepWithoutOmitted : Step → Step
  | .call field arguments => .call field (Argument.allWithoutOmitted arguments)
  | .record parameter fields => .record parameter (recordWithoutOmitted fields)
  | .value parameter inner => .value parameter inner.withoutOmitted
  | .toDictionary parameter key value =>
      .toDictionary parameter key.withoutOmitted value.withoutOmitted
  | step => step

def recordWithoutOmitted : List (String × Pipeline) → List (String × Pipeline)
  | [] => []
  | (key, pipeline) :: fields =>
    (key, pipeline.withoutOmitted) :: recordWithoutOmitted fields

end

@[simp] theorem isTerminal_stepWithoutOmitted (step : Step) :
    (stepWithoutOmitted step).isTerminal = step.isTerminal := by
  cases step <;> rfl

@[simp] theorem isAllPages_stepWithoutOmitted (step : Step) :
    (stepWithoutOmitted step).isAllPages = step.isAllPages := by
  cases step <;> rfl

@[simp] theorem reducer?_stepWithoutOmitted (step : Step) :
    (stepWithoutOmitted step).reducer? = step.reducer? := by
  cases step <;> rfl

@[simp] theorem paginates_stepsWithoutOmitted (steps : List Step) :
    (stepsWithoutOmitted steps).head?.any Step.isAllPages =
      steps.head?.any Step.isAllPages := by
  cases steps with
  | nil => rfl
  | cons step steps => exact isAllPages_stepWithoutOmitted step

theorem stepsWithoutOmitted_eq_map (steps : List Step) :
    stepsWithoutOmitted steps = steps.map stepWithoutOmitted := by
  induction steps with
  | nil => rfl
  | cons step steps induction =>
    rw [stepsWithoutOmitted, List.map_cons, induction]

@[simp] theorem endsTerminal_withoutOmitted (pipeline : Pipeline) :
    pipeline.withoutOmitted.endsTerminal = pipeline.endsTerminal := by
  cases pipeline with
  | mk source steps =>
      rw [withoutOmitted, endsTerminal, endsTerminal, Pipeline.steps,
        Pipeline.steps, stepsWithoutOmitted_eq_map, List.getLast?_map,
        Option.any_map]
      exact congrArg (fun test => steps.getLast?.any test)
        (funext isTerminal_stepWithoutOmitted)

mutual

theorem operationKind?_withoutOmitted (pipeline : Pipeline) :
    pipeline.withoutOmitted.operationKind? = pipeline.operationKind? := by
  cases pipeline with
  | mk source steps =>
      rw [withoutOmitted, operationKind?, operationKind?,
        operationKindOfSteps?_withoutOmitted steps]
termination_by structural pipeline

theorem operationKindOfSteps?_withoutOmitted (steps : List Step) :
    operationKindOfSteps? (stepsWithoutOmitted steps) =
      operationKindOfSteps? steps := by
  cases steps with
  | nil => rfl
  | cons step steps =>
      have rest := operationKindOfSteps?_withoutOmitted steps
      cases step with
      | record parameter fields =>
          rw [stepsWithoutOmitted, stepWithoutOmitted, operationKindOfSteps?,
            operationKindOfSteps?, operationKindOfFields?_withoutOmitted fields,
            rest]
      | value parameter inner =>
          rw [stepsWithoutOmitted, stepWithoutOmitted, operationKindOfSteps?,
            operationKindOfSteps?, operationKind?_withoutOmitted inner, rest]
      | toDictionary parameter key value =>
          rw [stepsWithoutOmitted, stepWithoutOmitted, operationKindOfSteps?,
            operationKindOfSteps?, operationKind?_withoutOmitted key,
            operationKind?_withoutOmitted value, rest]
      | _ => exact rest
termination_by structural steps

theorem operationKindOfFields?_withoutOmitted
    (fields : List (String × Pipeline)) :
    operationKindOfFields? (recordWithoutOmitted fields) =
      operationKindOfFields? fields := by
  cases fields with
  | nil => rfl
  | cons field fields =>
      obtain ⟨key, pipeline⟩ := field
      rw [recordWithoutOmitted, operationKindOfFields?, operationKindOfFields?,
        operationKind?_withoutOmitted pipeline,
        operationKindOfFields?_withoutOmitted fields]
termination_by structural fields

end

/-- Whether no list in the arguments has an omitted item. -/
def ListsComplete (_ : FieldDefinition) (arguments : List Argument) : Prop :=
  ∀ argument ∈ arguments, argument.value.listsComplete = true

/-- Whether nothing is omitted in the arguments. -/
def NothingOmitted (_ : FieldDefinition) (arguments : List Argument) : Prop :=
  ∀ argument ∈ arguments, argument.value.isComplete = true

instance (field : FieldDefinition) (arguments : List Argument) :
    Decidable (ListsComplete field arguments) :=
  inferInstanceAs
    (Decidable (∀ argument ∈ arguments, argument.value.listsComplete = true))

instance (field : FieldDefinition) (arguments : List Argument) :
    Decidable (NothingOmitted field arguments) :=
  inferInstanceAs
    (Decidable (∀ argument ∈ arguments, argument.value.isComplete = true))

theorem nothingOmitted_allWithoutOmitted (field : FieldDefinition)
    {arguments : List Argument}
    (lists : ListsComplete field arguments) :
    NothingOmitted field (Argument.allWithoutOmitted arguments) := by
  intro argument member
  obtain ⟨original, isWritten, rfl⟩ := List.mem_map.mp member
  obtain ⟨given, written⟩ := List.mem_filter.mp isWritten
  exact ArgumentValue.isComplete_withoutOmitted _ (by simpa using written)
    (lists original given)

theorem nothingOmitted_nil (field : FieldDefinition) :
    NothingOmitted field [] := by
  intro argument member
  cases member

mutual

/-- Nothing is omitted any more if only arguments and fields of input objects
were. -/
theorem eachField_withoutOmitted (pipeline : Pipeline)
    (lists : pipeline.EachField ListsComplete) :
    pipeline.withoutOmitted.EachField NothingOmitted := by
  cases pipeline with
  | mk source steps => exact eachFieldOfSteps_withoutOmitted steps lists
termination_by structural pipeline

theorem eachFieldOfSteps_withoutOmitted (steps : List Step)
    (lists : EachFieldOfSteps ListsComplete steps) :
    EachFieldOfSteps NothingOmitted (stepsWithoutOmitted steps) := by
  cases steps with
  | nil => trivial
  | cons step steps =>
      exact ⟨eachFieldOfStep_withoutOmitted step lists.1,
        eachFieldOfSteps_withoutOmitted steps lists.2⟩
termination_by structural steps

theorem eachFieldOfStep_withoutOmitted (step : Step)
    (lists : EachFieldOfStep ListsComplete step) :
    EachFieldOfStep NothingOmitted (stepWithoutOmitted step) := by
  cases step with
  | property field => exact nothingOmitted_nil field
  | call field arguments => exact nothingOmitted_allWithoutOmitted field lists
  | allPages nodes => exact nothingOmitted_nil nodes
  | record parameter fields =>
    exact eachFieldOfRecord_withoutOmitted fields lists
  | value parameter inner => exact eachField_withoutOmitted inner lists
  | toDictionary parameter key value =>
      exact ⟨eachField_withoutOmitted key lists.1,
        eachField_withoutOmitted value lists.2⟩
  | cast typeName => trivial
  | filter typeName => trivial
  | single => trivial
  | singleOrDefault => trivial
  | toList => trivial
termination_by structural step

theorem eachFieldOfRecord_withoutOmitted (fields : List (String × Pipeline))
    (lists : EachFieldOfRecord ListsComplete fields) :
    EachFieldOfRecord NothingOmitted (recordWithoutOmitted fields) := by
  cases fields with
  | nil => trivial
  | cons field fields =>
      obtain ⟨key, pipeline⟩ := field
      exact ⟨eachField_withoutOmitted pipeline lists.1,
        eachFieldOfRecord_withoutOmitted fields lists.2⟩
termination_by structural fields

end

end Pipeline

/-! ### Selections -/

def FieldRecord.withoutOmitted (field : FieldRecord) : FieldRecord :=
  { field with arguments := field.arguments.map Argument.withoutOmitted }

def SetRecord.withoutOmitted (set : SetRecord) : SetRecord :=
  { set with fields := set.fields.map FieldRecord.withoutOmitted }

@[simp] theorem signature_withoutOmitted (name : String)
    (arguments : List Argument) :
    signature name (arguments.map Argument.withoutOmitted) =
      signature name arguments := by
  rw [signature, signature, Argument.renderAll_withoutOmitted]

namespace Selections

/-- The arena without the omitted fields in the arguments it records. -/
def withoutOmitted (selections : Selections) : Selections :=
  { selections with sets := selections.sets.map SetRecord.withoutOmitted }

theorem set_withoutOmitted (selections : Selections) (id : SetId) :
    selections.withoutOmitted.set id = (selections.set id).withoutOmitted := by
  rw [set, set, withoutOmitted, List.getElem?_map]
  cases selections.sets[id]? <;> rfl

theorem pushSet_withoutOmitted (selections : Selections)
    (keySpace : KeySpaceId) :
    selections.withoutOmitted.pushSet keySpace =
      ((selections.pushSet keySpace).1,
       (selections.pushSet keySpace).2.withoutOmitted) := by
  simp [pushSet, withoutOmitted, SetRecord.withoutOmitted, SetRecord.empty]

theorem modifySet_withoutOmitted (selections : Selections) (id : SetId)
    (change other : SetRecord → SetRecord)
    (same : ∀ set, (change set).withoutOmitted = other set.withoutOmitted) :
    (selections.modifySet id change).withoutOmitted =
      selections.withoutOmitted.modifySet id other := by
  simp only [modifySet, withoutOmitted, Selections.mk.injEq, and_true]
  apply List.ext_getElem?
  intro index
  simp only [List.getElem?_map, List.getElem?_modify]
  cases selections.sets[index]? with
  | none => rfl
  | some set =>
      simp only [Option.map_eq_map, Option.map_some]
      split
      · exact congrArg some (same set)
      · rfl

theorem takeKey_withoutOmitted (selections : Selections) (keySpace : KeySpaceId)
    (name signature : String) (type : TypeRef) :
    selections.withoutOmitted.takeKey keySpace name signature type =
      ((selections.takeKey keySpace name signature type).1,
        (selections.takeKey keySpace name signature
          type).2.withoutOmitted) := by
  unfold takeKey
  cases type.kind.isComposite <;> rfl

theorem resolveKey_withoutOmitted (selections : Selections)
    (keySpace : KeySpaceId) (name signature : String) (type : TypeRef) :
    selections.withoutOmitted.resolveKey keySpace name signature type =
      (selections.resolveKey keySpace name signature type).map
        fun resolved => (resolved.1, resolved.2.withoutOmitted) := by
  have sameKeys : selections.withoutOmitted.keyOf? keySpace signature =
      selections.keyOf? keySpace signature := rfl
  unfold resolveKey
  rw [sameKeys, takeKey_withoutOmitted]
  split
  · split <;> rfl
  · rfl

theorem pushField_withoutOmitted (selections : Selections) (parent : SetId)
    (name signature : String) (type : TypeRef) (arguments : List Argument)
    (key : String) (keySpace : Option KeySpaceId) :
    selections.withoutOmitted.pushField parent name signature type
        (arguments.map Argument.withoutOmitted) key keySpace =
      ((selections.pushField parent name signature type arguments key
        keySpace).1,
        (selections.pushField parent name signature type arguments key
          keySpace).2.withoutOmitted) := by
  cases keySpace with
  | none =>
      simp only [pushField, FieldRecord.selected, Prod.mk.injEq, true_and]
      refine (modifySet_withoutOmitted selections parent _ _ fun set => ?_).symm
      simp [SetRecord.withoutOmitted, FieldRecord.withoutOmitted]
  | some keySpace =>
      simp only [pushField, pushSet_withoutOmitted, FieldRecord.selected,
        Prod.mk.injEq, true_and]
      refine (modifySet_withoutOmitted _ parent _ _ fun set => ?_).symm
      simp [SetRecord.withoutOmitted, FieldRecord.withoutOmitted]

theorem find?_withoutOmitted (fields : List FieldRecord) (text : String) :
    (fields.map FieldRecord.withoutOmitted).find? (·.signature == text) =
      (fields.find? (·.signature == text)).map FieldRecord.withoutOmitted := by
  rw [List.find?_map]
  rfl

/-- A field is selected under the same key with and without what is omitted. -/
theorem field_withoutOmitted (selections : Selections) (parent : SetId)
    (definition : FieldDefinition) (arguments : List Argument) :
    selections.withoutOmitted.field parent definition
        (arguments.map Argument.withoutOmitted) =
      (selections.field parent definition arguments).map
        fun selected => (selected.1, selected.2.withoutOmitted) := by
  unfold field
  simp only [signature_withoutOmitted, set_withoutOmitted,
    SetRecord.withoutOmitted, find?_withoutOmitted]
  cases (selections.set parent).fields.find? _ with
  | some known =>
      simp only [Option.map_some, FieldRecord.withoutOmitted]
      split <;> rfl
  | none =>
      simp only [Option.map_none, resolveKey_withoutOmitted]
      cases selections.resolveKey _ _ _ _ with
      | error conflict => rfl
      | ok resolved => simp only [Except.map, pushField_withoutOmitted]

theorem fragment_withoutOmitted (selections : Selections) (parent : SetId)
    (typeName : String) :
    selections.withoutOmitted.fragment parent typeName =
      ((selections.fragment parent typeName).1,
        (selections.fragment parent typeName).2.withoutOmitted) := by
  unfold fragment
  have required := modifySet_withoutOmitted selections parent
    (fun set => { set with requiresTypename := true })
    (fun set => { set with requiresTypename := true }) fun _ => rfl
  simp only [← required, set_withoutOmitted, SetRecord.withoutOmitted,
    pushSet_withoutOmitted]
  split
  · rfl
  · simp only [Prod.mk.injEq, true_and]
    exact (modifySet_withoutOmitted _ parent
      (fun set =>
        { set with fragments := Entries.put set.fragments typeName _ }) _
      fun _ => rfl).symm

end Selections

/-- The state without the omitted fields in the arguments its arena records. -/
def CompileState.withoutOmitted (state : CompileState) : CompileState :=
  { state with selections := state.selections.withoutOmitted }

/-! ### Compilations in lockstep -/

namespace Compile

variable {α β : Type}

/-- Where the first action succeeds, the second returns the same and leaves the
same state, but for what is omitted in its arena. -/
structure Follows (action other : Compile α) : Prop where
  run :
    ∀ {before after : CompileState} {value : α},
      action before = .ok (value, after) →
      other before.withoutOmitted = .ok (value, after.withoutOmitted)

theorem Follows.pure (value : α) : Follows (pure value) (pure value) := by
  constructor
  intro before after result success
  obtain ⟨rfl, rfl⟩ := pure_eq_ok.mp success
  rfl

theorem Follows.throw (error : CompileError) (other : Compile α) :
    Follows (throw error) other := by
  constructor
  intro before after result success
  exact (throw_eq_ok.mp success).elim

theorem Follows.lift (action : Except CompileError α) :
    Follows (liftM action) (liftM action) := by
  constructor
  intro before after value success
  obtain ⟨rfl, rfl⟩ := liftM_eq_ok.mp success
  rfl

theorem Follows.bind {action other : Compile α} {next rest : α → Compile β}
    (first : Follows action other)
    (then_ : ∀ value, Follows (next value) (rest value)) :
    Follows (action >>= next) (other >>= rest) := by
  constructor
  intro before after result success
  obtain ⟨value, middle, done, remaining⟩ := bind_eq_ok.mp success
  rw [bind_of_ok (first.run done)]
  exact (then_ value).run remaining

theorem declare_follows (name : String) (type : TypeRef) :
    Follows (declare name type) (declare name type) := by
  constructor
  intro before after result success
  simp only [declare, bind_eq_ok, get_eq_ok] at success ⊢
  obtain ⟨_, _, ⟨rfl, rfl⟩, success⟩ := success
  refine ⟨_, _, ⟨rfl, rfl⟩, ?_⟩
  simp only [CompileState.withoutOmitted]
  cases known : Entries.lookup? before.variableTypes name with
  | none =>
      simp only [known] at success
      rw [← set_eq_ok.mp success]
      rfl
  | some declared =>
      simp only [known] at success ⊢
      split at success
      · rename_i same
        rw [if_pos same]
        exact (Follows.pure ()).run success
      · exact (throw_eq_ok.mp success).elim

theorem declareAll_follows (uses : List (String × TypeRef)) :
    Follows (declareAll uses) (declareAll uses) := by
  induction uses with
  | nil => exact .pure ()
  | cons use uses induction =>
      obtain ⟨name, type⟩ := use
      exact (declare_follows name type).bind fun _ => induction

theorem selectIn_follows (set : SetId) (definition : FieldDefinition)
    (arguments : List Argument) :
    Follows (selectIn set definition arguments)
      (selectIn set definition (arguments.map Argument.withoutOmitted)) := by
  constructor
  intro before after selected success
  obtain ⟨selections, result, rfl⟩ := selectIn_eq_ok success
  have same :=
    Selections.field_withoutOmitted before.selections set definition arguments
  rw [result] at same
  rw [selectIn, bind_of_ok (get_eq_ok.mpr ⟨rfl, rfl⟩)]
  simp only [CompileState.withoutOmitted, same]
  rfl

theorem selectPlain_follows (set : SetId) (definition : FieldDefinition) :
    Follows (selectIn set definition []) (selectIn set definition []) :=
  selectIn_follows set definition []

theorem fragmentIn_follows (set : SetId) (typeName : String) :
    Follows (fragmentIn set typeName) (fragmentIn set typeName) := by
  constructor
  intro before after id success
  obtain ⟨rfl, rfl⟩ := fragmentIn_eq_ok success
  rw [fragmentIn, bind_of_ok (get_eq_ok.mpr ⟨rfl, rfl⟩)]
  simp only [CompileState.withoutOmitted, Selections.fragment_withoutOmitted]
  rfl

theorem pushSubquery_follows (variableName : String)
    (initialCursor : Option String) (path : List String) (keys : PageKeys) :
    Follows (pushSubquery variableName initialCursor path keys)
      (pushSubquery variableName initialCursor path keys) := by
  constructor
  intro before after id success
  obtain ⟨rfl, rfl⟩ := pushSubquery_eq_ok success
  rfl

theorem initialCursor_withoutOmitted (field : FieldDefinition)
    (value : ArgumentValue) :
    initialCursor field value.withoutOmitted = initialCursor field value := by
  cases value <;> rfl

theorem initialCursor_follows (field : FieldDefinition)
    (value : ArgumentValue) :
    Follows (initialCursor field value) (initialCursor field value) := by
  cases value with
  | variableRef name => exact .throw _ _
  | literal value => exact .pure _
  | enumeration name => exact .pure _
  | list items => exact .pure _
  | object fields => exact .pure _
  | omitted => exact .pure _

/-- What is passed to a field is passed without what is omitted.  The names of
the arguments left out are not looked up any more. -/
theorem passArguments_follows {field : FieldDefinition} {paginate : Bool}
    {arguments written : List Argument} {cursor found : Option String}
    {before after : CompileState}
    (success : passArguments field paginate arguments cursor before =
      .ok ((written, found), after)) :
    passArguments field paginate (Argument.allWithoutOmitted arguments) cursor
        before.withoutOmitted =
      .ok ((written.map Argument.withoutOmitted, found),
           after.withoutOmitted) := by
  induction arguments generalizing before cursor written found after with
  | nil =>
      obtain ⟨same, rfl⟩ := pure_eq_ok.mp success
      obtain ⟨rfl, rfl⟩ := Prod.mk.inj same
      rfl
  | cons argument arguments induction =>
      obtain ⟨name, value⟩ := argument
      unfold passArguments at success
      cases known : field.argument? name with
      | none => simp [known] at success
      | some definition =>
          simp only [known] at success
          cases omitted : value.isOmitted with
          | true =>
              simp only [omitted, if_true] at success
              have skipped :
                  Argument.allWithoutOmitted (⟨name, value⟩ :: arguments) =
                    Argument.allWithoutOmitted arguments := by
                simp [Argument.allWithoutOmitted, Argument.written, omitted]
              rw [skipped]
              exact induction success
          | false =>
              have kept :
                  Argument.allWithoutOmitted (⟨name, value⟩ :: arguments) =
                    ⟨name, value.withoutOmitted⟩ ::
                      Argument.allWithoutOmitted arguments := by
                simp [Argument.allWithoutOmitted, Argument.written,
                  Argument.withoutOmitted, omitted]
              rw [kept]
              unfold passArguments
              simp only [omitted, Bool.false_eq_true, if_false] at success
              simp only [known, ArgumentValue.isOmitted_withoutOmitted, omitted,
                Bool.false_eq_true, if_false]
              split at success
              · rename_i replaced
                obtain ⟨start, middle, started, rest⟩ := bind_eq_ok.mp success
                rw [if_pos replaced, initialCursor_withoutOmitted,
                  bind_of_ok ((initialCursor_follows field value).run started)]
                exact induction rest
              · rename_i kept
                obtain ⟨_, middle, declaring, rest⟩ := bind_eq_ok.mp success
                obtain ⟨⟨others, last⟩, _, passing, same⟩ := bind_eq_ok.mp rest
                obtain ⟨sameWritten, rfl⟩ := pure_eq_ok.mp same
                obtain ⟨rfl, rfl⟩ := Prod.mk.inj sameWritten
                rw [if_neg kept, ArgumentValue.variableUses_withoutOmitted,
                  bind_of_ok ((declareAll_follows _).run declaring),
                  bind_of_ok (induction passing)]
                rfl

theorem selectableObject_follows (chain : Chain) (field : String) :
    Follows (selectableObject chain field) (selectableObject chain field) := by
  unfold selectableObject
  split
  · exact .pure _
  · exact .throw _ _
  · exact .throw _ _

theorem preparePage_follows (chain : Chain) (field : FieldDefinition)
    (cursor : Option String) :
    Follows (preparePage chain field cursor)
      (preparePage chain field cursor) := by
  unfold preparePage
  cases field.isConnection with
  | false => exact .throw _ _
  | true =>
      cases chain.repeated with
      | true => exact .throw _ _
      | false =>
          constructor
          intro before after prepared success
          obtain ⟨_, _, reading, declaring⟩ := bind_eq_ok.mp success
          obtain ⟨rfl, rfl⟩ := get_eq_ok.mp reading
          exact ((declare_follows _ _).bind fun _ => .pure _).run declaring

theorem selectField_follows (chain : Chain) (field : FieldDefinition)
    (arguments : List Argument) (paginate : Bool) :
    Follows (selectField chain field arguments paginate)
      (selectField chain field (Argument.allWithoutOmitted arguments)
        paginate) := by
  unfold selectField
  refine (selectableObject_follows chain field.name).bind fun object => ?_
  constructor
  intro before after next success
  obtain ⟨⟨written, cursor⟩, middle, passing, rest⟩ := bind_eq_ok.mp success
  rw [bind_of_ok (passArguments_follows passing)]
  cases paginate with
  | true =>
      obtain ⟨⟨cursorArgument, page⟩, _, preparing, rest⟩ := bind_eq_ok.mp rest
      obtain ⟨-, -, -, rfl, -⟩ := preparePage_spec preparing
      refine (bind_of_ok
        ((preparePage_follows chain field cursor).run preparing)).trans ?_
      have selecting := selectIn_follows object.set field
        (written ++ [⟨"after", .variableRef page.variableName⟩])
      rw [List.map_append] at selecting
      exact (selecting.bind fun _ => .lift _).run rest
  | false =>
      exact ((selectIn_follows object.set field written).bind
        fun _ => .lift _).run rest

theorem selectPageInfo_follows (connection : ObjectPosition) :
    Follows (selectPageInfo connection) (selectPageInfo connection) := by
  unfold selectPageInfo
  refine (selectPlain_follows _ _).bind fun pageInfo => ?_
  cases pageInfo.child with
  | none => exact .throw _ _
  | some set =>
      exact (selectPlain_follows _ _).bind
        fun _ => (selectPlain_follows _ _).bind fun _ =>
        .pure _

theorem selectAllPages_follows (chain : Chain) (nodes : FieldDefinition) :
    Follows (selectAllPages chain nodes) (selectAllPages chain nodes) := by
  unfold selectAllPages
  split
  · split
    · exact .throw _ _
    · refine (selectPageInfo_follows _).bind
        fun _ => (selectPlain_follows _ _).bind fun selected => ?_
      cases selected.child with
      | none => exact .throw _ _
      | some set => exact (pushSubquery_follows _ _ _ _).bind fun _ => .pure _
  · exact .throw _ _

theorem narrowableObject_follows (chain : Chain) (reducer : String) :
    Follows (narrowableObject chain reducer)
      (narrowableObject chain reducer) := by
  unfold narrowableObject
  split
  · split
    · exact .pure _
    · exact .throw _ _
  · exact .throw _ _

theorem narrow_follows (chain : Chain) (object : ObjectPosition)
    (typeName : String) (mode : NarrowingMode) :
    Follows (narrow chain object typeName mode)
      (narrow chain object typeName mode) :=
  (fragmentIn_follows _ _).bind fun _ => .pure _

theorem castTo_follows (chain : Chain) (typeName : String) :
    Follows (castTo chain typeName) (castTo chain typeName) :=
  (narrowableObject_follows _ _).bind fun _ => narrow_follows _ _ _ _

theorem filterTo_follows (chain : Chain) (typeName : String) :
    Follows (filterTo chain typeName) (filterTo chain typeName) := by
  unfold filterTo
  refine (narrowableObject_follows _ _).bind fun object => ?_
  cases chain.list with
  | some index => exact narrow_follows _ _ _ _
  | none =>
      cases object.absentOk with
      | true => exact narrow_follows _ _ _ _
      | false => exact .throw _ _

theorem endSingle_follows (chain : Chain) (reducer : String)
    (enforceSingle : Bool) :
    Follows (endSingle chain reducer enforceSingle)
      (endSingle chain reducer enforceSingle) := by
  unfold endSingle
  split
  · exact .throw _ _
  · split
    · exact .throw _ _
    · exact .pure _

theorem endList_follows (chain : Chain) :
    Follows (endList chain) (endList chain) := by
  unfold endList
  split
  · exact .pure _
  · exact .throw _ _

theorem dictionaryObject_follows (chain : Chain) :
    Follows (dictionaryObject chain) (dictionaryObject chain) := by
  unfold dictionaryObject
  split
  · exact .throw _ _
  · exact .pure _
  · exact .throw _ _

theorem projectedObject_follows (chain : Chain) :
    Follows (projectedObject chain) (projectedObject chain) := by
  unfold projectedObject
  split
  · exact .pure _
  · exact .throw _ _

theorem rejoin_follows (outer inner : Chain) :
    Follows (rejoin outer inner) (rejoin outer inner) := by
  unfold rejoin
  split
  · exact .throw _ _
  · exact .pure _
  · exact .pure _

theorem finish_follows (chain : Chain) :
    Follows (finish chain) (finish chain) :=
  .lift _

/-! ### Walks in lockstep -/

open Pipeline

mutual

theorem walkPipeline_follows (scopes : Scopes) (frames : List Frame)
    (pipeline : Pipeline) :
    Follows (walkPipeline scopes frames pipeline)
      (walkPipeline scopes frames pipeline.withoutOmitted) := by
  cases pipeline with
  | mk source steps =>
      unfold withoutOmitted walkPipeline
      cases scopes.resolve? source with
      | none => exact .throw _ _
      | some resolved => exact walk_follows scopes steps _
termination_by structural pipeline

theorem walk_follows (scopes : Scopes) (steps : List Step) (chain : Chain) :
    Follows (walk scopes steps chain)
      (walk scopes (stepsWithoutOmitted steps) chain) := by
  cases steps with
  | nil => exact .pure _
  | cons step steps =>
      unfold stepsWithoutOmitted walk
      simp only [paginates_stepsWithoutOmitted, isTerminal_stepWithoutOmitted,
        reducer?_stepWithoutOmitted]
      cases chain.terminal with
      | some reducer => exact .throw _ _
      | none =>
          exact (walkStep_follows scopes step _ chain).bind fun _ =>
            walk_follows scopes steps _
termination_by structural steps

theorem walkStep_follows (scopes : Scopes) (step : Step) (paginate : Bool)
    (chain : Chain) :
    Follows (walkStep scopes step paginate chain)
      (walkStep scopes (stepWithoutOmitted step) paginate chain) := by
  cases step with
  | property field => exact selectField_follows chain field [] paginate
  | call field arguments =>
    exact selectField_follows chain field arguments paginate
  | allPages nodes => exact selectAllPages_follows chain nodes
  | record parameter fields =>
      exact (projectedObject_follows chain).bind fun _ =>
        (compileFields_follows _ fields).bind fun _ => .pure _
  | value parameter inner =>
      unfold stepWithoutOmitted walkStep
      refine (projectedObject_follows chain).bind fun object => ?_
      rw [endsTerminal_withoutOmitted]
      split
      · exact ((walkPipeline_follows _ _ inner).bind
          fun _ => finish_follows _).bind fun _ => .pure _
      · exact (walkPipeline_follows _ _ inner).bind fun _ => rejoin_follows _ _
  | cast typeName => exact castTo_follows chain typeName
  | filter typeName => exact filterTo_follows chain typeName
  | single => exact endSingle_follows chain _ _
  | singleOrDefault => exact endSingle_follows chain _ _
  | toList => exact endList_follows chain
  | toDictionary parameter key value =>
      exact (dictionaryObject_follows chain).bind fun _ =>
        ((walkPipeline_follows _ _ key).bind
          fun _ => finish_follows _).bind fun _ =>
          ((walkPipeline_follows _ _ value).bind
            fun _ => finish_follows _).bind fun _ =>
            .pure _
termination_by structural step

theorem compileFields_follows (scopes : Scopes)
    (fields : List (String × Pipeline)) :
    Follows (compileFields scopes fields)
      (compileFields scopes (recordWithoutOmitted fields)) := by
  cases fields with
  | nil => exact .pure _
  | cons field fields =>
      obtain ⟨key, pipeline⟩ := field
      exact ((walkPipeline_follows scopes [] pipeline).bind
        fun _ => finish_follows _).bind
        fun _ => (compileFields_follows scopes fields).bind fun _ => .pure _
termination_by structural fields

end

end Compile

end GraphPipeline
