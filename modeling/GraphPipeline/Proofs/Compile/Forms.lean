import GraphPipeline.Proofs.Compile.ListFilters

/-!
# Forms

What a pipeline leads to can be read off its steps: an object, a value or a
dictionary, once or for each element of a list.  The chain of a walk has the
form of the steps it has walked.
-/

namespace GraphPipeline

/-- What stands at a position.  A value that is a list is not gone into. -/
inductive Position.Kind where
  | object
  | value (isList : Bool)
  | dictionary
  deriving DecidableEq

def Position.kind : Position → Position.Kind
  | .object _ => .object
  | .value _ isList => .value isList
  | .dictionary _ => .dictionary

/-- What steps lead to.  If it is mapped, it stands for each element of a
list. -/
structure Form where
  kind : Position.Kind
  mapped : Bool
  deriving DecidableEq

namespace Form

/-- An object of which there is one. -/
def object : Form :=
  { kind := .object, mapped := false }

/-- The elements of a list of objects. -/
def objects : Form :=
  { kind := .object, mapped := true }

/-- A field goes on inside of its objects, or ends with its value. -/
def field (before : Form) (type : TypeRef) : Form :=
  if type.kind.isComposite then
    { kind := .object, mapped := before.mapped || type.isList }
  else { before with kind := .value type.isList }

/-- A value of its own in place of an object. -/
def made (before : Form) : Form :=
  { before with kind := .value false }

/-- A projection goes on inside of an element. -/
def project (before inner : Form) : Form :=
  { inner with mapped := before.mapped || inner.mapped }

/-- Whether the whole is a list. -/
def isList (form : Form) : Bool :=
  form.mapped || form.kind == .value true

end Form

mutual

def Pipeline.form : Pipeline → Form
  | .mk _ steps => Pipeline.formOfSteps steps .object

def Pipeline.formOfSteps : List Step → Form → Form
  | [], before => before
  | step :: steps, before =>
    Pipeline.formOfSteps steps (Pipeline.formOfStep step before)

def Pipeline.formOfStep : Step → Form → Form
  | .property definition, before => before.field definition.type
  | .call definition _, before => before.field definition.type
  | .allPages _, _ => .objects
  | .record _ _, before => before.made
  | .value _ inner, before =>
      if inner.endsTerminal then before.made else before.project inner.form
  | .cast _, before => before
  | .filter _, before => before
  | .single, before => before
  | .singleOrDefault, before => before
  | .toList, before => before
  | .toDictionary _ _ _, before => { before with kind := .dictionary }

end

namespace Chain

/-- The form of a chain. -/
def form (chain : Chain) : Form :=
  { kind := chain.position.kind, mapped := chain.list.isSome }

theorem isList_eq_form (chain : Chain) : chain.isList = chain.form.isList := by
  unfold isList Form.isList form
  cases chain.position with
  | object object => rfl
  | value program isList => cases isList <;> rfl
  | dictionary entry => rfl

theorem form_of_object {chain : Chain} {object : ObjectPosition}
    (atObject : chain.position = .object object) :
    chain.form = { kind := .object, mapped := chain.list.isSome } := by
  rw [form, atObject]
  rfl

/-- An object of the form of a chain. -/
theorem object_of_kind {chain : Chain} (kind : chain.form.kind = .object) :
    ∃ object, chain.position = .object object := by
  cases position : chain.position with
  | object object => exact ⟨object, rfl⟩
  | value program isList =>
      rw [form, position] at kind
      cases kind
  | dictionary entry =>
      rw [form, position] at kind
      cases kind

theorem form_endedBy (chain : Chain) (step : Step) :
    (chain.endedBy step).form = chain.form := by
  unfold endedBy
  split <;> rfl

/-- A step that leaves a chain open is not terminal. -/
theorem isTerminal_of_endedBy {chain : Chain} {step : Step}
    (goesOn : (chain.endedBy step).terminal = none) :
    step.isTerminal = false := by
  cases ends : step.isTerminal with
  | false => rfl
  | true =>
      rw [endedBy, if_pos ends] at goesOn
      exact absurd goesOn (Step.reducer?_of_isTerminal ends)

theorem form_counted (chain : Chain) (mode : NarrowingMode) :
    (chain.counted mode).form = chain.form := by
  unfold counted
  split <;> rfl

theorem form_continued {chain last : Chain} (depth : Nat) :
    (chain.continued depth last).form = chain.form.project last.form := by
  simp [form, continued, under, Form.project, Option.isSome_or]

/-- Nothing has ended a chain, and its value is not the one of a reducer. -/
structure Unended (chain : Chain) : Prop where
  terminal : chain.terminal = none
  enforceSingle : chain.enforceSingle = false

end Chain

section steps

variable {document : CompileState} {named : String → Prop} {chain next : Chain}

/-- A selected field leads to the form of its type, and nothing is ended by
it. -/
theorem advance_form {object : ObjectPosition} {definition : FieldDefinition}
    {selected : SelectedField}
    (composite : selected.child.isSome = definition.type.kind.isComposite)
    (noList : chain.list = none)
    (advanced : Compile.advance chain object definition selected = .ok next) :
    next.form = chain.form.field definition.type ∧
      (chain.Unended → next.Unended) := by
  unfold Compile.advance at advanced
  cases child : selected.child with
  | none =>
      rw [child] at composite
      simp only [child, Except.ok.injEq] at advanced
      subst next
      exact ⟨by simp [Form.field, ← composite, Chain.form, Position.kind],
        fun unended => ⟨unended.terminal, unended.enforceSingle⟩⟩
  | some set =>
      rw [child] at composite
      cases elementOf : definition.type.element? with
      | none =>
          have single : definition.type.isList = false := by
            rw [TypeRef.isList_eq_isSome_element?, elementOf]
            rfl
          simp only [child, elementOf, guardNull_eq, Chain.push,
            Except.ok.injEq] at advanced
          subst next
          exact ⟨by
              simp [Form.field, ← composite, single, Chain.form, Position.kind,
                noList],
            fun unended => ⟨unended.terminal, unended.enforceSingle⟩⟩
      | some element =>
          have isList : definition.type.isList = true := by
            rw [TypeRef.isList_eq_isSome_element?, elementOf]
            rfl
          simp only [child, elementOf, guardNull_eq, mapList_eq,
            Chain.push] at advanced
          split at advanced
          · cases advanced
          · obtain rfl := Except.ok.inj advanced
            exact ⟨by
                simp [Form.field, ← composite, isList, Chain.form,
                  Position.kind],
              fun unended => ⟨unended.terminal, unended.enforceSingle⟩⟩

theorem selectsField_form (formed : document.WellFormed named)
    {definition : FieldDefinition} {arguments : List Argument} {paginate : Bool}
    (selects :
      Compile.SelectsField document chain definition arguments paginate next) :
    next.form = chain.form.field definition.type ∧
      (chain.Unended → next.Unended) := by
  cases selects with
  | plain atObject noList holds advanced =>
      exact advance_form (holds.isSome_child formed.selections) noList advanced
  | @paged object selected next written page atObject noList _ _ holds
      advanced =>
      let waiting : Chain := { chain with pendingPage := some page }
      have waits : waiting.list = none := noList
      obtain ⟨sameForm, unended⟩ :=
        advance_form (holds.isSome_child formed.selections) waits advanced
      exact ⟨sameForm,
        fun before => unended ⟨before.terminal, before.enforceSingle⟩⟩

theorem selectsPages_form {nodes : FieldDefinition}
    (selects : Compile.SelectsPages document chain nodes next) :
    next.form = .objects ∧ (chain.Unended → next.Unended) := by
  cases selects
  simp only [Chain.throughPages, mapList_eq, Chain.push]
  exact ⟨rfl, fun unended => ⟨unended.terminal, unended.enforceSingle⟩⟩

theorem narrows_form {typeName : String} {mode : NarrowingMode}
    (narrows : Compile.Narrows document chain typeName mode next) :
    next.form = chain.form ∧ (chain.Unended → next.Unended) := by
  cases narrows with
  | @mk object set atObject =>
      have counted := chain.form_counted mode
      rw [Chain.form_of_object atObject] at counted ⊢
      constructor
      · exact congrArg
          (fun form => ({ kind := .object, mapped := form.mapped } : Form))
          counted
      · intro unended
        constructor
        · simp only [Chain.narrowedTo, Chain.counted, Chain.push]
          split <;> exact unended.terminal
        · simp only [Chain.narrowedTo, Chain.counted, Chain.push]
          split <;> exact unended.enforceSingle

/-! ### Walks -/

mutual

/-- The chain of a pipeline has the form of the pipeline. -/
theorem walks_form {scopes : Scopes} {last : Chain} (pipeline : Pipeline)
    (formed : document.WellFormed named)
    (walks : Compile.Walks document scopes pipeline last) :
    last.form = pipeline.form := by
  cases pipeline with
  | mk source steps =>
      cases walks with
      | mk resolved walks => exact walksSteps_form steps formed walks
termination_by structural pipeline

theorem walksSteps_form {scopes : Scopes} {chain last : Chain}
    (steps : List Step) (formed : document.WellFormed named)
    (walks : Compile.WalksSteps document scopes steps chain last) :
    last.form = Pipeline.formOfSteps steps chain.form := by
  cases steps with
  | nil =>
      cases walks
      rfl
  | cons step rest =>
      cases walks with
      | cons terminal first others =>
          rw [walksSteps_form rest formed others, Chain.form_endedBy,
            walksStep_form step formed first]
          rfl
termination_by structural steps

theorem walksStep_form {scopes : Scopes} {paginate : Bool} {chain next : Chain}
    (step : Step) (formed : document.WellFormed named)
    (walks : Compile.WalksStep document scopes step paginate chain next) :
    next.form = Pipeline.formOfStep step chain.form := by
  cases step with
  | property definition =>
      cases walks with
      | property selects => exact (selectsField_form formed selects).1
  | call definition arguments =>
      cases walks with
      | call selects => exact (selectsField_form formed selects).1
  | allPages nodes =>
      cases walks with
      | allPages selects => exact (selectsPages_form selects).1
  | cast typeName =>
      cases walks with
      | cast narrows => exact (narrows_form narrows).1
  | filter typeName =>
      cases walks with
      | filter narrows => exact (narrows_form narrows).1
  | single =>
      cases walks
      rfl
  | singleOrDefault =>
      cases walks
      rfl
  | toList =>
      cases walks
      rfl
  | record parameter fields =>
      cases walks
      rfl
  | value parameter inner =>
      cases walks with
      | valueEnded atObject ended walks finished =>
          rw [Pipeline.formOfStep, if_pos ended]
          rfl
      | valueContinued atObject goesOn walks oneList =>
          rw [Pipeline.formOfStep, if_neg (by simp [goesOn]),
            Chain.form_continued, walks_form inner formed walks]
  | toDictionary parameter key value =>
      cases walks
      rfl
termination_by structural step

end

mutual

/-- A pipeline that ends in no terminal step is not ended. -/
theorem walks_unended {scopes : Scopes} {last : Chain} (pipeline : Pipeline)
    (formed : document.WellFormed named)
    (walks : Compile.Walks document scopes pipeline last)
    (goesOn : pipeline.endsTerminal = false) : last.Unended := by
  cases pipeline with
  | mk source steps =>
      cases walks with
      | mk resolved walks =>
        exact walksSteps_unended steps formed walks ⟨rfl, rfl⟩ goesOn
termination_by structural pipeline

theorem walksSteps_unended {scopes : Scopes} {chain last : Chain}
    (steps : List Step) (formed : document.WellFormed named)
    (walks : Compile.WalksSteps document scopes steps chain last)
    (unended : chain.Unended)
    (goesOn : steps.getLast?.any Step.isTerminal = false) : last.Unended := by
  cases steps with
  | nil =>
      cases walks
      exact unended
  | cons step rest =>
      cases walks with
      | @cons _ _ _ _ next _ terminal first others =>
          -- A terminal step that is not the last one would have stopped the
          -- walk.
          have plain : step.isTerminal = false := by
            cases rest with
            | nil => exact goesOn
            | cons other rest =>
                cases others with
                | cons noTerminal _ _ =>
                    exact Chain.isTerminal_of_endedBy noTerminal
          have nextUnended := walksStep_unended step formed first unended plain
          have lastGoesOn : rest.getLast?.any Step.isTerminal = false := by
            cases rest with
            | nil => rfl
            | cons other rest => exact goesOn
          refine walksSteps_unended rest formed others ?_ lastGoesOn
          rw [Chain.endedBy, if_neg (by simp [plain])]
          exact nextUnended
termination_by structural steps

theorem walksStep_unended {scopes : Scopes} {paginate : Bool}
    {chain next : Chain}
    (step : Step) (formed : document.WellFormed named)
    (walks : Compile.WalksStep document scopes step paginate chain next)
    (unended : chain.Unended) (plain : step.isTerminal = false) :
    next.Unended := by
  cases step with
  | property definition =>
      cases walks with
      | property selects => exact (selectsField_form formed selects).2 unended
  | call definition arguments =>
      cases walks with
      | call selects => exact (selectsField_form formed selects).2 unended
  | allPages nodes =>
      cases walks with
      | allPages selects => exact (selectsPages_form selects).2 unended
  | cast typeName =>
      cases walks with
      | cast narrows => exact (narrows_form narrows).2 unended
  | filter typeName =>
      cases walks with
      | filter narrows => exact (narrows_form narrows).2 unended
  | record parameter fields =>
      cases walks
      exact ⟨unended.terminal, unended.enforceSingle⟩
  | value parameter inner =>
      cases walks with
      | valueEnded atObject ended walks finished =>
          exact ⟨unended.terminal, unended.enforceSingle⟩
      | valueContinued atObject goesOn walks oneList =>
          have inside := walks_unended inner formed walks goesOn
          exact ⟨inside.terminal, inside.enforceSingle⟩
  | single => cases plain
  | singleOrDefault => cases plain
  | toList => cases plain
  | toDictionary parameter key value => cases plain
termination_by structural step

end

end steps

end GraphPipeline
