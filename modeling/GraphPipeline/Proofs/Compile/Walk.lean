import GraphPipeline.Proofs.Compile.Action

/-!
# Walks over pipelines

`Walks` says how a chain comes out of a pipeline when the document is finished:
the selections that were made on the way are looked up in the document and no
state is threaded.  The frames of a nested pipeline are its own; `Chain.under`
puts them inside of the frames around it.
-/

namespace GraphPipeline

mutual

/-- Whether a predicate holds of every field a pipeline selects, with the
arguments it is given. -/
def Pipeline.EachField (holds : FieldDefinition → List Argument → Prop) :
    Pipeline → Prop
  | .mk _ steps => Pipeline.EachFieldOfSteps holds steps

def Pipeline.EachFieldOfSteps (holds : FieldDefinition → List Argument → Prop) :
    List Step → Prop
  | [] => True
  | step :: steps =>
      Pipeline.EachFieldOfStep holds step ∧
        Pipeline.EachFieldOfSteps holds steps

def Pipeline.EachFieldOfStep (holds : FieldDefinition → List Argument → Prop) :
    Step → Prop
  | .property field => holds field []
  | .call field arguments => holds field arguments
  | .allPages nodes => holds nodes []
  | .record _ fields => Pipeline.EachFieldOfRecord holds fields
  | .value _ inner => inner.EachField holds
  | .toDictionary _ key value => key.EachField holds ∧ value.EachField holds
  | .cast _ => True
  | .filter _ => True
  | .single => True
  | .singleOrDefault => True
  | .toList => True

def Pipeline.EachFieldOfRecord
    (holds : FieldDefinition → List Argument → Prop) :
    List (String × Pipeline) → Prop
  | [] => True
  | (_, pipeline) :: fields =>
      pipeline.EachField holds ∧ Pipeline.EachFieldOfRecord holds fields

end

section

variable {holds : FieldDefinition → List Argument → Prop}

mutual

/-- What holds of every field holds of every field of a pipeline. -/
theorem Pipeline.eachField (all : ∀ field arguments, holds field arguments)
    (pipeline : Pipeline) : pipeline.EachField holds := by
  cases pipeline with
  | mk source steps => exact Pipeline.eachFieldOfSteps all steps

theorem Pipeline.eachFieldOfSteps
    (all : ∀ field arguments, holds field arguments) (steps : List Step) :
    Pipeline.EachFieldOfSteps holds steps := by
  cases steps with
  | nil => trivial
  | cons step steps =>
      exact ⟨Pipeline.eachFieldOfStep all step,
        Pipeline.eachFieldOfSteps all steps⟩

theorem Pipeline.eachFieldOfStep
    (all : ∀ field arguments, holds field arguments) (step : Step) :
    Pipeline.EachFieldOfStep holds step := by
  cases step with
  | property field => exact all field []
  | call field arguments => exact all field arguments
  | allPages nodes => exact all nodes []
  | record parameter fields => exact Pipeline.eachFieldOfRecord all fields
  | value parameter inner => exact Pipeline.eachField all inner
  | toDictionary parameter key value =>
      exact ⟨Pipeline.eachField all key, Pipeline.eachField all value⟩
  | cast typeName => trivial
  | filter typeName => trivial
  | single => trivial
  | singleOrDefault => trivial
  | toList => trivial

theorem Pipeline.eachFieldOfRecord
    (all : ∀ field arguments, holds field arguments)
    (fields : List (String × Pipeline)) :
    Pipeline.EachFieldOfRecord holds fields := by
  cases fields with
  | nil => trivial
  | cons field fields =>
      obtain ⟨key, pipeline⟩ := field
      exact ⟨Pipeline.eachField all pipeline,
        Pipeline.eachFieldOfRecord all fields⟩

end

end

section

variable (holds : FieldDefinition → List Argument → Prop)
  [∀ field arguments, Decidable (holds field arguments)]

mutual

def Pipeline.decideEachField :
    (pipeline : Pipeline) → Decidable (pipeline.EachField holds)
  | .mk _ steps => Pipeline.decideEachFieldOfSteps steps

def Pipeline.decideEachFieldOfSteps :
    (steps : List Step) → Decidable (Pipeline.EachFieldOfSteps holds steps)
  | [] => .isTrue trivial
  | step :: steps =>
      match Pipeline.decideEachFieldOfStep step,
      Pipeline.decideEachFieldOfSteps steps with
      | .isTrue first, .isTrue others => .isTrue ⟨first, others⟩
      | .isFalse first, _ => .isFalse fun both => first both.1
      | _, .isFalse others => .isFalse fun both => others both.2

def Pipeline.decideEachFieldOfStep :
    (step : Step) → Decidable (Pipeline.EachFieldOfStep holds step)
  | .property field => inferInstanceAs (Decidable (holds field []))
  | .call field arguments => inferInstanceAs (Decidable (holds field arguments))
  | .allPages nodes => inferInstanceAs (Decidable (holds nodes []))
  | .record _ fields => Pipeline.decideEachFieldOfRecord fields
  | .value _ inner => inner.decideEachField
  | .toDictionary _ key value =>
      match key.decideEachField, value.decideEachField with
      | .isTrue first, .isTrue second => .isTrue ⟨first, second⟩
      | .isFalse first, _ => .isFalse fun both => first both.1
      | _, .isFalse second => .isFalse fun both => second both.2
  | .cast _ => .isTrue trivial
  | .filter _ => .isTrue trivial
  | .single => .isTrue trivial
  | .singleOrDefault => .isTrue trivial
  | .toList => .isTrue trivial

def Pipeline.decideEachFieldOfRecord :
    (fields : List (String × Pipeline)) →
      Decidable (Pipeline.EachFieldOfRecord holds fields)
  | [] => .isTrue trivial
  | (_, pipeline) :: fields =>
      match pipeline.decideEachField,
      Pipeline.decideEachFieldOfRecord fields with
      | .isTrue first, .isTrue others => .isTrue ⟨first, others⟩
      | .isFalse first, _ => .isFalse fun both => first both.1
      | _, .isFalse others => .isFalse fun both => others both.2

end

instance : DecidablePred (Pipeline.EachField holds) :=
  Pipeline.decideEachField holds

end

/-- Terminal steps have names. -/
theorem Step.reducer?_of_isTerminal {step : Step}
    (terminal : step.isTerminal = true) :
    step.reducer? ≠ none := by
  cases step <;> simp_all [Step.isTerminal, Step.reducer?]

/-- The arguments that are written into the document. -/
def Argument.written (arguments : List Argument) : List Argument :=
  arguments.filter fun argument => !argument.value.isOmitted

namespace Chain

/-- The chain with its frames inside of others. -/
def under (chain : Chain) (frames : List Frame) : Chain :=
  { chain with
    frames := frames ++ chain.frames
    list := chain.list.map (frames.length + ·) }

/-- The chain after a filter is counted on the list it is in, if there is
one. -/
def counted (chain : Chain) (mode : NarrowingMode) : Chain :=
  match mode, chain.list with
  | .filter, some index => chain.countFilter index
  | _, _ => chain

/-- The chain inside the objects of one type. -/
def narrowedTo (chain : Chain) (object : ObjectPosition) (typeName : String)
    (mode : NarrowingMode) (set : SetId) : Chain :=
  { (chain.counted mode).push (.narrow typeName mode) with
    position := .object
      { set
        type := TypeRef.object typeName
        absentOk := object.absentOk || mode == .filter
        name := object.name } }

/-- The chain inside the nodes of every page of a connection. -/
def throughPages (chain : Chain) (id : SubqueryId) (keys : PageKeys)
    (node : ObjectPosition) : Chain :=
  { ({ chain with pendingPage := none, path := chain.path ++ [keys.nodes] }.push
      (.subquerySink id keys)).mapList node.type with
    position := .object node }

/-- The chain that goes on inside a projected element. -/
def continued (outer : Chain) (depth : Nat) (inner : Chain) : Chain :=
  let joined := inner.under (outer.frames ++ [.bind depth])
  { joined with list := outer.list.or joined.list }

/-- The chain after a step, which may be the last one. -/
def endedBy (chain : Chain) (step : Step) : Chain :=
  if step.isTerminal then { chain with terminal := step.reducer? } else chain

end Chain

namespace Compile

/-- Goes on at a field.  If its pages are asked for next, the cursor is its last
argument. -/
inductive SelectsField (document : CompileState) (chain : Chain)
    (field : FieldDefinition) (arguments : List Argument) :
    Bool → Chain → Prop where
  | plain {object : ObjectPosition} {selected : SelectedField} {next : Chain} :
      chain.position = .object object →
      chain.list = none →
      document.selections.Holds object.set field (Argument.written arguments)
        selected →
      advance chain object field selected = .ok next →
      SelectsField document chain field arguments false next
  | paged {object : ObjectPosition} {selected : SelectedField} {next : Chain}
      {written : List Argument} {page : PendingPage} :
      chain.position = .object object →
      chain.list = none →
      chain.repeated = false →
      field.isConnection = true →
      document.selections.Holds object.set field
        (written ++ [⟨"after", .variableRef page.variableName⟩]) selected →
      advance { chain with pendingPage := some page } object field selected =
        .ok next →
      SelectsField document chain field arguments true next

/-- Goes on inside the nodes of every page of a connection. -/
inductive SelectsPages (document : CompileState) (chain : Chain)
    (nodes : FieldDefinition) : Chain → Prop where
  | mk {page : PendingPage} {connection : ObjectPosition} {element : TypeRef}
      {pageInfo hasNextPage endCursor selected : SelectedField}
        {info set : SetId}
      {id : SubqueryId} :
      chain.pendingPage = some page →
      chain.position = .object connection →
      nodeType? nodes = some element →
      document.selections.Holds connection.set pageInfoField [] pageInfo →
      pageInfo.child = some info →
      document.selections.Holds info hasNextPageField [] hasNextPage →
      document.selections.Holds info endCursorField [] endCursor →
      document.selections.Holds connection.set nodes [] selected →
      selected.child = some set →
      document.subqueries[id]? = some
        { id
          variableName := page.variableName
          initialCursor := page.initialCursor
          path := chain.path
          keys :=
            ⟨selected.key, pageInfo.key, hasNextPage.key, endCursor.key⟩ } →
      SelectsPages document chain nodes
        (chain.throughPages id
          ⟨selected.key, pageInfo.key, hasNextPage.key, endCursor.key⟩
          { set
            type := element
            absentOk := connection.absentOk || element.isNullable
            name := nodes.name })

/-- Goes on inside the objects of one type. -/
inductive Narrows (document : CompileState) (chain : Chain) (typeName : String)
    (mode : NarrowingMode) : Chain → Prop where
  | mk {object : ObjectPosition} {set : SetId} :
      chain.position = .object object →
      object.type.kind.isPolymorphic = true →
      (mode = .filter → chain.list = none → object.absentOk = true) →
      Entries.lookup? (document.selections.set object.set).fragments typeName =
        some set →
      (document.selections.set object.set).requiresTypename = true →
      Narrows document chain typeName mode
        (chain.narrowedTo object typeName mode set)

mutual

inductive Walks (document : CompileState) :
    Scopes → Pipeline → Chain → Prop where
  | mk {scopes : Scopes} {source : Source} {steps : List Step} {depth : Nat}
      {scope : Scope} {chain : Chain} :
      scopes.resolve? source = some (depth, scope) →
      WalksSteps document scopes steps (.start [] scopes depth scope) chain →
      Walks document scopes (.mk source steps) chain

inductive WalksSteps (document : CompileState) :
    Scopes → List Step → Chain → Chain → Prop where
  | nil {scopes : Scopes} {chain : Chain} :
      WalksSteps document scopes [] chain chain
  | cons {scopes : Scopes} {step : Step} {rest : List Step}
      {chain next last : Chain} :
      chain.terminal = none →
      WalksStep document scopes step (rest.head?.any Step.isAllPages) chain
        next →
      WalksSteps document scopes rest (next.endedBy step) last →
      WalksSteps document scopes (step :: rest) chain last

inductive WalksStep (document : CompileState) :
    Scopes → Step → Bool → Chain → Chain → Prop where
  | property {scopes : Scopes} {field : FieldDefinition} {paginate : Bool}
      {chain next : Chain} :
      SelectsField document chain field [] paginate next →
      WalksStep document scopes (.property field) paginate chain next
  | call {scopes : Scopes} {field : FieldDefinition} {arguments : List Argument}
      {paginate : Bool} {chain next : Chain} :
      SelectsField document chain field arguments paginate next →
      WalksStep document scopes (.call field arguments) paginate chain next
  | allPages {scopes : Scopes} {nodes : FieldDefinition} {paginate : Bool}
      {chain next : Chain} :
      SelectsPages document chain nodes next →
      WalksStep document scopes (.allPages nodes) paginate chain next
  | record {scopes : Scopes} {parameter : Parameter}
      {fields : List (String × Pipeline)} {paginate : Bool} {chain : Chain}
      {object : ObjectPosition} {programs : List (String × Program)} :
      chain.position = .object object →
      WalksFields document (chain.scope parameter object :: scopes) fields
        programs →
      WalksStep document scopes (.record parameter fields) paginate chain
        { chain with
          position :=
            .value ((Program.buildRecord programs).bindIfRead scopes.length)
              false }
  | valueEnded {scopes : Scopes} {parameter : Parameter} {inner : Pipeline}
      {paginate : Bool} {chain last : Chain} {object : ObjectPosition}
      {program : Program} :
      chain.position = .object object →
      inner.endsTerminal = true →
      Walks document (chain.scope parameter object :: scopes) inner last →
      last.finish = .ok program →
      WalksStep document scopes (.value parameter inner) paginate chain
        { chain with
          position := .value (program.bindIfRead scopes.length) false }
  | valueContinued {scopes : Scopes} {parameter : Parameter} {inner : Pipeline}
      {paginate : Bool} {chain last : Chain} {object : ObjectPosition} :
      chain.position = .object object →
      inner.endsTerminal = false →
      Walks document (chain.scope parameter object :: scopes) inner last →
      (chain.list = none ∨ last.list = none) →
      WalksStep document scopes (.value parameter inner) paginate chain
        (chain.continued scopes.length last)
  | cast {scopes : Scopes} {typeName : String} {paginate : Bool}
      {chain next : Chain} :
      Narrows document chain typeName .cast next →
      WalksStep document scopes (.cast typeName) paginate chain next
  | filter {scopes : Scopes} {typeName : String} {paginate : Bool}
      {chain next : Chain} :
      Narrows document chain typeName .filter next →
      WalksStep document scopes (.filter typeName) paginate chain next
  | single {scopes : Scopes} {paginate : Bool} {chain : Chain} :
      chain.isList = false →
      WalksStep document scopes .single paginate chain
        { chain with enforceSingle := true }
  | singleOrDefault {scopes : Scopes} {paginate : Bool} {chain : Chain} :
      chain.isList = false →
      WalksStep document scopes .singleOrDefault paginate chain
        { chain with enforceSingle := false }
  | toList {scopes : Scopes} {paginate : Bool} {chain : Chain} :
      chain.isList = true →
      WalksStep document scopes .toList paginate chain chain
  | toDictionary {scopes : Scopes} {parameter : Parameter}
      {key value : Pipeline} {paginate : Bool}
      {chain keyChain valueChain : Chain} {index : Nat}
      {object : ObjectPosition} {keyProgram valueProgram : Program} :
      chain.list = some index →
      chain.position = .object object →
      Walks document (chain.scope parameter object :: scopes) key keyChain →
      keyChain.finish = .ok keyProgram →
      Walks document (chain.scope parameter object :: scopes) value valueChain →
      valueChain.finish = .ok valueProgram →
      WalksStep document scopes (.toDictionary parameter key value) paginate
        chain { chain with
          position := .dictionary
            ((Program.keyValue keyProgram valueProgram).bindIfRead
              scopes.length) }

inductive WalksFields (document : CompileState) :
    Scopes → List (String × Pipeline) → List (String × Program) → Prop where
  | nil {scopes : Scopes} : WalksFields document scopes [] []
  | cons {scopes : Scopes} {key : String} {pipeline : Pipeline}
      {fields : List (String × Pipeline)} {chain : Chain} {program : Program}
      {programs : List (String × Program)} :
      Walks document scopes pipeline chain →
      chain.finish = .ok program →
      WalksFields document scopes fields programs →
      WalksFields document scopes ((key, pipeline) :: fields)
        ((key, program) :: programs)

end

end Compile

end GraphPipeline
