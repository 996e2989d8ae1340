import GraphPipeline.Proofs.Compile.Mirroring
import GraphPipeline.Proofs.Compile.Seams

/-!
# Stages of a compilation

A compilation walks the pipeline of the caller and, as it comes to them, the
pipelines inside of its steps.  Each is walked step by step, on its own or
inside of the frames of the pipeline around it.  What a compilation can be at is
a stage: the steps of one of these pipelines that have been walked, those that
are left, and the chain between them.  A compilation that fails passes stages as
well.
-/

namespace GraphPipeline

namespace Compile

/-- A place in the walk of a pipeline that is inside of some frames. -/
structure Stage where
  scopes : Scopes
  frames : List Frame
  done : List Step
  rest : List Step
  chain : Chain
  document : CompileState

namespace Stage

/-- The stage before the first step of a pipeline whose source is in scope. -/
def start? (scopes : Scopes) (frames : List Frame) (pipeline : Pipeline)
    (document : CompileState) : Option Stage :=
  (scopes.resolve? pipeline.source).map fun (depth, scope) =>
    { scopes, frames, done := [], rest := pipeline.steps,
      chain := .start frames scopes depth scope, document }

/-- A pipeline is walked from this stage on. -/
theorem exists_start {scopes : Scopes} {frames : List Frame}
    {pipeline : Pipeline} {before after : CompileState} {last : Chain}
    (walking : walkPipeline scopes frames pipeline before = .ok (last, after)) :
    ∃ stage, start? scopes frames pipeline before = some stage ∧
      stage.frames = frames ∧
      stage.done = [] ∧ stage.rest = pipeline.steps ∧
      walk stage.scopes stage.rest stage.chain stage.document =
        .ok (last, after) := by
  cases pipeline with
  | mk source steps =>
      unfold walkPipeline at walking
      cases resolved : scopes.resolve? source with
      | none => simp [resolved] at walking
      | some place =>
          simp only [resolved] at walking
          exact ⟨_, congrArg (Option.map _) resolved, rfl, rfl, rfl, walking⟩

end Stage

/-- A step takes up a pipeline inside of it: the field of a record after the
fields before it, a projection, on its own or as a part of the chain it
continues, the key of a dictionary, or its value after the key. -/
inductive TakesUp (scopes : Scopes) (chain : Chain) (document : CompileState) :
    Step → Scopes → List Frame → Pipeline → CompileState → Prop where
  | field {parameter : Parameter} {earlier later : List (String × Pipeline)}
      {key : String} {pipeline : Pipeline} {object : ObjectPosition}
      {programs : List (String × Program)} {middle : CompileState} :
      chain.position = .object object →
      compileFields (chain.scope parameter object :: scopes) earlier document =
        .ok (programs, middle) →
      TakesUp scopes chain document
        (.record parameter (earlier ++ (key, pipeline) :: later))
        (chain.scope parameter object :: scopes) [] pipeline middle
  | valueEnded {parameter : Parameter} {inner : Pipeline}
      {object : ObjectPosition} :
      chain.position = .object object → inner.endsTerminal = true →
      TakesUp scopes chain document (.value parameter inner)
        (chain.scope parameter object :: scopes) [] inner document
  | valueContinued {parameter : Parameter} {inner : Pipeline}
      {object : ObjectPosition} :
      chain.position = .object object → inner.endsTerminal = false →
      TakesUp scopes chain document (.value parameter inner)
        (chain.scope parameter object :: scopes)
          (chain.frames ++ [.bind scopes.length])
        inner document
  | key {parameter : Parameter} {key value : Pipeline}
      {object : ObjectPosition} :
      chain.list.isSome = true → chain.position = .object object →
      TakesUp scopes chain document (.toDictionary parameter key value)
        (chain.scope parameter object :: scopes) [] key document
  | value {parameter : Parameter} {key value : Pipeline}
      {object : ObjectPosition} {program : Program} {middle : CompileState} :
      chain.list.isSome = true → chain.position = .object object →
      (walkPipeline (chain.scope parameter object :: scopes) [] key >>= finish)
        document =
        .ok (program, middle) →
      TakesUp scopes chain document (.toDictionary parameter key value)
        (chain.scope parameter object :: scopes) [] value middle

/-- The stages of the compilation of a pipeline, whether it succeeds or not. -/
inductive Passes (whole : Pipeline) : Stage → Prop where
  | whole {kind : OperationKind} {stage : Stage} :
      whole.operationKind? = some kind →
      Stage.start? [rootScope kind] [] whole .initial = some stage →
        Passes whole stage
  | step {stage : Stage} {step : Step} {rest : List Step} {next : Chain}
      {document : CompileState} :
      Passes whole stage → stage.rest = step :: rest →
        stage.chain.terminal = none →
      walkStep stage.scopes step (rest.head?.any Step.isAllPages) stage.chain
        stage.document = .ok (next, document) →
      Passes whole
        { stage with
          done :=
            stage.done ++ [step], rest, chain := next.endedBy step, document }
  | inside {stage next : Stage} {step : Step} {rest : List Step}
      {scopes : Scopes} {frames : List Frame} {pipeline : Pipeline}
      {document : CompileState} :
      Passes whole stage → stage.rest = step :: rest →
        stage.chain.terminal = none →
      TakesUp stage.scopes stage.chain stage.document step scopes frames
        pipeline document →
      Stage.start? scopes frames pipeline document = some next →
        Passes whole next

namespace Passes

variable {whole : Pipeline} {stage : Stage}

/-- A walk passes the stage after its last step. -/
theorem walked (passes : Passes whole stage) {last : Chain}
    {document : CompileState}
    (walking : walk stage.scopes stage.rest stage.chain stage.document =
      .ok (last, document)) :
    Passes whole
      { stage with
        done := stage.done ++ stage.rest, rest := [], chain := last,
        document } := by
  obtain ⟨scopes, frames, done, rest, chain, before⟩ := stage
  induction rest generalizing done chain before with
  | nil =>
      simp only [walk, pure_eq_ok] at walking
      obtain ⟨rfl, rfl⟩ := walking
      simpa using passes
  | cons step rest induction =>
      cases terminal : chain.terminal with
      | some reducer => simp [walk, terminal] at walking
      | none =>
          rw [walk_cons _ _ _ terminal] at walking
          simp only [bind_eq_ok] at walking
          obtain ⟨next, middle, first, others⟩ := walking
          have passed := induction _ _ _ (passes.step rfl terminal first) others
          simpa using passed

/-- The chain of a pipeline that is compiled is at a stage with no steps left,
where the program is finished. -/
theorem of_compile {compiled : CompiledOperation}
    (success : compile whole = .ok compiled) :
    ∃ stage, Passes whole stage ∧ stage.frames = [] ∧ stage.done = whole.steps ∧
      stage.rest = [] ∧ stage.chain.finish = .ok compiled.program := by
  obtain ⟨kind, program, document, rooted, compiling, rfl, _⟩ :=
    compile_eq_ok success
  simp only [Compile.pipeline, bind_eq_ok, finish, liftM_eq_ok] at compiling
  obtain ⟨last, _, walking, finished, _⟩ := compiling
  obtain ⟨stage, started, frames, done, rest, walking⟩ :=
    Stage.exists_start walking
  refine ⟨_, (Passes.whole rooted started).walked walking, frames, ?_, rfl,
    finished⟩
  rw [done, rest, List.nil_append]

end Passes

/-- What a stage of a compilation keeps whatever its steps are: the document is
well formed and holds the sets the scopes and the chain are at, and the frames
around the pipeline are around the chain of the pipeline alone, of which a
property holds. -/
structure Stage.Stands (holds : List Step → List Step → Chain → Prop)
    (stage : Stage) :
    Prop where
  formed : stage.document.WellFormed AnyName
  bound : stage.scopes.Within stage.document.selections
  own : ∃ own : Chain, stage.chain = own.under stage.frames ∧
    own.position.Within stage.document.selections ∧
    own.Pends (stage.rest.head?.any Step.isAllPages) stage.document ∧
    holds stage.done stage.rest own

section stands

variable {holds : List Step → List Step → Chain → Prop} {stage : Stage}

theorem Stage.Stands.start {scopes : Scopes} {frames : List Frame}
    {pipeline : Pipeline} {document : CompileState}
    (formed : document.WellFormed AnyName)
    (bound : scopes.Within document.selections)
    (start :
      ∀ depth scope, holds [] pipeline.steps (.start [] scopes depth scope))
    (started : Stage.start? scopes frames pipeline document = some stage) :
    stage.Stands holds := by
  obtain ⟨⟨depth, scope⟩, resolved, rfl⟩ := Option.map_eq_some_iff.mp started
  exact ⟨formed, bound, _, Chain.start_under frames scopes depth scope,
    bound scope (Scopes.mem_of_resolve? resolved), Chain.pends_of_none rfl,
    start depth scope⟩

/-- The pipeline that a step takes up starts in a document as good as that of
the step. -/
theorem TakesUp.stands {before after : CompileState} {outer scopes : Scopes}
    {frames : List Frame} {chain : Chain} {step : Step} {pipeline : Pipeline}
    (formed : before.WellFormed AnyName)
    (bound : outer.Within before.selections)
    (within : chain.position.Within before.selections)
    (takesUp : TakesUp outer chain before step scopes frames pipeline after) :
    after.WellFormed AnyName ∧ scopes.Within after.selections := by
  have inside : ∀ {parameter object}, chain.position = .object object →
      Scopes.Within before.selections (chain.scope parameter object :: outer) :=
    fun atObject => scope_within _ bound atObject within
  cases takesUp with
  | @field _ earlier _ _ _ _ _ _ atObject compiling =>
      obtain ⟨formedAfter, grows, _⟩ :=
        compileFields_arrives earlier formed anyPageNames
          (Pipeline.eachFieldOfRecord (fun _ _ => trivial) earlier)
          (inside atObject) compiling
      exact ⟨formedAfter, (inside atObject).grow grows.selections⟩
  | valueEnded atObject => exact ⟨formed, inside atObject⟩
  | valueContinued atObject => exact ⟨formed, inside atObject⟩
  | key _ atObject => exact ⟨formed, inside atObject⟩
  | @value _ key _ _ _ _ _ atObject compiling =>
      simp only [bind_eq_ok, finish, liftM_eq_ok] at compiling
      obtain ⟨_, _, walking, _, rfl⟩ := compiling
      obtain ⟨_, _, arrives⟩ := walkPipeline_arrives key formed anyPageNames
        (key.eachField fun _ _ => trivial) (inside atObject) walking
      exact ⟨arrives.formed, (inside atObject).grow arrives.grows.selections⟩

/-- What holds of a chain at the start of a pipeline and is kept by every step
of a walk holds at all stages of a compilation. -/
theorem Passes.stands {whole : Pipeline} (passes : Passes whole stage)
    (start :
      ∀ scopes depth scope steps, holds [] steps (.start [] scopes depth scope))
    (step : ∀ {document scopes step done rest chain next},
      CompileState.WellFormed AnyName document → chain.terminal = none →
      holds done (step :: rest) chain →
      WalksStep document scopes step (rest.head?.any Step.isAllPages) chain
        next →
      holds (done ++ [step]) rest (next.endedBy step)) :
    stage.Stands holds := by
  induction passes with
  | whole _ started =>
      exact .start (CompileState.initial_wellFormed AnyName)
        (rootScope_within _) (fun depth scope => start _ depth scope _) started
  | @step stage walked rest next document _ left goesOn walking stands =>
      obtain ⟨own, same, within, pends, held⟩ := stands.own
      rw [left] at pends held
      rw [same] at goesOn walking
      have ownGoesOn : own.terminal = none := goesOn
      obtain ⟨next, rfl, arrives⟩ :=
        walkStep_arrives walked stands.formed anyPageNames
          (Pipeline.eachFieldOfStep (fun _ _ => trivial) walked) stands.bound
          within pends walking
      obtain ⟨withinNext, pendsNext⟩ := arrives.endedBy walked
      exact ⟨arrives.formed, stands.bound.grow arrives.grows.selections, _,
        endedBy_under next stage.frames walked, withinNext, pendsNext,
        step arrives.formed ownGoesOn held
          (arrives.derives _ (CompileState.Grows.refl _))⟩
  | inside _ _ _ takesUp started stands =>
      obtain ⟨own, same, within, _⟩ := stands.own
      obtain ⟨formed, bound⟩ := takesUp.stands stands.formed stands.bound (by
        rw [same]
        exact within)
      exact .start formed bound (fun depth scope => start _ depth scope _)
        started

end stands

end Compile
end GraphPipeline
