import GraphPipeline.Proofs.ListFilters
import GraphPipeline.Proofs.TypedDocument

/-!
# Operation kinds

The first root that comes up in a pipeline decides the kind of the operation.  A
compilation looks no further at the kinds of roots: every root stands for the
outermost scope, so a root of the other kind is compiled as if it were of the
kind of the operation.
-/

namespace GraphPipeline

/-- The same source in operations of a kind. -/
def Source.withRoot (kind : OperationKind) : Source → Source
  | .root _ => .root kind
  | .parameter name => .parameter name

namespace Pipeline

mutual

/-- The kinds of the roots that a pipeline and the pipelines inside of it start
from, in the order in which they come up. -/
def roots : Pipeline → List OperationKind
  | .mk source steps => source.operationKind?.toList ++ rootsOfSteps steps

def rootsOfSteps : List Step → List OperationKind
  | [] => []
  | step :: steps => rootsOfStep step ++ rootsOfSteps steps

def rootsOfStep : Step → List OperationKind
  | .record _ fields => rootsOfFields fields
  | .value _ inner => inner.roots
  | .toDictionary _ key value => key.roots ++ value.roots
  | _ => []

def rootsOfFields : List (String × Pipeline) → List OperationKind
  | [] => []
  | (_, pipeline) :: fields => pipeline.roots ++ rootsOfFields fields

end

mutual

/-- The pipeline with every root replaced by the root of the operations of a
kind. -/
def withRoot (kind : OperationKind) : Pipeline → Pipeline
  | .mk source steps => .mk (source.withRoot kind) (stepsWithRoot kind steps)

def stepsWithRoot (kind : OperationKind) : List Step → List Step
  | [] => []
  | step :: steps => stepWithRoot kind step :: stepsWithRoot kind steps

def stepWithRoot (kind : OperationKind) : Step → Step
  | .record parameter fields => .record parameter (fieldsWithRoot kind fields)
  | .value parameter inner => .value parameter (inner.withRoot kind)
  | .toDictionary parameter key value =>
      .toDictionary parameter (key.withRoot kind) (value.withRoot kind)
  | step => step

def fieldsWithRoot (kind : OperationKind) :
    List (String × Pipeline) → List (String × Pipeline)
  | [] => []
  | (key, pipeline) :: fields =>
    (key, pipeline.withRoot kind) :: fieldsWithRoot kind fields

end

/-! ### The kind of an operation -/

mutual

theorem operationKind?_eq_head? (pipeline : Pipeline) :
    pipeline.operationKind? = pipeline.roots.head? := by
  cases pipeline with
  | mk source steps =>
      rw [operationKind?, roots, List.head?_append, Option.head?_toList,
        operationKindOfSteps?_eq_head? steps]
termination_by structural pipeline

theorem operationKindOfSteps?_eq_head? (steps : List Step) :
    operationKindOfSteps? steps = (rootsOfSteps steps).head? := by
  cases steps with
  | nil => rfl
  | cons step steps =>
      have rest := operationKindOfSteps?_eq_head? steps
      cases step with
      | record parameter fields =>
          rw [operationKindOfSteps?, rootsOfSteps, rootsOfStep,
            List.head?_append, operationKindOfFields?_eq_head? fields, rest]
      | value parameter inner =>
          rw [operationKindOfSteps?, rootsOfSteps, rootsOfStep,
            List.head?_append, operationKind?_eq_head? inner, rest]
      | toDictionary parameter key value =>
          rw [operationKindOfSteps?, rootsOfSteps, rootsOfStep,
            List.head?_append, List.head?_append, operationKind?_eq_head? key,
            operationKind?_eq_head? value, rest]
      | _ => exact rest
termination_by structural steps

theorem operationKindOfFields?_eq_head? (fields : List (String × Pipeline)) :
    operationKindOfFields? fields = (rootsOfFields fields).head? := by
  cases fields with
  | nil => rfl
  | cons field fields =>
      obtain ⟨key, pipeline⟩ := field
      rw [operationKindOfFields?, rootsOfFields, List.head?_append,
        operationKind?_eq_head? pipeline,
        operationKindOfFields?_eq_head? fields]
termination_by structural fields

end

mutual

theorem roots_withRoot (kind : OperationKind) (pipeline : Pipeline) :
    (pipeline.withRoot kind).roots = pipeline.roots.map fun _ => kind := by
  cases pipeline with
  | mk source steps =>
      rw [withRoot, roots, roots, List.map_append,
        rootsOfSteps_withRoot kind steps]
      cases source <;> rfl
termination_by structural pipeline

theorem rootsOfSteps_withRoot (kind : OperationKind) (steps : List Step) :
    rootsOfSteps (stepsWithRoot kind steps) =
      (rootsOfSteps steps).map fun _ => kind := by
  cases steps with
  | nil => rfl
  | cons step steps =>
      rw [stepsWithRoot, rootsOfSteps, rootsOfSteps, List.map_append,
        rootsOfSteps_withRoot kind steps, rootsOfStep_withRoot kind step]
termination_by structural steps

theorem rootsOfStep_withRoot (kind : OperationKind) (step : Step) :
    rootsOfStep (stepWithRoot kind step) =
      (rootsOfStep step).map fun _ => kind := by
  cases step with
  | record parameter fields =>
      rw [stepWithRoot, rootsOfStep, rootsOfStep,
        rootsOfFields_withRoot kind fields]
  | value parameter inner =>
      rw [stepWithRoot, rootsOfStep, rootsOfStep, roots_withRoot kind inner]
  | toDictionary parameter key value =>
      rw [stepWithRoot, rootsOfStep, rootsOfStep, List.map_append,
        roots_withRoot kind key, roots_withRoot kind value]
  | _ => rfl
termination_by structural step

theorem rootsOfFields_withRoot (kind : OperationKind)
    (fields : List (String × Pipeline)) :
    rootsOfFields (fieldsWithRoot kind fields) =
      (rootsOfFields fields).map fun _ => kind := by
  cases fields with
  | nil => rfl
  | cons field fields =>
      obtain ⟨key, pipeline⟩ := field
      rw [fieldsWithRoot, rootsOfFields, rootsOfFields, List.map_append,
        rootsOfFields_withRoot kind fields, roots_withRoot kind pipeline]
termination_by structural fields

end

/-- Replacing the roots by one of the kind of the operation keeps this kind. -/
theorem operationKind?_withRoot {pipeline : Pipeline} {kind : OperationKind}
    (starts : pipeline.operationKind? = some kind) :
    (pipeline.withRoot kind).operationKind? = some kind := by
  rw [operationKind?_eq_head?] at starts ⊢
  rw [roots_withRoot, List.head?_map, starts]
  rfl

@[simp] theorem isTerminal_stepWithRoot (kind : OperationKind) (step : Step) :
    (stepWithRoot kind step).isTerminal = step.isTerminal := by
  cases step <;> rfl

@[simp] theorem isAllPages_stepWithRoot (kind : OperationKind) (step : Step) :
    (stepWithRoot kind step).isAllPages = step.isAllPages := by
  cases step <;> rfl

@[simp] theorem reducer?_stepWithRoot (kind : OperationKind) (step : Step) :
    (stepWithRoot kind step).reducer? = step.reducer? := by
  cases step <;> rfl

theorem stepsWithRoot_eq_map (kind : OperationKind) (steps : List Step) :
    stepsWithRoot kind steps = steps.map (stepWithRoot kind) := by
  induction steps with
  | nil => rfl
  | cons step steps induction => rw [stepsWithRoot, List.map_cons, induction]

@[simp] theorem paginates_stepsWithRoot (kind : OperationKind)
    (steps : List Step) :
    (stepsWithRoot kind steps).head?.any Step.isAllPages =
      steps.head?.any Step.isAllPages := by
  cases steps with
  | nil => rfl
  | cons step steps => exact isAllPages_stepWithRoot kind step

@[simp] theorem endsTerminal_withRoot (kind : OperationKind)
    (pipeline : Pipeline) :
    (pipeline.withRoot kind).endsTerminal = pipeline.endsTerminal := by
  cases pipeline with
  | mk source steps =>
      rw [withRoot, endsTerminal, endsTerminal, Pipeline.steps, Pipeline.steps,
        stepsWithRoot_eq_map, List.getLast?_map, Option.any_map]
      exact congrArg (fun test => steps.getLast?.any test)
        (funext (isTerminal_stepWithRoot kind))

end Pipeline

/-- A root stands for the outermost scope, whatever its kind. -/
theorem Scopes.resolve?_withRoot (scopes : Scopes) (kind : OperationKind)
    (source : Source) :
    scopes.resolve? (source.withRoot kind) = scopes.resolve? source := by
  cases source with
  | parameter parameter => rfl
  | root other =>
      induction scopes with
      | nil => rfl
      | cons scope outer induction =>
          cases outer with
          | nil => rfl
          | cons _ _ => exact induction

namespace Compile

open Pipeline

/-! ### Walks -/

mutual

theorem walkPipeline_withRoot (kind : OperationKind) (scopes : Scopes)
    (frames : List Frame) (pipeline : Pipeline) :
    walkPipeline scopes frames (pipeline.withRoot kind) =
      walkPipeline scopes frames pipeline := by
  cases pipeline with
  | mk source steps =>
      unfold withRoot walkPipeline
      simp only [scopes.resolve?_withRoot, walk_withRoot kind scopes steps]
termination_by structural pipeline

theorem walk_withRoot (kind : OperationKind) (scopes : Scopes)
    (steps : List Step) (chain : Chain) :
    walk scopes (stepsWithRoot kind steps) chain = walk scopes steps chain := by
  cases steps with
  | nil => rfl
  | cons step steps =>
      unfold stepsWithRoot walk
      simp only [walkStep_withRoot kind scopes step,
        walk_withRoot kind scopes steps, paginates_stepsWithRoot,
        isTerminal_stepWithRoot, reducer?_stepWithRoot]
termination_by structural steps

theorem walkStep_withRoot (kind : OperationKind) (scopes : Scopes) (step : Step)
    (paginate : Bool) (chain : Chain) :
    walkStep scopes (stepWithRoot kind step) paginate chain =
      walkStep scopes step paginate chain := by
  cases step with
  | record parameter fields =>
      unfold stepWithRoot walkStep
      simp only [compileFields_withRoot kind _ fields]
  | value parameter inner =>
      unfold stepWithRoot walkStep
      simp only [walkPipeline_withRoot kind _ _ inner, endsTerminal_withRoot]
  | toDictionary parameter key value =>
      unfold stepWithRoot walkStep
      simp only [walkPipeline_withRoot kind _ _ key,
        walkPipeline_withRoot kind _ _ value]
  | _ => rfl
termination_by structural step

theorem compileFields_withRoot (kind : OperationKind) (scopes : Scopes)
    (fields : List (String × Pipeline)) :
    compileFields scopes (fieldsWithRoot kind fields) =
      compileFields scopes fields := by
  cases fields with
  | nil => rfl
  | cons field fields =>
      obtain ⟨key, pipeline⟩ := field
      unfold fieldsWithRoot compileFields
      simp only [walkPipeline_withRoot kind scopes [] pipeline,
        compileFields_withRoot kind scopes fields]
termination_by structural fields

end

end Compile

/-- A pipeline compiles as if every root in it were of the kind of the
operation. -/
theorem compile_withRoot {pipeline : Pipeline} {kind : OperationKind}
    (starts : pipeline.operationKind? = some kind) :
    compile (pipeline.withRoot kind) = compile pipeline := by
  unfold compile
  rw [Pipeline.operationKind?_withRoot starts, starts]
  simp only [Compile.pipeline, Compile.walkPipeline_withRoot]

theorem compile_kind {pipeline : Pipeline} {compiled : CompiledOperation}
    (success : compile pipeline = .ok compiled) :
    pipeline.operationKind? = some compiled.operation.kind := by
  obtain ⟨kind, program, state, starts, -, rfl, -⟩ := compile_eq_ok success
  exact starts

/-- An accepted pipeline gives an operation of the kind of the first root that
comes up, and is compiled as if all its roots were of this kind.  They are
exactly if they are all of one kind. -/
theorem compiled_of_first_root {pipeline : Pipeline}
    {compiled : CompiledOperation}
    (success : compile pipeline = .ok compiled) :
    pipeline.roots.head? = some compiled.operation.kind ∧
      compile (pipeline.withRoot compiled.operation.kind) = .ok compiled ∧
      ((∀ kind ∈ pipeline.roots, kind = compiled.operation.kind) ↔
        ∀ first ∈ pipeline.roots, ∀ second ∈ pipeline.roots,
          first = second) := by
  have starts := compile_kind success
  have first : pipeline.roots.head? = some compiled.operation.kind := by
    rw [← pipeline.operationKind?_eq_head?, starts]
  refine ⟨first, by rw [compile_withRoot starts, success], ?_, ?_⟩
  · intro ofKind root isRoot other isOther
    rw [ofKind root isRoot, ofKind other isOther]
  · intro agree kind isRoot
    exact agree kind isRoot _ (List.mem_of_head? first)

namespace Sample

/-- The name of a team, which a mutation answers with. -/
def createdTeam (kind : OperationKind) : Pipeline :=
  ((Pipeline.root kind).property
    { name := "createTeam", type := (TypeRef.object "Team").nonNull,
      arguments := [] }).property
    name

/-- The login of the viewer next to the name of a team. -/
def viewerAndTeam (kind : OperationKind) : Pipeline :=
  (Pipeline.root .query).select "q"
    [("login", ((Pipeline.parameter "q").property
        (viewer (TypeRef.object "User").nonNull)).property login),
      ("team", createdTeam kind)]

/-- Both are selected from the root of one document. -/
def viewerAndTeamText : String :=
  "query \x7b\n  viewer \x7b\n    login\n  \x7d\n" ++
  "  createTeam \x7b\n    name\n  \x7d\n\x7d\n"

end Sample

theorem compile_viewerAndTeam :
    ∃ compiled, compile (Sample.viewerAndTeam .query) = .ok compiled ∧
      (Sample.viewerAndTeam .query).roots.head? = some compiled.operation.kind ∧
      ∀ kind ∈ (Sample.viewerAndTeam .query).roots,
        kind = compiled.operation.kind := by
  have accepted : (compile (Sample.viewerAndTeam .query)).isOk = true := by cbv
  cases success : compile (Sample.viewerAndTeam .query) with
  | error error =>
      rw [success] at accepted
      cases accepted
  | ok compiled =>
      obtain ⟨first, -, ofKind⟩ := compiled_of_first_root success
      exact ⟨compiled, rfl, first, ofKind.mpr (by decide)⟩

/-- The field of a mutation is emitted in a query. -/
theorem viewerAndTeam_mixed :
    ∃ compiled, compile (Sample.viewerAndTeam .mutation) = .ok compiled ∧
      compiled.operation.kind = .query ∧
      OperationKind.mutation ∈ (Sample.viewerAndTeam .mutation).roots ∧
      compiled.queryText = Sample.viewerAndTeamText := by
  have evaluated :
      (compile (Sample.viewerAndTeam .mutation)).map (fun compiled =>
      (compiled.operation.kind, compiled.queryText)) =
        .ok (.query, Sample.viewerAndTeamText) := by
    cbv
  obtain ⟨compiled, success, same⟩ := Evaluate.map_eq_ok.mp evaluated
  obtain ⟨ofKind, written⟩ := Prod.mk.inj same
  exact ⟨compiled, success, ofKind, by decide, written⟩

end GraphPipeline
