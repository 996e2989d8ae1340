import GraphPipeline.Compile.Steps

/-!
# Compiling pipelines

A pipeline becomes a document and the program that extracts its value from the
response.  Both come out of a single walk over the steps: whatever is added to
the selections is read by the program under the same response key.
-/

namespace GraphPipeline

structure CompiledOperation where
  operation : Operation
  program : Program
  subqueries : List Subquery

/-- The text of the document. -/
def CompiledOperation.queryText (compiled : CompiledOperation) : String :=
  compiled.operation.render

namespace Compile

/-- The program of a walked pipeline. -/
def finish (chain : Chain) : Compile Program :=
  liftM chain.finish

mutual

/-- Walks the steps of a pipeline, inside of some frames. -/
def walkPipeline (scopes : Scopes) (frames : List Frame) :
    Pipeline → Compile Chain
  | .mk source steps =>
      match scopes.resolve? source with
      | none => throw .unboundParameter
      | some (depth, scope) =>
        walk scopes steps (.start frames scopes depth scope)

/-- Walks steps one after the other.  Nothing may follow a terminal step. -/
def walk (scopes : Scopes) : List Step → Chain → Compile Chain
  | [], chain => pure chain
  | step :: rest, chain =>
      match chain.terminal with
      | some reducer => throw (.reducerNotTerminal reducer)
      | none => do
          let chain ←
            walkStep scopes step (rest.head?.any Step.isAllPages) chain
          let chain :=
            if step.isTerminal then { chain with terminal := step.reducer? }
            else chain
          walk scopes rest chain

/-- Walks one step.  `paginate` says whether the next step asks for every
page. -/
def walkStep (scopes : Scopes) : Step → Bool → Chain → Compile Chain
  | .property field, paginate, chain => selectField chain field [] paginate
  | .call field arguments, paginate, chain =>
    selectField chain field arguments paginate
  | .allPages nodes, _, chain => selectAllPages chain nodes
  | .record parameter fields, _, chain => do
      let object ← projectedObject chain
      let programs ←
        compileFields (chain.scope parameter object :: scopes) fields
      let program := (Program.buildRecord programs).bindIfRead scopes.length
      pure { chain with position := .value program false }
  | .value parameter inner, _, chain => do
      let object ← projectedObject chain
      let inside := chain.scope parameter object :: scopes
      if inner.endsTerminal then
        let program ← walkPipeline inside [] inner >>= finish
        pure { chain with
          position := .value (program.bindIfRead scopes.length) false }
      else
        walkPipeline inside (chain.frames ++ [.bind scopes.length]) inner >>=
          rejoin chain
  | .cast typeName, _, chain => castTo chain typeName
  | .filter typeName, _, chain => filterTo chain typeName
  | .single, _, chain => endSingle chain "single" true
  | .singleOrDefault, _, chain => endSingle chain "single_or_default" false
  | .toList, _, chain => endList chain
  | .toDictionary parameter key value, _, chain => do
      let object ← dictionaryObject chain
      let inside := chain.scope parameter object :: scopes
      let key ← walkPipeline inside [] key >>= finish
      let value ← walkPipeline inside [] value >>= finish
      let entry := (Program.keyValue key value).bindIfRead scopes.length
      pure { chain with position := .dictionary entry }

/-- The programs of the fields of a record. -/
def compileFields (scopes : Scopes) :
    List (String × Pipeline) → Compile (List (String × Program))
  | [] => pure []
  | (key, pipeline) :: rest => do
      let program ← walkPipeline scopes [] pipeline >>= finish
      let programs ← compileFields scopes rest
      pure ((key, program) :: programs)

end

/-- The program of a pipeline. -/
def pipeline (scopes : Scopes) (pipeline : Pipeline) : Compile Program :=
  walkPipeline scopes [] pipeline >>= finish

/-- The scope of the root object of an operation. -/
def rootScope (kind : OperationKind) : Scope :=
  { parameter := none
    object :=
      { set := Selections.rootId
        type := kind.rootType
        absentOk := false
        name := kind.keyword }
    path := []
    repeated := false }

end Compile

/-- The operation a finished compilation describes. -/
def CompileState.operation (state : CompileState) (kind : OperationKind) :
    Operation :=
  { kind
    variableDefinitions :=
      state.variableTypes.map fun (name, type) => { name, type := type.render }
    selections := state.selections.materialize Selections.rootId }

/-- Compiles a pipeline, which must start from the root of an operation or have
a pipeline in it that does. -/
def compile (pipeline : Pipeline) : Except CompileError CompiledOperation :=
  match pipeline.operationKind? with
  | none => .error .unboundParameter
  | some kind =>
      (Compile.pipeline [Compile.rootScope kind] pipeline
        CompileState.initial).map fun (program, state) =>
          { operation := state.operation kind, program,
            subqueries := state.subqueries }

end GraphPipeline
