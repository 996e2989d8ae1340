import GraphPipeline.Proofs.Mirroring

/-!
# Renaming parameters

Two pipelines are equal up to the names of their parameters if they are built
alike and every pipeline inside them starts from the same binder, counted from
the innermost. They compile to the same operation, or fail with the same error:
a compilation looks a parameter up in its scopes and goes on from the depth and
the place of the scope it finds.
-/

namespace GraphPipeline

variable {left right : List Parameter}

/-- Two sources are the same root, or parameters that stand for the same binder
among those around them, or for none. -/
inductive Source.SameBinder (left right : List Parameter) :
    Source → Source → Prop
  | root (kind : OperationKind) :
      SameBinder left right (.root kind) (.root kind)
  | parameter {first second : Parameter}
      (same : left.idxOf? first = right.idxOf? second) :
      SameBinder left right (.parameter first) (.parameter second)

/-- The parameter by which the pipelines inside a step name its element. -/
def Step.parameter? : Step → Option Parameter
  | .record parameter _ => some parameter
  | .value parameter _ => some parameter
  | .toDictionary parameter _ _ => some parameter
  | _ => none

mutual

/-- Two pipelines are equal up to the names of their parameters, inside of
binders with the given names, from inside to outside. -/
inductive Pipeline.AlphaEquivalent :
    (left right : List Parameter) → Pipeline → Pipeline → Prop
  | mk {left right : List Parameter} {first second : Source}
      {steps others : List Step} (sources : first.SameBinder left right second)
      (inside : Step.AllAlphaEquivalent left right steps others) :
      Pipeline.AlphaEquivalent left right (.mk first steps) (.mk second others)

/-- Steps that hold pipelines may name their element differently. -/
inductive Step.AlphaEquivalent :
    (left right : List Parameter) → Step → Step → Prop
  | plain {left right : List Parameter} {step : Step}
      (binds : step.parameter? = none) :
      Step.AlphaEquivalent left right step step
  | record {left right : List Parameter} {first second : Parameter}
      {fields others : List (String × Pipeline)}
      (inside :
        Pipeline.FieldsAlphaEquivalent (first :: left) (second :: right) fields
          others) :
      Step.AlphaEquivalent left right (.record first fields)
        (.record second others)
  | value {left right : List Parameter} {first second : Parameter}
      {inner other : Pipeline}
      (inside :
        Pipeline.AlphaEquivalent (first :: left) (second :: right) inner
          other) :
      Step.AlphaEquivalent left right (.value first inner) (.value second other)
  | toDictionary {left right : List Parameter} {first second : Parameter}
      {key value otherKey otherValue : Pipeline}
      (keys :
        Pipeline.AlphaEquivalent (first :: left) (second :: right) key otherKey)
      (values :
        Pipeline.AlphaEquivalent (first :: left) (second :: right) value
          otherValue) :
      Step.AlphaEquivalent left right (.toDictionary first key value)
        (.toDictionary second otherKey otherValue)

inductive Step.AllAlphaEquivalent :
    (left right : List Parameter) → List Step → List Step → Prop
  | nil {left right : List Parameter} : Step.AllAlphaEquivalent left right [] []
  | cons {left right : List Parameter} {step other : Step}
      {steps others : List Step}
      (head : Step.AlphaEquivalent left right step other)
      (tail : Step.AllAlphaEquivalent left right steps others) :
      Step.AllAlphaEquivalent left right (step :: steps) (other :: others)

/-- Records are equal up to the names of parameters if they have the same
keys. -/
inductive Pipeline.FieldsAlphaEquivalent :
    (left right : List Parameter) → List (String × Pipeline) →
      List (String × Pipeline) → Prop
  | nil {left right : List Parameter} :
      Pipeline.FieldsAlphaEquivalent left right [] []
  | cons {left right : List Parameter} {key : String}
      {pipeline other : Pipeline} {fields others : List (String × Pipeline)}
      (head : Pipeline.AlphaEquivalent left right pipeline other)
      (tail : Pipeline.FieldsAlphaEquivalent left right fields others) :
      Pipeline.FieldsAlphaEquivalent left right ((key, pipeline) :: fields)
        ((key, other) :: others)

end

namespace Step

theorem AlphaEquivalent.isTerminal_eq {step other : Step}
    (equivalent : AlphaEquivalent left right step other) :
    step.isTerminal = other.isTerminal := by
  cases equivalent <;> rfl

theorem AlphaEquivalent.isAllPages_eq {step other : Step}
    (equivalent : AlphaEquivalent left right step other) :
    step.isAllPages = other.isAllPages := by
  cases equivalent <;> rfl

theorem AlphaEquivalent.reducer?_eq {step other : Step}
    (equivalent : AlphaEquivalent left right step other) :
    step.reducer? = other.reducer? := by
  cases equivalent <;> rfl

namespace AllAlphaEquivalent

theorem paginates_eq {steps others : List Step}
    (equivalent : AllAlphaEquivalent left right steps others) :
    steps.head?.any isAllPages = others.head?.any isAllPages := by
  cases equivalent with
  | nil => rfl
  | cons head _ => exact head.isAllPages_eq

theorem terminals_eq {left right : List Parameter} {steps others : List Step}
    (equivalent : AllAlphaEquivalent left right steps others) :
    steps.map isTerminal = others.map isTerminal := by
  induction steps generalizing others with
  | nil =>
      cases equivalent with
      | nil => rfl
  | cons step steps induction =>
      cases equivalent with
      | cons head tail =>
          rw [List.map_cons, List.map_cons, head.isTerminal_eq, induction tail]

end AllAlphaEquivalent

end Step

theorem Pipeline.endsTerminal_eq_getLast? (pipeline : Pipeline) :
    pipeline.endsTerminal =
      (pipeline.steps.map Step.isTerminal).getLast?.any id := by
  rw [Pipeline.endsTerminal, List.getLast?_map, Option.any_map]
  rfl

theorem Pipeline.AlphaEquivalent.endsTerminal_eq {pipeline other : Pipeline}
    (equivalent : AlphaEquivalent left right pipeline other) :
    pipeline.endsTerminal = other.endsTerminal := by
  cases equivalent with
  | mk _ inside =>
      rw [endsTerminal_eq_getLast?, endsTerminal_eq_getLast?]
      exact congrArg (fun terminals => terminals.getLast?.any id)
        inside.terminals_eq

/-! ### The kind of the operation -/

theorem Source.SameBinder.operationKind?_eq {first second : Source}
    (same : first.SameBinder left right second) :
    first.operationKind? = second.operationKind? := by
  cases same <;> rfl

mutual

theorem Pipeline.AlphaEquivalent.operationKind?_eq {left right : List Parameter}
    {pipeline other : Pipeline}
    (equivalent : pipeline.AlphaEquivalent left right other) :
    pipeline.operationKind? = other.operationKind? := by
  cases pipeline with
  | mk source steps =>
      cases equivalent with
      | mk sources inside =>
          rw [Pipeline.operationKind?, Pipeline.operationKind?,
            sources.operationKind?_eq, inside.operationKind?_eq]
termination_by structural pipeline

theorem Step.AllAlphaEquivalent.operationKind?_eq {left right : List Parameter}
    {steps others : List Step}
    (equivalent : Step.AllAlphaEquivalent left right steps others) :
    Pipeline.operationKindOfSteps? steps =
      Pipeline.operationKindOfSteps? others := by
  cases steps with
  | nil =>
      cases equivalent with
      | nil => rfl
  | cons step steps =>
      cases equivalent with
      | cons head tail =>
          have rest := tail.operationKind?_eq
          cases step with
          | record parameter fields =>
              cases head with
              | plain binds => cases binds
              | record inside =>
                  rw [Pipeline.operationKindOfSteps?,
                    Pipeline.operationKindOfSteps?, inside.operationKind?_eq,
                    rest]
          | value parameter inner =>
              cases head with
              | plain binds => cases binds
              | value inside =>
                  rw [Pipeline.operationKindOfSteps?,
                    Pipeline.operationKindOfSteps?, inside.operationKind?_eq,
                    rest]
          | toDictionary parameter key value =>
              cases head with
              | plain binds => cases binds
              | toDictionary keys values =>
                  rw [Pipeline.operationKindOfSteps?,
                    Pipeline.operationKindOfSteps?, keys.operationKind?_eq,
                    values.operationKind?_eq, rest]
          | _ =>
              cases head
              exact rest
termination_by structural steps

theorem Pipeline.FieldsAlphaEquivalent.operationKind?_eq
    {left right : List Parameter} {fields others : List (String × Pipeline)}
    (equivalent : Pipeline.FieldsAlphaEquivalent left right fields others) :
    Pipeline.operationKindOfFields? fields =
      Pipeline.operationKindOfFields? others := by
  cases fields with
  | nil =>
      cases equivalent with
      | nil => rfl
  | cons field fields =>
      obtain ⟨key, pipeline⟩ := field
      cases equivalent with
      | cons head tail =>
          rw [Pipeline.operationKindOfFields?, Pipeline.operationKindOfFields?,
            head.operationKind?_eq, tail.operationKind?_eq]
termination_by structural fields

end

/-! ### Scopes -/

/-- Two stacks of scopes differ in nothing but the names of the binders, which
are those given.  The outermost scope has none. -/
inductive Scopes.Alike : (left right : List Parameter) → Scopes → Scopes → Prop
  | root {object : ObjectPosition} {path : List String} {repeated : Bool} :
      Alike [] [] [⟨none, object, path, repeated⟩]
        [⟨none, object, path, repeated⟩]
  | inside {left right : List Parameter} {scopes others : Scopes}
      {first second : Parameter} {object : ObjectPosition} {path : List String}
      {repeated : Bool} (outer : Alike left right scopes others) :
      Alike (first :: left) (second :: right)
        (⟨some first, object, path, repeated⟩ :: scopes)
        (⟨some second, object, path, repeated⟩ :: others)

/-- A scope without its name. -/
def Scope.unnamed (scope : Scope) : Scope :=
  { scope with parameter := none }

namespace Scopes.Alike

variable {scopes others : Scopes}

theorem length_eq (alike : Alike left right scopes others) :
    scopes.length = others.length := by
  induction alike with
  | root => rfl
  | inside _ induction => rw [List.length_cons, List.length_cons, induction]

theorem resolve?_root (alike : Alike left right scopes others)
    (kind : OperationKind) :
    (scopes.resolve? (.root kind)).map (Prod.map id Scope.unnamed) =
      (others.resolve? (.root kind)).map (Prod.map id Scope.unnamed) := by
  induction alike with
  | root => rfl
  | inside outer induction =>
      cases outer with
      | root => rfl
      | inside _ => exact induction

/-- Parameters that stand for one binder are found in the scope of this
binder. -/
theorem resolve?_parameter (alike : Alike left right scopes others)
    {first second : Parameter}
    (same : left.idxOf? first = right.idxOf? second) :
    (scopes.resolve? (.parameter first)).map (Prod.map id Scope.unnamed) =
      (others.resolve? (.parameter second)).map
        (Prod.map id Scope.unnamed) := by
  induction alike with
  | root => rfl
  | @inside left right _ _ binder other _ _ _ outer induction =>
      simp only [List.idxOf?_cons, beq_iff_eq] at same
      by_cases found : binder = first
      · by_cases foundOther : other = second
        · simp [Scopes.resolve?, found, foundOther, outer.length_eq,
            Scope.unnamed]
        · cases at_ : right.idxOf? second <;>
            simp [found, foundOther, at_] at same
      · by_cases foundOther : other = second
        · cases at_ : left.idxOf? first <;>
            simp [found, foundOther, at_] at same
        · simp only [found, foundOther, if_false] at same
          have further : left.idxOf? first = right.idxOf? second :=
            Option.map_injective (fun _ _ => Nat.succ.inj) same
          simpa [Scopes.resolve?, found, foundOther] using induction further

theorem resolve?_eq (alike : Alike left right scopes others)
    {first second : Source}
    (same : first.SameBinder left right second) :
    (scopes.resolve? first).map (Prod.map id Scope.unnamed) =
      (others.resolve? second).map (Prod.map id Scope.unnamed) := by
  cases same with
  | root kind => exact alike.resolve?_root kind
  | parameter same => exact alike.resolve?_parameter same

/-- A projection opens scopes that differ in nothing but their names. -/
theorem project (alike : Alike left right scopes others) (chain : Chain)
    (object : ObjectPosition) (first second : Parameter) :
    Alike (first :: left) (second :: right) (chain.scope first object :: scopes)
      (chain.scope second object :: others) :=
  .inside alike

end Scopes.Alike

/-- Pipelines start alike in scopes of one number. -/
theorem Chain.start_congr {scopes others : Scopes}
    (sameLength : scopes.length = others.length) (frames : List Frame)
    (depth : Nat) (scope : Scope) :
    Chain.start frames scopes depth scope =
      Chain.start frames others depth scope.unnamed := by
  simp only [Chain.start, Scopes.innermostDepth, sameLength]
  rfl

namespace Compile

/-! ### Walks -/

mutual

theorem walkPipeline_congr {left right : List Parameter}
    {scopes others : Scopes}
    (alike : scopes.Alike left right others) {pipeline other : Pipeline}
    (equivalent : pipeline.AlphaEquivalent left right other)
    (frames : List Frame) :
    walkPipeline scopes frames pipeline = walkPipeline others frames other := by
  cases pipeline with
  | mk first steps =>
      cases equivalent with
      | @mk _ _ _ second _ _ sources inside =>
          have sameFound := alike.resolve?_eq sources
          unfold walkPipeline
          cases found : scopes.resolve? first with
          | none =>
              cases foundOther : others.resolve? second with
              | none => rfl
              | some place => simp [found, foundOther] at sameFound
          | some place =>
              cases foundOther : others.resolve? second with
              | none => simp [found, foundOther] at sameFound
              | some otherPlace =>
                  obtain ⟨depth, scope⟩ := place
                  obtain ⟨otherDepth, otherScope⟩ := otherPlace
                  simp only [found, foundOther, Option.map_some,
                    Option.some.injEq, Prod.map_apply, id,
                    Prod.mk.injEq] at sameFound
                  obtain ⟨rfl, sameScope⟩ := sameFound
                  dsimp only
                  rw [walk_congr alike inside,
                    Chain.start_congr alike.length_eq, sameScope,
                    ← Chain.start_congr rfl]
termination_by structural pipeline

theorem walk_congr {left right : List Parameter} {scopes others : Scopes}
    (alike : scopes.Alike left right others) {steps otherSteps : List Step}
    (equivalent : Step.AllAlphaEquivalent left right steps otherSteps)
    (chain : Chain) :
    walk scopes steps chain = walk others otherSteps chain := by
  cases steps with
  | nil =>
      cases equivalent with
      | nil => rfl
  | cons step steps =>
      cases equivalent with
      | cons head tail =>
          unfold walk
          rw [walkStep_congr alike head, tail.paginates_eq, head.isTerminal_eq,
            head.reducer?_eq]
          simp only [walk_congr alike tail]
termination_by structural steps

theorem walkStep_congr {left right : List Parameter} {scopes others : Scopes}
    (alike : scopes.Alike left right others) {step other : Step}
    (equivalent : step.AlphaEquivalent left right other) (paginate : Bool)
    (chain : Chain) :
    walkStep scopes step paginate chain =
      walkStep others other paginate chain := by
  cases step with
  | record parameter fields =>
      cases equivalent with
      | plain binds => cases binds
      | record inside =>
          unfold walkStep
          simp only [compileFields_congr (alike.project chain _ _ _) inside,
            alike.length_eq]
  | value parameter inner =>
      cases equivalent with
      | plain binds => cases binds
      | value inside =>
          unfold walkStep
          simp only [walkPipeline_congr (alike.project chain _ _ _) inside,
            alike.length_eq, inside.endsTerminal_eq]
  | toDictionary parameter key value =>
      cases equivalent with
      | plain binds => cases binds
      | toDictionary keys values =>
          unfold walkStep
          simp only [walkPipeline_congr (alike.project chain _ _ _) keys,
            walkPipeline_congr (alike.project chain _ _ _) values,
            alike.length_eq]
  | _ =>
      cases equivalent
      rfl
termination_by structural step

theorem compileFields_congr {left right : List Parameter}
    {scopes others : Scopes}
    (alike : scopes.Alike left right others)
    {fields otherFields : List (String × Pipeline)}
    (equivalent :
      Pipeline.FieldsAlphaEquivalent left right fields otherFields) :
    compileFields scopes fields = compileFields others otherFields := by
  cases fields with
  | nil =>
      cases equivalent with
      | nil => rfl
  | cons field fields =>
      obtain ⟨key, pipeline⟩ := field
      cases equivalent with
      | cons head tail =>
          unfold compileFields
          simp only [walkPipeline_congr alike head,
            compileFields_congr alike tail]
termination_by structural fields

end

end Compile

/-- Pipelines that are equal up to the names of their parameters compile to the
same operation, or fail with the same error. -/
theorem compile_eq_of_alphaEquivalent {pipeline other : Pipeline}
    (equivalent : pipeline.AlphaEquivalent [] [] other) :
    compile pipeline = compile other := by
  unfold compile
  rw [equivalent.operationKind?_eq]
  cases other.operationKind? with
  | none => rfl
  | some kind =>
      have alike :
          Scopes.Alike [] [] [Compile.rootScope kind]
            [Compile.rootScope kind] := .root
      simp only [Compile.pipeline, Compile.walkPipeline_congr alike equivalent]

namespace Sample

/-- The records of `ownTitles`, the inner one going by the name of the query. -/
def shadowedTitles : Pipeline :=
  (Pipeline.root .query).select "x"
    [("rows", (((Pipeline.parameter "x").property itemList).select "y"
      [("own", (Pipeline.parameter "y").select "x"
        [("title", (Pipeline.parameter "y").property title)])]).toList)]

theorem ownTitles_alphaEquivalent :
    ownTitles.AlphaEquivalent [] [] shadowedTitles := by
  have own : Step.AlphaEquivalent ["r", "q"] ["y", "x"]
      (.record "s" [("title", (Pipeline.parameter "r").property title)])
      (.record "x" [("title", (Pipeline.parameter "y").property title)]) :=
    .record
      (.cons (.mk (.parameter (by decide)) (.cons (.plain rfl) .nil)) .nil)
  have rows : Pipeline.FieldsAlphaEquivalent ["r", "q"] ["y", "x"]
      [("own", .mk (.parameter "r") [_])] [("own", .mk (.parameter "y") [_])] :=
    .cons (.mk (.parameter (by decide)) (.cons own .nil)) .nil
  exact .mk (.root _) (.cons (.record (.cons (.mk (.parameter (by decide))
    (.cons (.plain rfl) (.cons (.record rows) (.cons (.plain rfl) .nil))))
      .nil)) .nil)

end Sample

theorem compile_ownTitles_shadowed :
    ∃ compiled, compile Sample.ownTitles = .ok compiled ∧
      compile Sample.shadowedTitles = .ok compiled := by
  have same := compile_eq_of_alphaEquivalent Sample.ownTitles_alphaEquivalent
  have accepted : (compile Sample.ownTitles).isOk = true := by cbv
  cases success : compile Sample.ownTitles with
  | error error =>
      rw [success] at accepted
      cases accepted
  | ok compiled => exact ⟨compiled, rfl, same ▸ success⟩

end GraphPipeline
