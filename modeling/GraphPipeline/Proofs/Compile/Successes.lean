import GraphPipeline.Proofs.Compile.Walk

/-!
# Successful steps

What has happened when a part of a walk succeeds, one equivalence for each way
in which a walk goes on.  Facts that are kept along a walk are proved from these
equivalences, and not from the definitions of the walk.
-/

namespace GraphPipeline

namespace Compile

variable {scopes : Scopes} {frames : List Frame} {chain next last : Chain}
  {before after : CompileState} {paginate : Bool} {parameter : Parameter}
  {object : ObjectPosition} {program : Program}

theorem projectedObject_eq_ok :
    projectedObject chain before = .ok (object, after) ↔
      chain.position = .object object ∧ before = after := by
  unfold projectedObject
  cases chain.position with
  | object place => simp
  | value program isList => simp
  | dictionary entry => simp

theorem dictionaryObject_eq_ok :
    dictionaryObject chain before = .ok (object, after) ↔
      chain.list.isSome = true ∧ chain.position = .object object ∧
        before = after := by
  unfold dictionaryObject
  cases chain.list with
  | none => simp
  | some index =>
      cases chain.position with
      | object place => simp
      | value program isList => simp
      | dictionary entry => simp

/-- A pipeline of its own is walked and finished. -/
theorem pipeline_eq_ok {pipeline : Pipeline} :
    Compile.pipeline scopes pipeline before = .ok (program, after) ↔
      ∃ last, walkPipeline scopes [] pipeline before = .ok (last, after) ∧
        last.finish = .ok program := by
  simp only [Compile.pipeline, finish, bind_eq_ok, liftM_eq_ok]
  constructor
  · rintro ⟨last, _, walking, finished, rfl⟩
    exact ⟨last, walking, finished⟩
  · rintro ⟨last, walking, finished⟩
    exact ⟨last, after, walking, finished, rfl⟩

theorem walkPipeline_eq_ok {source : Source} {steps : List Step} :
    walkPipeline scopes frames (.mk source steps) before = .ok (last, after) ↔
      ∃ depth scope, scopes.resolve? source = some (depth, scope) ∧
        walk scopes steps (.start frames scopes depth scope) before =
          .ok (last, after) := by
  unfold walkPipeline
  cases scopes.resolve? source with
  | none => simp
  | some place => simp [Prod.ext_iff]

theorem walk_cons_eq_ok {step : Step} {rest : List Step} :
    walk scopes (step :: rest) chain before = .ok (last, after) ↔
      chain.terminal = none ∧ ∃ next middle,
        walkStep scopes step (rest.head?.any Step.isAllPages) chain before =
            .ok (next, middle) ∧
          walk scopes rest (next.endedBy step) middle = .ok (last, after) := by
  rw [walk]
  cases chain.terminal with
  | some reducer => simp
  | none => simp [Chain.endedBy]

theorem walkStep_record_eq_ok {fields : List (String × Pipeline)} :
    walkStep scopes (.record parameter fields) paginate chain before =
      .ok (next, after) ↔
      ∃ object programs, chain.position = .object object ∧
        compileFields (chain.scope parameter object :: scopes) fields before =
            .ok (programs, after) ∧
          next = { chain with
            position := .value
              ((Program.buildRecord programs).bindIfRead scopes.length)
                false } := by
  simp only [walkStep, bind_eq_ok, pure_eq_ok, projectedObject_eq_ok]
  constructor
  · rintro ⟨object, _, ⟨atObject, rfl⟩, programs, _, compiling, rfl, rfl⟩
    exact ⟨object, programs, atObject, compiling, rfl⟩
  · rintro ⟨object, programs, atObject, compiling, rfl⟩
    exact ⟨object, before, ⟨atObject, rfl⟩, programs, after, compiling, rfl,
      rfl⟩

/-- A value projection that is ended inside makes a value of each element. -/
theorem walkStep_valueEnded_eq_ok {inner : Pipeline}
    (ended : inner.endsTerminal = true) :
    walkStep scopes (.value parameter inner) paginate chain before =
      .ok (next, after) ↔
      ∃ object program, chain.position = .object object ∧
        Compile.pipeline (chain.scope parameter object :: scopes) inner before =
            .ok (program, after) ∧
          next = { chain with
            position := .value (program.bindIfRead scopes.length) false } := by
  have unfolded : walkStep scopes (.value parameter inner) paginate chain =
      projectedObject chain >>= fun object =>
        Compile.pipeline (chain.scope parameter object :: scopes)
          inner >>= fun program =>
          pure { chain with
            position := .value (program.bindIfRead scopes.length) false } := by
    simp only [walkStep, ended, if_true]
    rfl
  simp only [unfolded, bind_eq_ok, pure_eq_ok, projectedObject_eq_ok]
  constructor
  · rintro ⟨object, _, ⟨atObject, rfl⟩, program, _, compiling, rfl, rfl⟩
    exact ⟨object, program, atObject, compiling, rfl⟩
  · rintro ⟨object, program, atObject, compiling, rfl⟩
    exact ⟨object, before, ⟨atObject, rfl⟩, program, after, compiling, rfl, rfl⟩

/-- Any other value projection goes on inside of each element. -/
theorem walkStep_valueContinued_eq_ok {inner : Pipeline}
    (continues : inner.endsTerminal = false) :
    walkStep scopes (.value parameter inner) paginate chain before =
      .ok (next, after) ↔
      ∃ object last middle, chain.position = .object object ∧
        walkPipeline (chain.scope parameter object :: scopes)
            (chain.frames ++ [.bind scopes.length]) inner before =
              .ok (last, middle) ∧
          rejoin chain last middle = .ok (next, after) := by
  simp only [walkStep, continues, Bool.false_eq_true, if_false, bind_eq_ok,
    projectedObject_eq_ok]
  constructor
  · rintro ⟨object, _, ⟨atObject, rfl⟩, last, middle, walking, rejoining⟩
    exact ⟨object, last, middle, atObject, walking, rejoining⟩
  · rintro ⟨object, last, middle, atObject, walking, rejoining⟩
    exact ⟨object, before, ⟨atObject, rfl⟩, last, middle, walking, rejoining⟩

theorem walkStep_toDictionary_eq_ok {key value : Pipeline} :
    walkStep scopes (.toDictionary parameter key value) paginate chain before =
        .ok (next, after) ↔
      ∃ object keyProgram valueProgram middle, chain.list.isSome = true ∧
        chain.position = .object object ∧
          Compile.pipeline (chain.scope parameter object :: scopes) key before =
              .ok (keyProgram, middle) ∧
            Compile.pipeline (chain.scope parameter object :: scopes) value
              middle =
                .ok (valueProgram, after) ∧
              next = { chain with
                position := .dictionary
                  ((Program.keyValue keyProgram valueProgram).bindIfRead
                    scopes.length) } := by
  have unfolded :
      walkStep scopes (.toDictionary parameter key value) paginate chain =
        dictionaryObject chain >>= fun object =>
          Compile.pipeline (chain.scope parameter object :: scopes)
            key >>= fun keyProgram =>
            Compile.pipeline (chain.scope parameter object :: scopes) value >>=
              fun valueProgram =>
                pure { chain with
                  position := .dictionary
                    ((Program.keyValue keyProgram valueProgram).bindIfRead
                      scopes.length) } := rfl
  simp only [unfolded, bind_eq_ok, pure_eq_ok, dictionaryObject_eq_ok]
  constructor
  · rintro ⟨object, _, ⟨isList, atObject, rfl⟩, keyProgram, middle, keyed,
      valueProgram, _, valued, rfl, rfl⟩
    exact ⟨object, keyProgram, valueProgram, middle, isList, atObject, keyed,
      valued, rfl⟩
  · rintro ⟨object, keyProgram, valueProgram, middle, isList, atObject, keyed,
      valued, rfl⟩
    exact ⟨object, before, ⟨isList, atObject, rfl⟩, keyProgram, middle, keyed,
      valueProgram, after, valued, rfl, rfl⟩

theorem compileFields_cons_eq_ok {key : String} {pipeline : Pipeline}
    {fields : List (String × Pipeline)} {programs : List (String × Program)} :
    compileFields scopes ((key, pipeline) :: fields) before =
      .ok (programs, after) ↔
      ∃ program others middle, Compile.pipeline scopes pipeline before =
          .ok (program, middle) ∧
        compileFields scopes fields middle = .ok (others, after) ∧
          programs = (key, program) :: others := by
  have unfolded : compileFields scopes ((key, pipeline) :: fields) =
      Compile.pipeline scopes pipeline >>= fun program =>
        compileFields scopes fields >>=
          fun others => pure ((key, program) :: others) := rfl
  simp only [unfolded, bind_eq_ok, pure_eq_ok]
  constructor
  · rintro ⟨program, middle, first, others, _, rest, rfl, rfl⟩
    exact ⟨program, others, middle, first, rest, rfl⟩
  · rintro ⟨program, others, middle, first, rest, rfl⟩
    exact ⟨program, middle, first, others, after, rest, rfl, rfl⟩

end Compile

end GraphPipeline
