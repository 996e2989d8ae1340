import GraphPipeline.Proofs.Compile.WalkSoundness

/-!
# Seams

Steps can be walked in two parts unless the first part ends before a step that
asks for every page: whether a cursor is needed is seen from the step that
follows.  The frames around a chain take no part in its walk, whether it
succeeds or fails.
-/

namespace GraphPipeline

/-- Whether a step leads from one place of the data to another, with no pipeline
of its own. -/
def Step.navigates : Step → Bool
  | .property _ => true
  | .call _ _ => true
  | .allPages _ => true
  | .cast _ => true
  | .filter _ => true
  | _ => false

theorem Step.isTerminal_of_navigates {step : Step}
    (navigates : step.navigates = true) :
    step.isTerminal = false := by
  cases step <;> first | rfl | cases navigates

namespace Compile

variable {α β : Type}

theorem bind_of_ok {action : Compile α} {next : α → Compile β}
    {before after : CompileState} {value : α}
    (success : action before = .ok (value, after)) :
    (action >>= next) before = next value after := by
  simp only [bind, StateT.bind, Except.bind, success]

theorem bind_of_error {action : Compile α} {next : α → Compile β}
    {before : CompileState} {error : CompileError}
    (failure : action before = .error error) :
    (action >>= next) before = .error error := by
  simp only [bind, StateT.bind, Except.bind, failure]

theorem map_throw (change : α → β) (error : CompileError) :
    change <$> (throw error : Compile α) = throw error :=
  rfl

theorem liftM_map (change : α → β) (action : Except CompileError α) :
    (liftM (action.map change) : Compile β) =
      change <$> (liftM action : Compile α) := by
  cases action <;> rfl

/-! ### Steps in two parts -/

theorem walk_cons (scopes : Scopes) (step : Step) (rest : List Step)
    {chain : Chain}
    (goesOn : chain.terminal = none) :
    walk scopes (step :: rest) chain =
      walkStep scopes step (rest.head?.any Step.isAllPages)
        chain >>= fun next =>
        walk scopes rest (next.endedBy step) := by
  rw [walk, goesOn]
  rfl

/-- Steps that are not followed by all pages are walked as if they were
alone. -/
theorem walk_append (scopes : Scopes) (first : List Step) {second : List Step}
    (apart : second.head?.any Step.isAllPages = false) (chain : Chain) :
    walk scopes (first ++ second) chain =
      walk scopes first chain >>= walk scopes second := by
  induction first generalizing chain with
  | nil =>
      rw [List.nil_append, walk, pure_bind]
  | cons step first induction =>
      cases terminal : chain.terminal with
      | some reducer =>
          rw [List.cons_append, walk, walk, terminal]
          rfl
      | none =>
          have sameAhead : (first ++ second).head?.any Step.isAllPages =
              first.head?.any Step.isAllPages := by
            cases first with
            | nil => exact apart
            | cons _ _ => rfl
          rw [List.cons_append, walk_cons scopes _ _ terminal,
            walk_cons scopes _ _ terminal, sameAhead, bind_assoc]
          simp only [induction]

/-- Steps without pipelines of their own look into no scope. -/
theorem walk_of_navigates {steps : List Step}
    (navigate : ∀ step ∈ steps, step.navigates = true)
    (scopes others : Scopes) :
    walk scopes steps = walk others steps := by
  induction steps with
  | nil => rfl
  | cons step rest induction =>
      have sameRest := induction fun other member =>
        navigate other (List.mem_cons_of_mem _ member)
      have sameStep : walkStep scopes step = walkStep others step := by
        have plain := navigate step List.mem_cons_self
        cases step with
        | property field => rfl
        | call field arguments => rfl
        | allPages nodes => rfl
        | cast typeName => rfl
        | filter typeName => rfl
        | record parameter fields => cases plain
        | value parameter inner => cases plain
        | single => cases plain
        | singleOrDefault => cases plain
        | toList => cases plain
        | toDictionary parameter key value => cases plain
      funext chain
      rw [walk, walk, sameStep, sameRest]

/-! ### Frames around a chain -/

theorem selectableObject_under (chain : Chain) (frames : List Frame)
    (name : String) :
    selectableObject (chain.under frames) name =
      selectableObject chain name := by
  unfold selectableObject
  cases position : chain.position <;> cases list : chain.list <;>
    simp [Chain.under, position, list, Chain.positionName]

theorem selectField_under (chain : Chain) (frames : List Frame)
    (field : FieldDefinition) (arguments : List Argument) (paginate : Bool) :
    selectField (chain.under frames) field arguments paginate =
      (Chain.under · frames) <$>
        selectField chain field arguments paginate := by
  unfold selectField
  rw [selectableObject_under]
  simp only [map_bind]
  congr 1
  funext object
  congr 1
  funext passed
  cases paginate with
  | true =>
      have waiting : ∀ pending, ({ chain.under frames with
            pendingPage := some pending } : Chain) =
          ({ chain with pendingPage := some pending } : Chain).under frames :=
            fun _ => rfl
      simp only [if_true, waiting, advance_under, liftM_map, map_bind]
      rfl
  | false =>
      simp only [Bool.false_eq_true, if_false, advance_under, liftM_map,
        map_bind]

theorem selectAllPages_under (chain : Chain) (frames : List Frame)
    (nodes : FieldDefinition) :
    selectAllPages (chain.under frames) nodes =
      (Chain.under · frames) <$> selectAllPages chain nodes := by
  have samePage : (chain.under frames).pendingPage = chain.pendingPage := rfl
  have samePosition : (chain.under frames).position = chain.position := rfl
  have sameName : (chain.under frames).positionName = chain.positionName := rfl
  unfold selectAllPages
  rw [samePage, samePosition, sameName]
  cases chain.pendingPage with
  | none => rfl
  | some page =>
      cases position : chain.position with
      | value program isList => rfl
      | dictionary entry => rfl
      | object connection =>
          cases nodeType? nodes with
          | none => rfl
          | some element =>
              simp only [map_bind]
              congr 1
              funext info
              congr 1
              funext selected
              cases selected.child with
              | none => rfl
              | some set =>
                  simp only [map_bind, map_pure]
                  congr 1
                  funext id
                  have through := Chain.throughPages_under chain frames id
                    ⟨selected.key, info.1, info.2.1, info.2.2⟩
                    { set
                      type := element
                      absentOk := connection.absentOk || element.isNullable
                      name := nodes.name }
                  rw [← position]
                  exact congrArg pure through

theorem narrowableObject_under (chain : Chain) (frames : List Frame)
    (reducer : String) :
    narrowableObject (chain.under frames) reducer =
      narrowableObject chain reducer :=
  rfl

theorem narrow_under (chain : Chain) (frames : List Frame)
    (object : ObjectPosition) (typeName : String) (mode : NarrowingMode) :
    narrow (chain.under frames) object typeName mode =
      (Chain.under · frames) <$> narrow chain object typeName mode := by
  simp only [narrow, map_bind, map_pure, Chain.push_under]
  rfl

theorem castTo_under (chain : Chain) (frames : List Frame) (typeName : String) :
    castTo (chain.under frames) typeName =
      (Chain.under · frames) <$> castTo chain typeName := by
  simp only [castTo, narrowableObject_under, narrow_under, map_bind]

theorem filterTo_under (chain : Chain) (frames : List Frame)
    (typeName : String) :
    filterTo (chain.under frames) typeName =
      (Chain.under · frames) <$> filterTo chain typeName := by
  simp only [filterTo, narrowableObject_under, map_bind]
  congr 1
  funext object
  cases list : chain.list with
  | some index =>
      have underList :
          (chain.under frames).list = some (frames.length + index) := by
        rw [Chain.under, list, Option.map_some]
      simp only [underList, Chain.countFilter_under, narrow_under]
  | none =>
      have underList : (chain.under frames).list = none := by
        rw [Chain.under, list, Option.map_none]
      simp only [underList]
      split
      · exact narrow_under chain frames object typeName .filter
      · rfl

theorem endSingle_under (chain : Chain) (frames : List Frame) (reducer : String)
    (enforceSingle : Bool) :
    endSingle (chain.under frames) reducer enforceSingle =
      (Chain.under · frames) <$> endSingle chain reducer enforceSingle := by
  have samePosition : (chain.under frames).position = chain.position := rfl
  unfold endSingle
  rw [isList_under, samePosition]
  cases chain.isList with
  | true => rfl
  | false => cases chain.position <;> rfl

theorem endList_under (chain : Chain) (frames : List Frame) :
    endList (chain.under frames) =
      (Chain.under · frames) <$> endList chain := by
  unfold endList
  rw [isList_under]
  cases chain.isList <;> rfl

theorem dictionaryObject_under (chain : Chain) (frames : List Frame) :
    dictionaryObject (chain.under frames) = dictionaryObject chain := by
  unfold dictionaryObject
  cases position : chain.position <;> cases list : chain.list <;>
    simp [Chain.under, position, list, Chain.positionName]

theorem rejoin_under (outer inner : Chain) (frames : List Frame) :
    rejoin (outer.under frames) (inner.under frames) =
      (Chain.under · frames) <$> rejoin outer inner := by
  unfold rejoin
  cases outerList : outer.list <;> cases innerList : inner.list <;>
    simp [Chain.under, outerList, innerList, map_throw, Chain.positionName]

mutual

theorem walkPipeline_under (scopes : Scopes) (frames inner : List Frame)
    (pipeline : Pipeline) :
    walkPipeline scopes (frames ++ inner) pipeline =
      (Chain.under · frames) <$> walkPipeline scopes inner pipeline := by
  cases pipeline with
  | mk source steps =>
      unfold walkPipeline
      cases scopes.resolve? source with
      | none => rfl
      | some place =>
          have started : Chain.start (frames ++ inner) scopes place.1 place.2 =
              (Chain.start inner scopes place.1 place.2).under frames := by
            rw [Chain.start_under, Chain.start_under inner, Chain.under_under]
          exact (congrArg (walk scopes steps) started).trans
            (walk_under scopes steps _ frames)
termination_by structural pipeline

theorem walk_under (scopes : Scopes) (steps : List Step) (chain : Chain)
    (frames : List Frame) :
    walk scopes steps (chain.under frames) =
      (Chain.under · frames) <$> walk scopes steps chain := by
  cases steps with
  | nil => rw [walk, walk, map_pure]
  | cons step rest =>
      cases terminal : chain.terminal with
      | some reducer =>
          have underTerminal : (chain.under frames).terminal = some reducer :=
            terminal
          rw [walk, walk, terminal, underTerminal]
          rfl
      | none =>
          have underTerminal : (chain.under frames).terminal = none := terminal
          rw [walk_cons scopes _ _ terminal, walk_cons scopes _ _ underTerminal,
            walkStep_under scopes step, map_bind, bind_map_left]
          simp only [endedBy_under, walk_under scopes rest]
termination_by structural steps

theorem walkStep_under (scopes : Scopes) (step : Step) (paginate : Bool)
    (chain : Chain) (frames : List Frame) :
    walkStep scopes step paginate (chain.under frames) =
      (Chain.under · frames) <$> walkStep scopes step paginate chain := by
  have sameObject :
      projectedObject (chain.under frames) = projectedObject chain := rfl
  have sameScope : ∀ parameter object,
      (chain.under frames).scope parameter object =
        chain.scope parameter object :=
    fun _ _ => rfl
  cases step with
  | property field => exact selectField_under chain frames field [] paginate
  | call field arguments =>
    exact selectField_under chain frames field arguments paginate
  | allPages nodes => exact selectAllPages_under chain frames nodes
  | cast typeName => exact castTo_under chain frames typeName
  | filter typeName => exact filterTo_under chain frames typeName
  | single => exact endSingle_under chain frames "single" true
  | singleOrDefault =>
    exact endSingle_under chain frames "single_or_default" false
  | toList => exact endList_under chain frames
  | record parameter fields =>
      simp only [walkStep, sameObject, sameScope, map_bind, map_pure]
      rfl
  | value parameter inner =>
      simp only [walkStep, sameObject, sameScope, map_bind]
      congr 1
      funext object
      cases inner.endsTerminal with
      | true =>
          simp only [if_true, map_bind, map_pure]
          rfl
      | false =>
          have around :
              (chain.under frames).frames ++ [Frame.bind scopes.length] =
                frames ++ (chain.frames ++ [.bind scopes.length]) :=
            List.append_assoc frames chain.frames _
          simp only [Bool.false_eq_true, if_false, around, map_bind,
            rejoin_under, walkPipeline_under _ frames _ inner, bind_map_left]
  | toDictionary parameter key value =>
      simp only [walkStep, dictionaryObject_under, sameScope, map_bind,
        map_pure]
      rfl
termination_by structural step

end

end Compile

end GraphPipeline
