import GraphPipeline.Proofs.Compile.Forms
import GraphPipeline.Proofs.Compile.Seams
import GraphPipeline.Proofs.Compile.Mirroring
import GraphPipeline.Proofs.Pagination
import GraphPipeline.Proofs.ListFilters

/-!
# Value projections

Steps can be moved into a value projection of the object they start from.  The
frame the projection adds binds an element nobody reads, so the document and the
program stay as they are.  Only a step that asks for all pages cannot be moved
away from the field whose pages it asks for.
-/

namespace GraphPipeline

/-- Whether the steps of a pipeline lead to one object, from which others can go
on. -/
def Pipeline.denotesObject (pipeline : Pipeline) : Bool :=
  !pipeline.endsTerminal && pipeline.form == .object

theorem Chain.start_innermost (frames : List Frame) (scope : Scope)
    (scopes : Scopes) :
    Chain.start frames (scope :: scopes) scopes.length scope =
      { frames
        position := .object scope.object
        list := none
        path := scope.path
        repeated := scope.repeated
        pendingPage := none
        terminal := none
        enforceSingle := false } := by
  have innermost :
      ¬ scopes.length < Scopes.innermostDepth (scope :: scopes) := by
    simp [Scopes.innermostDepth]
  rw [Chain.start, if_neg innermost]

/-- The frames around a chain are filled with the program of the rest. -/
theorem Chain.finish_under {chain : Chain}
    (listed : chain.position.kind = .dictionary → chain.list.isSome = true)
    (frames : List Frame) :
    (chain.under frames).finish =
      ({ chain with enforceSingle := false } : Chain).finish.map fun program =>
        if chain.enforceSingle then .enforceSingle (fillFrames frames program)
        else fillFrames frames program := by
  unfold Chain.finish
  cases position : chain.position with
  | object object =>
      simp only [Chain.under, position]
      rfl
  | value program isList =>
      simp only [Chain.under, position, fillFrames_append]
      rfl
  | dictionary entry =>
      obtain ⟨index, list⟩ :=
        Option.isSome_iff_exists.mp (listed (by rw [position]; rfl))
      have before : (frames ++ chain.frames).take (frames.length + index) =
          frames ++ chain.frames.take index :=
        List.take_length_add_append index
      have after : (frames ++ chain.frames).drop (frames.length + index + 1) =
          chain.frames.drop (index + 1) := by
        rw [Nat.add_assoc]
        exact List.drop_length_add_append (index + 1)
      simp only [Chain.under, position, list, Option.map_some, Option.getD_some,
        before, after, fillFrames_append]
      rfl

/-- A frame that binds an element nobody reads leaves the program as it is. -/
theorem fillFrames_bind_unread (frames : List Frame) {depth : Nat}
    {program : Program}
    (unread : program.readsBound depth = false) :
    fillFrames (frames ++ [.bind depth]) program =
      fillFrames frames program := by
  have filled : fillFrames [.bind depth] program = program := by
    change program.bindIfRead depth = program
    rw [Program.bindIfRead, if_neg (by simp [unread])]
  rw [fillFrames_append, filled]

namespace Compile

variable {kind : OperationKind} {start : Chain} {object : ObjectPosition}
  {parameter : Parameter} {projected after : List Step}

theorem endsTerminal_of_navigates {source : Source} {steps : List Step}
    (navigate : ∀ step ∈ steps, step.navigates = true) :
    (Pipeline.mk source steps).endsTerminal = false := by
  cases last : steps.getLast? with
  | none =>
      rw [Pipeline.endsTerminal, Pipeline.steps, last]
      rfl
  | some step =>
      rw [Pipeline.endsTerminal, Pipeline.steps, last]
      exact Step.isTerminal_of_navigates
        (navigate step (List.mem_of_getLast? last))

/-- A chain without frames at an object that has been selected, from which a
walk goes on in the scope of the root. -/
structure StandsOn (before : CompileState) (kind : OperationKind)
    (chain : Chain) (object : ObjectPosition) : Prop where
  formed : before.WellFormed AnyName
  root : Scopes.Within before.selections [rootScope kind]
  position : chain.position = .object object
  within : object.set < before.selections.sets.length
  reached : before.selections.ReachesSet chain.path object.set
  frames : chain.frames = []
  list : chain.list = none
  pendingPage : chain.pendingPage = none
  unended : chain.Unended

section seam

variable {before final : CompileState} {last : Chain}

/-- A projection starts where its chain is, inside of a frame more. -/
theorem walkStep_value (standsOn : StandsOn before kind start object)
    (navigate : ∀ step ∈ projected, step.navigates = true) (scopes : Scopes)
    (paginate : Bool) (outer : List Frame) :
    walkStep scopes (.value parameter (.mk (.parameter parameter) projected))
        paginate (start.under outer) =
      (Chain.under · (outer ++ [.bind scopes.length])) <$>
        walk scopes projected start := by
  have atObject : projectedObject (start.under outer) = pure object := by
    unfold projectedObject Chain.under
    rw [standsOn.position]
  have goesOn :
      (Pipeline.mk (.parameter parameter) projected).endsTerminal = false :=
    endsTerminal_of_navigates navigate
  have inside :
      Chain.start ((start.under outer).frames ++ [.bind scopes.length])
        ((start.under outer).scope parameter object :: scopes) scopes.length
        ((start.under outer).scope parameter object) =
        start.under (outer ++ [.bind scopes.length]) := by
    rw [Chain.start_innermost]
    simp [Chain.under, Chain.scope, standsOn.position, standsOn.frames,
      standsOn.list, standsOn.pendingPage, standsOn.unended.terminal,
      standsOn.unended.enforceSingle]
  have rejoins : rejoin (start.under outer) = pure := by
    funext inner
    unfold rejoin Chain.under
    rw [standsOn.list]
    rfl
  have found :
      Scopes.resolve? ((start.under outer).scope parameter object :: scopes)
        (.parameter parameter) =
        some (scopes.length, (start.under outer).scope parameter object) := by
    simp [Scopes.resolve?, Chain.scope]
  rw [walkStep, atObject, pure_bind, goesOn]
  simp only [Bool.false_eq_true, if_false]
  rw [walkPipeline, found, rejoins, bind_pure]
  dsimp only
  rw [inside, walk_under, walk_of_navigates navigate _ scopes]

/-- Every path is open, so that fields can be read one by one anywhere. -/
theorem opens_everywhere (document : CompileState) :
    Opens document (fun _ => True) (fun _ _ => True) :=
  fun _ _ _ _ => trivial

theorem StandsOn.stands (standsOn : StandsOn before kind start object)
    (grows : before.Grows final) :
    start.Stands final (fun _ => True) [rootScope kind]
      (start.placeOf object) := by
  unfold Chain.Stands
  rw [standsOn.position]
  constructor
  · rw [standsOn.frames, standsOn.list]
    apply Passage.plain
    · intro frame member
      cases member
    · exact fun places inner _ _ fits => fits places fun _ _ => rfl
  · refine ⟨standsOn.reached.grow grows.selections, fun _ => Or.inr trivial, ?_⟩
    intro page waiting
    rw [standsOn.pendingPage] at waiting
    cases waiting

/-- What steps lead to from an object in the scope of the root reads no element
that is bound inside of it. -/
theorem unread_of_walk (standsOn : StandsOn before kind start object)
    {steps : List Step}
    (walking : walk [rootScope kind] steps start before = .ok (last, final)) :
    (last.position.kind = .dictionary → last.list.isSome = true) ∧
      ∀ {program},
        ({ last with enforceSingle := false } : Chain).finish = .ok program →
        program.readsBound 1 = false := by
  rw [← start.under_nil] at walking
  obtain ⟨own, rfl, arrives⟩ := walk_arrives steps standsOn.formed anyPageNames
    (Pipeline.eachFieldOfSteps (fun _ _ => trivial) steps) standsOn.root
    (by rw [standsOn.position]; exact standsOn.within)
    (Chain.pends_of_none standsOn.pendingPage) walking
  rw [Chain.under_nil]
  have standing : Scopes.Stand final (fun _ => True) [rootScope kind] := by
    intro scope member
    obtain rfl := List.mem_singleton.mp member
    exact ⟨.root, Or.inr trivial⟩
  obtain ⟨stands, _⟩ := walksSteps_stand steps (opens_everywhere final)
    (arrives.derives final (CompileState.Grows.refl final))
    (Pipeline.eachFieldOfSteps (fun _ _ => trivial) steps) standing
    (standsOn.stands arrives.grows) (fun waiting => by
      rw [standsOn.pendingPage] at waiting
      cases waiting)
  constructor
  · intro kind
    unfold Chain.Stands at stands
    cases position : own.position with
    | object object => rw [position] at kind; cases kind
    | value program isList => rw [position] at kind; cases kind
    | dictionary entry =>
        simp only [position] at stands
        obtain ⟨index, list, _⟩ := stands
        rw [list]
        rfl
  · intro program finished
    have bound : Scopes.Bound [rootScope kind] Places.root :=
      ⟨Function.update_self .., trivial⟩
    have fits :=
      (enforced_stands stands false).finish finished Places.root bound
    cases reads : program.readsBound 1 with
    | false => rfl
    | true =>
      exact absurd (fits.isSome_of_readsBound 1 reads) (by simp [Places.root])

/-- Steps can be moved into a projection of the object they start from, unless a
step that asks for all pages is at one of its ends. -/
theorem walk_value (standsOn : StandsOn before kind start object)
    (navigate : ∀ step ∈ projected, step.navigates = true)
    (apart : after.head?.any Step.isAllPages = false) (outer : List Frame) :
    (walk [rootScope kind]
        (.value parameter (.mk (.parameter parameter) projected) :: after)
        (start.under outer) >>= finish) before =
      (walk [rootScope kind] (projected ++ after) (start.under outer) >>=
        finish) before := by
  have goesOn : (start.under outer).terminal = none := standsOn.unended.terminal
  have joined : walk [rootScope kind]
      (.value parameter (.mk (.parameter parameter) projected) :: after)
        (start.under outer) =
      (Chain.under · (outer ++ [.bind 1])) <$>
        walk [rootScope kind] (projected ++ after) start := by
    rw [walk_cons _ _ _ goesOn, walkStep_value standsOn navigate,
      walk_append _ _ apart, map_bind, bind_map_left]
    congr 1
    funext inner
    exact walk_under [rootScope kind] after inner (outer ++ [.bind 1])
  rw [joined, walk_under, bind_map_left, bind_map_left]
  cases walking : walk [rootScope kind] (projected ++ after) start before with
  | error error => rw [bind_of_error walking, bind_of_error walking]
  | ok pair =>
      obtain ⟨last, final⟩ := pair
      obtain ⟨listed, unread⟩ := unread_of_walk standsOn walking
      rw [bind_of_ok walking, bind_of_ok walking, finish, finish,
        Chain.finish_under listed, Chain.finish_under listed]
      cases finished :
          ({ last with enforceSingle := false } : Chain).finish with
      | error error => rfl
      | ok program =>
          simp only [Except.map, fillFrames_bind_unread outer (unread finished)]

/-- Steps from the root of an operation arrive at a chain. -/
theorem walk_root_arrives {steps : List Step} {last : Chain}
    {final : CompileState}
    (walking : walk [rootScope kind] steps
      (.start [] [rootScope kind] 0 (rootScope kind)) CompileState.initial =
        .ok (last, final)) :
    Arrives AnyName CompileState.initial final false
      (fun document next => WalksSteps document [rootScope kind] steps
        (.start [] [rootScope kind] 0 (rootScope kind)) next) last := by
  have within :
      (Chain.start [] [rootScope kind] 0 (rootScope kind)).position.Within
      CompileState.initial.selections := Nat.zero_lt_one
  rw [← (Chain.start [] [rootScope kind] 0
      (rootScope kind)).under_nil] at walking
  obtain ⟨own, same, arrives⟩ :=
    walk_arrives steps (CompileState.initial_wellFormed AnyName) anyPageNames
      (Pipeline.eachFieldOfSteps (fun _ _ => trivial) steps)
      (rootScope_within kind)
    within (Chain.pends_of_none rfl) walking
  rw [Chain.under_nil] at same
  rw [same]
  exact arrives

/-- The steps of a pipeline that denotes an object lead to one from which others
go on. -/
theorem standsOn_of_walk {source : Source} {steps : List Step}
    (denotes : (Pipeline.mk source steps).denotesObject = true)
    (walking : walk [rootScope kind] steps
      (.start [] [rootScope kind] 0 (rootScope kind)) CompileState.initial =
        .ok (last, final)) :
    ∃ start object outer,
      last = start.under outer ∧ StandsOn final kind start object := by
  simp only [Pipeline.denotesObject, Bool.and_eq_true, Bool.not_eq_true',
    beq_iff_eq] at denotes
  have arrives := walk_root_arrives walking
  have walks : Walks final [rootScope kind] (.mk (.root kind) steps) last :=
    .mk rfl (arrives.derives final (CompileState.Grows.refl final))
  have sameForm : last.form = .object :=
    (walks_form _ arrives.formed walks).trans denotes.2
  obtain ⟨object, atObject⟩ := last.object_of_kind (congrArg Form.kind sameForm)
  have noList : last.list = none := by
    have unmapped := congrArg Form.mapped sameForm
    simpa [Chain.form, Form.object] using unmapped
  have standing : Scopes.Stand final (fun _ => True) [rootScope kind] := by
    intro scope member
    obtain rfl := List.mem_singleton.mp member
    exact ⟨.root, Or.inr trivial⟩
  obtain ⟨stands, _⟩ := walks_stand _ (opens_everywhere final) walks
    (Pipeline.eachField (fun _ _ => trivial) _) standing
  have within := arrives.within
  rw [atObject] at within
  refine ⟨{ last with frames := [] }, object, last.frames, ?_, ?_⟩
  · simp only [Chain.under, List.append_nil, noList, Option.map_none]
    rw [← noList]
  · exact
      { formed := arrives.formed
        root := (rootScope_within kind).grow arrives.grows.selections
        position := atObject
        within
        reached := (stands.object atObject).2.reached
        frames := rfl
        list := noList
        pendingPage := arrives.pends.none
        unended := by
          obtain ⟨terminal, enforceSingle⟩ :=
            walks_unended _ arrives.formed walks denotes.1
          exact ⟨terminal, enforceSingle⟩ }

/-- A pipeline that starts from the root is walked in the scope of the root. -/
theorem pipeline_root (kind : OperationKind) (steps : List Step) :
    pipeline [rootScope kind] (.mk (.root kind) steps) =
      walk [rootScope kind] steps
          (.start [] [rootScope kind] 0 (rootScope kind)) >>= finish := by
  rw [pipeline, walkPipeline]
  rfl

/-- All pages can be asked for of a field only. -/
theorem waits_of_allPages {scopes : Scopes} {nodes : FieldDefinition}
    {rest : List Step}
    {chain : Chain}
    (walking : walk scopes (.allPages nodes :: rest) chain before =
      .ok (last, final)) : chain.pendingPage ≠ none := by
  intro noPage
  unfold walk at walking
  cases terminal : chain.terminal with
  | some reducer => simp [terminal] at walking
  | none =>
      simp only [terminal, bind_eq_ok, walkStep] at walking
      obtain ⟨next, middle, selecting, _⟩ := walking
      simp [selectAllPages, noPage] at selecting

/-- A projection whose steps succeed asks for no pages across its ends. -/
theorem apart_of_walk_value (standsOn : StandsOn before kind start object)
    (navigate : ∀ step ∈ projected, step.navigates = true) {outer : List Frame}
    (walking : walk [rootScope kind]
      (.value parameter (.mk (.parameter parameter) projected) :: after)
      (start.under outer) before = .ok (last, final)) :
    projected.head?.any Step.isAllPages = false ∧
      after.head?.any Step.isAllPages = false := by
  have goesOn : (start.under outer).terminal = none := standsOn.unended.terminal
  rw [walk_cons _ _ _ goesOn, walkStep_value standsOn navigate, bind_map_left,
    bind_eq_ok] at walking
  obtain ⟨inner, middle, inside, outside⟩ := walking
  have goesOnInside :
      (Step.value parameter (.mk (.parameter parameter) projected)).isTerminal =
        false := rfl
  rw [Chain.endedBy, if_neg (by simp [goesOnInside])] at outside
  constructor
  · cases projected with
    | nil => rfl
    | cons step rest =>
        cases step with
        | allPages nodes =>
          exact absurd standsOn.pendingPage (waits_of_allPages inside)
        | _ => rfl
  · cases after with
    | nil => rfl
    | cons step rest =>
        cases step with
        | allPages nodes =>
            rw [← start.under_nil] at inside
            obtain ⟨own, rfl, arrives⟩ :=
              walk_arrives projected standsOn.formed anyPageNames
                (Pipeline.eachFieldOfSteps (fun _ _ => trivial) projected)
                standsOn.root (by rw [standsOn.position]; exact standsOn.within)
                (Chain.pends_of_none standsOn.pendingPage) inside
            have noPage :
                ((own.under []).under (outer ++ [.bind 1])).pendingPage =
                  none := arrives.pends.none
            exact absurd noPage (waits_of_allPages outside)
        | _ => rfl

end seam

/-- Nothing is bound around a pipeline that is compiled. -/
theorem compile_parameter (parameter : Parameter) (steps : List Step) :
    compile (.mk (.parameter parameter) steps) = .error .unboundParameter := by
  unfold compile
  cases (Pipeline.mk (.parameter parameter) steps).operationKind? with
  | none => rfl
  | some kind => rfl

theorem compile_root (kind : OperationKind) (steps : List Step) :
    compile (.mk (.root kind) steps) =
      (Compile.pipeline [rootScope kind] (.mk (.root kind) steps)
        CompileState.initial).map fun (program, state) =>
          { operation := state.operation kind, program,
            subqueries := state.subqueries } := by
  have sameKind :
      (Pipeline.mk (.root kind) steps).operationKind? = some kind := by
    simp [Pipeline.operationKind?, Source.operationKind?]
  rw [compile, sameKind]

end Compile

open Compile

variable {source : Source} {before projected after : List Step}
  {parameter : Parameter}

/-- A pipeline compiles to the same operation, or fails with the same error,
when steps are moved into a value projection and leave no step behind that asks
for all pages. -/
theorem compile_valueProjected_eq
    (denotes : (Pipeline.mk source before).denotesObject = true)
    (navigate : ∀ step ∈ projected, step.navigates = true)
    (inside : projected.head?.any Step.isAllPages = false)
    (outside : after.head?.any Step.isAllPages = false) :
    compile (.mk source
        (before ++ .value parameter (.mk (.parameter parameter) projected) ::
          after)) =
      compile (.mk source (before ++ projected ++ after)) := by
  cases source with
  | parameter other => rw [compile_parameter, compile_parameter]
  | root kind =>
      have apart : (projected ++ after).head?.any Step.isAllPages = false := by
        cases projected with
        | nil => exact outside
        | cons step rest => exact inside
      rw [compile_root, compile_root, List.append_assoc]
      congr 1
      rw [pipeline_root, pipeline_root, walk_append _ before rfl,
        walk_append _ before apart, bind_assoc, bind_assoc]
      cases walking : walk [rootScope kind] before
          (.start [] [rootScope kind] 0 (rootScope kind))
            CompileState.initial with
      | error error => rw [bind_of_error walking, bind_of_error walking]
      | ok pair =>
          obtain ⟨last, middle⟩ := pair
          obtain ⟨start, object, outer, rfl, standsOn⟩ :=
            standsOn_of_walk denotes walking
          rw [bind_of_ok walking, bind_of_ok walking]
          exact walk_value standsOn navigate outside outer

/-- Value projections are transparent to accepted pipelines, but for the steps
that ask for all pages of a field on the other side of the projection. -/
theorem compile_valueProjected_iff {compiled : CompiledOperation}
    (denotes : (Pipeline.mk source before).denotesObject = true)
    (navigate : ∀ step ∈ projected, step.navigates = true)
    (accepted :
      compile (.mk source (before ++ projected ++ after)) = .ok compiled) :
    compile (.mk source
        (before ++ .value parameter (.mk (.parameter parameter) projected) ::
          after)) =
        .ok compiled ↔
      projected.head?.any Step.isAllPages = false ∧
        after.head?.any Step.isAllPages = false := by
  constructor
  · intro success
    cases source with
    | parameter other =>
        rw [compile_parameter] at accepted
        cases accepted
    | root kind =>
        obtain ⟨_, program, final, sameKind, compiling, _⟩ :=
          compile_eq_ok success
        obtain rfl : kind = _ := Option.some.inj sameKind
        rw [pipeline_root, walk_append _ before rfl, bind_assoc,
          bind_eq_ok] at compiling
        obtain ⟨last, middle, walking, compiling⟩ := compiling
        obtain ⟨start, object, outer, rfl, standsOn⟩ :=
          standsOn_of_walk denotes walking
        obtain ⟨_, _, continuing, _⟩ := bind_eq_ok.mp compiling
        exact apart_of_walk_value standsOn navigate continuing
  · intro apart
    rw [compile_valueProjected_eq denotes navigate apart.1 apart.2, accepted]

namespace Sample

/-- The steps from the owner of something to the name of the team that owns its
owner. -/
def teamOfUser : List Step := [.filter "User", .property team]

def teamName : List Step := [.cast "Team", .property name, .singleOrDefault]

/-- The steps that ask for items, and those that go on with all of their
pages. -/
def askItems : List Step := [.call items []]

def titlesOfPages : List Step :=
  [.allPages nodes, .value "item" ((Pipeline.parameter "item").property title),
   .toList]

end Sample

theorem compile_teamName_projected :
    ∃ compiled,
      compile (.mk (.root .query)
        ([.property Sample.owner] ++ Sample.teamOfUser ++ Sample.teamName)) =
          .ok compiled ∧
      compile (.mk (.root .query)
        ([.property Sample.owner] ++
          .value "x" (.mk (.parameter "x") Sample.teamOfUser) ::
            Sample.teamName)) =
        .ok compiled := by
  have accepted : (compile (.mk (.root .query)
      ([.property Sample.owner] ++ Sample.teamOfUser ++
          Sample.teamName))).isOk = true := by
    cbv
  cases success : compile (.mk (.root .query)
      ([.property Sample.owner] ++ Sample.teamOfUser ++ Sample.teamName)) with
  | error error =>
      rw [success] at accepted
      cases accepted
  | ok compiled =>
      have navigate : ∀ step ∈ Sample.teamOfUser, step.navigates = true := by
        intro step member
        simp only [Sample.teamOfUser, List.mem_cons, List.not_mem_nil,
          or_false] at member
        rcases member with rfl | rfl <;> rfl
      have denotes :
          (Pipeline.mk (.root .query) [.property Sample.owner]).denotesObject =
            true := by cbv
      exact ⟨compiled, rfl,
        (compile_valueProjected_iff denotes navigate success).mpr ⟨rfl, rfl⟩⟩

/-- Here the pages of a field are asked for outside of the projection the field
is in. -/
theorem pagesOfItems_refused :
    (Pipeline.mk (.root .query) []).denotesObject = true ∧
      (∀ step ∈ Sample.askItems, step.navigates = true) ∧
      (compile (.mk (.root .query)
        ([] ++ Sample.askItems ++ Sample.titlesOfPages))).isOk =
        true ∧
      compile (.mk (.root .query)
        ([] ++ .value "x" (.mk (.parameter "x") Sample.askItems) ::
          Sample.titlesOfPages)) =
        .error (.notAConnection "items") := by
  refine ⟨by cbv, ?_, by cbv, by cbv⟩
  intro step member
  obtain rfl := List.mem_singleton.mp member
  rfl

end GraphPipeline
