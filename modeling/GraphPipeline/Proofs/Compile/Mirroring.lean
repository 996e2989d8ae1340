import GraphPipeline.Proofs.Compile.Fitting
import GraphPipeline.Proofs.ReadPaths
import GraphPipeline.Proofs.SelectedPaths

/-!
# Walks add what their programs read

Each step of a walk adds to the document the paths it adds to the program.  The
paths of a chain are located from its innermost scope: a pipeline that goes back
to an outer scope reads below the path that is bound there.
-/

namespace GraphPipeline

/-! ### Paths along a chain -/

/-- The elements of some scopes are bound at their paths. -/
def Scopes.Along (scopes : Scopes) (bound : Nat → List String) : Prop :=
  ∃ places, scopes.Bound places ∧
    ∀ depth place, depth < scopes.length → places depth = some place →
      bound depth = place.path

namespace Scopes

/-- The path of the innermost scope. -/
def here : Scopes → List String
  | [] => []
  | scope :: _ => scope.path

/-- The selections of every scope are at its path. -/
def Reached (scopes : Scopes) (document : CompileState) : Prop :=
  ∀ scope ∈ scopes, document.selections.ReachesSet scope.path scope.object.set

variable {scopes : Scopes} {bound : Nat → List String}

theorem Along.of_agree {other : Nat → List String} (along : scopes.Along bound)
    (agree : ∀ depth, depth < scopes.length → other depth = bound depth) :
    scopes.Along other := by
  obtain ⟨places, placed, paths⟩ := along
  refine ⟨places, placed, ?_⟩
  intro depth place below found
  rw [agree depth below]
  exact paths depth place below found

theorem Along.inside {scope : Scope} (along : scopes.Along bound) :
    Along (scope :: scopes)
      (Function.update bound scopes.length scope.path) := by
  obtain ⟨places, placed, paths⟩ := along
  have inside : Bound (scope :: scopes) _ := placed.inside
  refine ⟨_, inside, ?_⟩
  intro depth place below found
  by_cases same : depth = scopes.length
  · subst depth
    rw [Function.update_self] at found ⊢
    rw [← Option.some.inj found]
    rfl
  · rw [Function.update_of_ne same] at found ⊢
    exact paths depth place (Nat.lt_of_le_of_ne (Nat.lt_succ_iff.mp below) same)
      found

theorem Along.resolve (along : scopes.Along bound) {source : Source}
    {depth : Nat} {scope : Scope}
    (found : scopes.resolve? source = some (depth, scope)) :
    depth < scopes.length ∧ bound depth = scope.path := by
  obtain ⟨places, placed, paths⟩ := along
  obtain ⟨below, place⟩ := placed.resolve found
  exact ⟨below, paths depth _ below place⟩

theorem Along.innermost {scope : Scope}
    (along : Along (scope :: scopes) bound) :
    bound scopes.length = scope.path := by
  obtain ⟨places, placed, paths⟩ := along
  exact paths _ _ (Nat.lt_succ_self _) placed.1

theorem Reached.grow {before after : CompileState} (grows : before.Grows after)
    (reached : scopes.Reached before) : scopes.Reached after :=
  fun scope member => (reached scope member).grow grows.selections

end Scopes

theorem leadFrames_guardFrames (spot : Spot) (type : TypeRef) :
    leadFrames spot (guardFrames type) = spot := by
  unfold guardFrames
  split <;> rfl

theorem framesRead_guardFrames (spot : Spot) (type : TypeRef) :
    framesRead spot (guardFrames type) = [] := by
  unfold guardFrames
  split <;> rfl

namespace Chain

/-- Where the frames of a chain lead from the innermost scope. -/
def spot (chain : Chain) (scopes : Scopes) (bound : Nat → List String) : Spot :=
  leadFrames ⟨bound, scopes.here⟩ chain.frames

/-- What the program of a position reads. -/
def positionReads (spot : Spot) : Position → List (List String)
  | .object _ => []
  | .value program _ => program.locatedPathsFrom spot
  | .dictionary entry => entry.locatedPathsFrom spot

/-- What the program of a chain reads so far. -/
def reads (chain : Chain) (scopes : Scopes) (bound : Nat → List String) :
    List (List String) :=
  framesRead ⟨bound, scopes.here⟩ chain.frames ++
    positionReads (chain.spot scopes bound) chain.position

/-- A chain at an object is where its path says, and its list is one of its
frames. -/
structure Tracks (scopes : Scopes) (document : CompileState) (chain : Chain) :
    Prop where
  reached : ∀ {object}, chain.position = .object object →
    document.selections.ReachesSet chain.path object.set
  located :
    ∀ {object bound}, chain.position = .object object → scopes.Along bound →
      (chain.spot scopes bound).path = chain.path ∧
        ∀ depth, depth < scopes.length →
          (chain.spot scopes bound).bound depth = bound depth
  listed : ∀ {index}, chain.list = some index →
    ∃ filters, chain.frames[index]? = some (.mapList filters)
  dictionary :
    ∀ {entry}, chain.position = .dictionary entry → chain.list.isSome = true

variable {scopes : Scopes} {document : CompileState} {chain : Chain}
  {bound : Nat → List String}

/-- At an object, the depths of the scopes are bound as they were at the
start. -/
theorem Tracks.along (tracks : chain.Tracks scopes document)
    {object : ObjectPosition}
    (atObject : chain.position = .object object) (along : scopes.Along bound) :
    scopes.Along (chain.spot scopes bound).bound :=
  along.of_agree (tracks.located atObject along).2

theorem reads_of_object {object : ObjectPosition}
    (atObject : chain.position = .object object) :
    chain.reads scopes bound =
      framesRead ⟨bound, scopes.here⟩ chain.frames := by
  simp [reads, atObject, positionReads]

/-- The program of a finished chain reads what the chain does. -/
theorem Tracks.finish (tracks : chain.Tracks scopes document)
    {program : Program}
    (finished : chain.finish = .ok program) :
    program.locatedPathsFrom ⟨bound, scopes.here⟩ =
      chain.reads scopes bound := by
  have ended : ∀ inner : Program,
      (if chain.enforceSingle then Program.enforceSingle inner
          else inner).locatedPathsFrom ⟨bound, scopes.here⟩ =
        inner.locatedPathsFrom ⟨bound, scopes.here⟩ := by
    intro inner
    split <;> rfl
  unfold Chain.finish at finished
  cases position : chain.position with
  | object object => simp [position] at finished
  | value inner isList =>
      simp only [position, Except.ok.injEq] at finished
      rw [← finished, ended, locatedPathsFrom_fillFrames]
      simp only [reads, position, positionReads, spot]
  | dictionary entry =>
      simp only [position, Except.ok.injEq] at finished
      rw [← finished, ended]
      obtain ⟨index, list⟩ :=
        Option.isSome_iff_exists.mp (tracks.dictionary position)
      obtain ⟨filters, found⟩ := tracks.listed list
      -- The mapped list of the frames becomes the dictionary, which leads as it
      -- does.
      have split : chain.frames =
          chain.frames.take index ++ .mapList filters ::
            chain.frames.drop (index + 1) := by
        obtain ⟨inside, same⟩ := List.getElem?_eq_some_iff.mp found
        rw [← same, ← List.drop_eq_getElem_cons inside, List.take_append_drop]
      simp only [list, Option.getD_some, locatedPathsFrom_fillFrames,
        Program.locatedPathsFrom]
      simp only [reads, spot, position, positionReads]
      rw [← List.append_assoc]
      congr 1
      · conv_rhs => rw [split]
        rw [framesRead_append]
        rfl
      · conv_rhs => rw [split]
        rw [leadFrames_append]
        rfl

end Chain

/-! ### Steps -/

/-- A walk from one chain to another adds to the document what it adds to the
program. -/
structure Mirrors (scopes : Scopes) (before after : CompileState)
    (chain last : Chain) :
    Prop where
  tracks : last.Tracks scopes after
  adds : ∃ added, before.selections.Adds after.selections added ∧
    ∀ {bound}, scopes.Along bound → ∀ path,
      path ∈ last.reads scopes bound ↔
        path ∈ chain.reads scopes bound ∨ path ∈ added

theorem Mirrors.trans {scopes : Scopes} {first second third : CompileState}
    {chain next last : Chain} (early : Mirrors scopes first second chain next)
    (late : Mirrors scopes second third next last) :
    Mirrors scopes first third chain last := by
  obtain ⟨added, adds, reads⟩ := early.adds
  obtain ⟨more, addsMore, readsMore⟩ := late.adds
  refine ⟨late.tracks, added ++ more, adds.trans addsMore, ?_⟩
  intro bound along path
  rw [readsMore along, reads along, List.mem_append, or_assoc]

theorem Mirrors.tree {scopes : Scopes} {before after : CompileState}
    {chain last : Chain}
    (mirrors : Mirrors scopes before after chain last) :
    after.selections.IsTree :=
  mirrors.adds.elim fun _ facts => facts.1.tree

/-- A walk that leaves the document alone reads nothing new. -/
theorem Mirrors.of_same {scopes : Scopes} {state : CompileState}
    {chain last : Chain}
    (tree : state.selections.IsTree) (tracks : last.Tracks scopes state)
    (sameReads : ∀ bound, last.reads scopes bound = chain.reads scopes bound) :
    Mirrors scopes state state chain last := by
  refine ⟨tracks, [], .refl tree, ?_⟩
  intro bound _ path
  simp [sameReads]

/-- Frames more lead to an object and read what the document is added. -/
theorem Mirrors.extend {scopes : Scopes} {before after : CompileState}
    {chain last : Chain} {object inner : ObjectPosition} {more : List Frame}
    {added : List (List String)}
    (tracks : chain.Tracks scopes before)
    (atObject : chain.position = .object object)
    (lastAt : last.position = .object inner)
    (frames : last.frames = chain.frames ++ more)
    (adds : before.selections.Adds after.selections added)
    (reached : after.selections.ReachesSet last.path inner.set)
    (leads : ∀ spot, spot.path = chain.path →
      leadFrames spot more = { spot with path := last.path } ∧
        ∀ path, path ∈ framesRead spot more ↔ path ∈ added)
    (listed : ∀ {index}, last.list = some index →
      ∃ filters, last.frames[index]? = some (.mapList filters)) :
    Mirrors scopes before after chain last := by
  have sameSpot : ∀ {bound}, scopes.Along bound → last.spot scopes bound =
      { chain.spot scopes bound with path := last.path } := by
    intro bound along
    have located := tracks.located atObject along
    simp only [Chain.spot, frames, leadFrames_append]
    exact (leads _ located.1).1
  constructor
  · constructor
    · intro place lastPlace
      rw [lastAt] at lastPlace
      obtain rfl := Position.object.inj lastPlace
      exact reached
    · intro _ bound _ along
      rw [sameSpot along]
      exact ⟨rfl, (tracks.located atObject along).2⟩
    · exact listed
    · intro entry noObject
      rw [lastAt] at noObject
      cases noObject
  · refine ⟨added, adds, ?_⟩
    intro bound along path
    rw [Chain.reads_of_object atObject, Chain.reads_of_object lastAt, frames,
      framesRead_append, List.mem_append]
    exact or_congr_right ((leads _ (tracks.located atObject along).1).2 path)

/-- A value that is made of the object a chain is at. -/
theorem Mirrors.ending {scopes : Scopes} {before after : CompileState}
    {chain : Chain} {object : ObjectPosition} {position : Position}
    {added : List (List String)}
    (tracks : chain.Tracks scopes before)
    (atObject : chain.position = .object object)
    (noObject : ∀ inner, position ≠ .object inner)
    (listed :
      ∀ {entry}, position = .dictionary entry → chain.list.isSome = true)
    (adds : before.selections.Adds after.selections added)
    (reads : ∀ spot, spot.path = chain.path → scopes.Along spot.bound →
      ∀ path, path ∈ Chain.positionReads spot position ↔ path ∈ added) :
    Mirrors scopes before after chain { chain with position } := by
  constructor
  · constructor
    · intro inner same
      exact absurd same (noObject inner)
    · intro inner _ same
      exact absurd same (noObject inner)
    · exact tracks.listed
    · exact listed
  · refine ⟨added, adds, ?_⟩
    intro bound along path
    rw [Chain.reads_of_object atObject]
    simp only [Chain.reads, List.mem_append]
    apply or_congr_right
    exact reads _ (tracks.located atObject along).1
      (tracks.along atObject along) path

namespace Compile

/-- No condition on the names of fields. -/
abbrev AnyName (_ : String) : Prop := True

theorem anyPageNames : PageNames AnyName :=
  ⟨trivial, trivial, trivial⟩

variable {before after : CompileState} {scopes : Scopes} {chain : Chain}

theorem selectIn_adds (formed : before.WellFormed AnyName)
    (tree : before.selections.IsTree) {set : SetId}
    (bound : set < before.selections.sets.length) {start : List String}
    (reached : before.selections.ReachesSet start set)
    {definition : FieldDefinition} {arguments : List Argument}
    {selected : SelectedField}
    (success :
      selectIn set definition arguments before = .ok (selected, after)) :
    before.selections.Adds after.selections [start ++ [selected.key]] := by
  obtain ⟨selections, result, rfl⟩ := selectIn_eq_ok success
  exact Selections.field_adds formed.selections tree bound reached result

theorem fragmentIn_adds (formed : before.WellFormed AnyName)
    (tree : before.selections.IsTree) {set id : SetId}
    (bound : set < before.selections.sets.length) {typeName : String}
    (success : fragmentIn set typeName before = .ok (id, after)) :
    before.selections.Adds after.selections [] := by
  obtain ⟨_, rfl⟩ := fragmentIn_eq_ok success
  exact Selections.fragment_adds formed.selections tree bound rfl

theorem pushSubquery_sameSelections {variableName : String}
    {initialCursor : Option String} {path : List String} {keys : PageKeys}
    {id : SubqueryId}
    (success :
      pushSubquery variableName initialCursor path keys before =
        .ok (id, after)) :
    after.selections = before.selections := by
  obtain ⟨_, rfl⟩ := pushSubquery_eq_ok success
  rfl

theorem under_injective {first second : Chain} {frames : List Frame}
    (same : first.under frames = second.under frames) : first = second := by
  obtain ⟨firstFrames, _, firstList, _, _, _, _, _⟩ := first
  obtain ⟨secondFrames, _, secondList, _, _, _, _, _⟩ := second
  simp only [Chain.under, Chain.mk.injEq, List.append_cancel_left_eq] at same
  obtain ⟨rfl, rfl, lists, rfl, rfl, rfl, rfl, rfl⟩ := same
  have sameList : firstList = secondList :=
    Option.map_injective (fun _ _ equal => Nat.add_left_cancel equal) lists
  rw [sameList]

/-! ### Selecting fields -/

theorem advance_mirrors {object : ObjectPosition} {field : FieldDefinition}
    {selected : SelectedField} {next : Chain}
    (tracks : chain.Tracks scopes before)
    (atObject : chain.position = .object object) (noList : chain.list = none)
    (adds :
      before.selections.Adds after.selections [chain.path ++ [selected.key]])
    (below : ∀ {set}, selected.child = some set →
      after.selections.ReachesSet (chain.path ++ [selected.key]) set)
    (advanced : advance chain object field selected = .ok next) :
    Mirrors scopes before after chain next := by
  have reads : ∀ spot : Spot, spot.path = chain.path →
      ∀ path, path ∈ [spot.path ++ [selected.key]] ↔
        path ∈ [chain.path ++ [selected.key]] := by
    intro spot same path
    rw [same]
  unfold advance at advanced
  cases child : selected.child with
  | none =>
      simp only [child, Except.ok.injEq] at advanced
      subst next
      have ending : Mirrors scopes before after chain
          { chain with
            position :=
              .value (.readScalar selected.key field.type)
                field.type.isList } := by
        apply Mirrors.ending tracks atObject _ _ adds
        · intro spot same _
          exact reads spot same
        · intro inner same
          cases same
        · intro entry same
          cases same
      refine ⟨⟨?_, ?_, ending.tracks.listed, ending.tracks.dictionary⟩,
        ending.adds⟩
      · intro inner same
        cases same
      · intro inner _ same
        cases same
  | some set =>
      simp only [child] at advanced
      cases elementOf : field.type.element? with
      | none =>
          simp only [elementOf, guardNull_eq, Chain.push, List.append_assoc,
            List.singleton_append, Except.ok.injEq] at advanced
          subst next
          refine .extend tracks atObject rfl rfl adds (below child) ?_ ?_
          · intro spot same
            constructor
            · simp [leadFrames, Frame.lead, leadFrames_guardFrames, Spot.below,
                same]
            · simpa [framesRead, Frame.reads, framesRead_guardFrames]
                using reads spot same
          · intro index list
            rw [noList] at list
            cases list
      | some element =>
          simp only [elementOf, guardNull_eq, mapList_eq, Chain.push,
            List.append_assoc, List.singleton_append] at advanced
          split at advanced
          · cases advanced
          · obtain rfl := Except.ok.inj advanced
            refine .extend tracks atObject rfl rfl adds (below child) ?_ ?_
            · intro spot same
              constructor
              · simp [leadFrames, leadFrames_append, Frame.lead,
                  leadFrames_guardFrames, Spot.below, same]
              · simpa [framesRead, framesRead_append, Frame.reads,
                  framesRead_guardFrames] using reads spot same
            · intro index list
              obtain rfl := Option.some.inj list
              refine ⟨0, ?_⟩
              rw [← List.append_assoc, List.getElem?_append_right (by simp)]
              simp

/-- Once a field is selected, the set below it is reached under its key. -/
theorem Selects.below {document : CompileState} {path : List String}
    {set : SetId} {definition : FieldDefinition} {arguments : List Argument}
    {selected : SelectedField}
    (reached : document.selections.ReachesSet path set)
    (holds : document.selections.Holds set definition arguments selected)
    {inner : SetId}
    (child : selected.child = some inner) :
    document.selections.ReachesSet (path ++ [selected.key]) inner := by
  obtain ⟨record, member, _, _, rfl⟩ := holds
  exact reached.field member child

theorem Tracks.of_sameDocument {middle : CompileState}
    (same : before.SameDocument middle) (tracks : chain.Tracks scopes before) :
    chain.Tracks scopes middle := by
  constructor
  · intro object atObject
    rw [same.1]
    exact tracks.reached atObject
  · exact tracks.located
  · exact tracks.listed
  · exact tracks.dictionary

theorem selectField_mirrors {frames : List Frame} {own : Chain}
    {field : FieldDefinition} {arguments : List Argument} {paginate : Bool}
    (formed : before.WellFormed AnyName) (tree : before.selections.IsTree)
    (within : chain.position.Within before.selections)
    (tracks : chain.Tracks scopes before)
    (success :
      selectField (chain.under frames) field arguments paginate before =
        .ok (own.under frames, after)) :
    Mirrors scopes before after chain own := by
  simp only [selectField, bind_eq_ok] at success
  obtain ⟨object, start, selectable, ⟨written, cursor⟩, passed, passing,
    success⟩ := success
  obtain ⟨atObject, noList, rfl⟩ := selectableObject_spec selectable
  have selects : ∀ {middle : CompileState} {page : Option PendingPage}
      {arguments : List Argument} {selected : SelectedField} {next : Chain},
      start.SameDocument middle →
      selectIn object.set field arguments middle = .ok (selected, after) →
      advance { chain with pendingPage := page } object field selected =
        .ok next →
        Mirrors scopes start after chain next := by
    intro middle page arguments selected next same selecting advanced
    have formedMiddle := same.wellFormed formed
    have bound : object.set < middle.selections.sets.length := by
      rw [atObject] at within
      rw [same.1]
      exact within
    have reached := (Tracks.of_sameDocument same tracks).reached atObject
    have treeMiddle : middle.selections.IsTree := by
      rw [same.1]
      exact tree
    have adds := selectIn_adds formedMiddle treeMiddle bound reached selecting
    obtain ⟨_, grows, _, holds⟩ :=
      selectIn_spec formedMiddle bound trivial selecting
    rw [same.1] at adds
    have mirrors :
        Mirrors scopes start after { chain with pendingPage := page } next :=
      advance_mirrors
        ⟨tracks.reached, tracks.located, tracks.listed, tracks.dictionary⟩
        atObject noList adds
        (Selects.below (reached.grow grows.selections) holds) advanced
    exact ⟨mirrors.tracks, mirrors.adds⟩
  have samePassed := (passArguments_spec passing).1
  cases paginate with
  | false =>
      simp only [Bool.false_eq_true, if_false, bind_eq_ok,
        liftM_eq_ok] at success
      obtain ⟨selected, _, selecting, advancing, rfl⟩ := success
      obtain ⟨next, advanced, same⟩ := advance_of_under advancing
      obtain rfl := under_injective same
      exact selects samePassed selecting advanced
  | true =>
      simp only [if_true, bind_eq_ok, liftM_eq_ok] at success
      obtain ⟨⟨argument, page⟩, prepared, preparing, selected, _, selecting,
        advancing, rfl⟩ := success
      have pending :
          ({ chain.under frames with pendingPage := some page } : Chain) =
            ({ chain with pendingPage := some page } : Chain).under frames :=
              rfl
      rw [pending] at advancing
      obtain ⟨next, advanced, same⟩ := advance_of_under advancing
      obtain rfl := under_injective same
      exact selects (samePassed.trans (preparePage_spec preparing).1) selecting
        advanced

/-! ### Pages -/

theorem selectPageInfo_adds (formed : before.WellFormed AnyName)
    (tree : before.selections.IsTree) {connection : ObjectPosition}
    (bound : connection.set < before.selections.sets.length)
    {path : List String}
    (reached : before.selections.ReachesSet path connection.set)
    {pageInfo hasNextPage endCursor : String}
    (success : selectPageInfo connection before =
      .ok ((pageInfo, hasNextPage, endCursor), after)) :
    before.selections.Adds after.selections
      [path ++ [pageInfo], path ++ [pageInfo, hasNextPage],
        path ++ [pageInfo, endCursor]] := by
  simp only [selectPageInfo, bind_eq_ok] at success
  obtain ⟨info, first, selectingInfo, success⟩ := success
  have addsInfo := selectIn_adds formed tree bound reached selectingInfo
  obtain ⟨formedFirst, growsFirst, _, holdsInfo⟩ :=
    selectIn_spec formed bound trivial selectingInfo
  cases child : info.child with
  | none => simp [child] at success
  | some set =>
      simp only [child, bind_eq_ok, pure_eq_ok] at success
      obtain ⟨next, second, selectingNext, cursor, _, selectingCursor, same,
        rfl⟩ := success
      obtain ⟨rfl, rfl, rfl⟩ : info.key = pageInfo ∧ next.key = hasNextPage ∧
          cursor.key = endCursor := by simpa using same
      have boundFirst := holdsInfo.child_lt formedFirst.selections child
      have reachedFirst :=
        Selects.below (reached.grow growsFirst.selections) holdsInfo child
      have addsNext :=
        selectIn_adds formedFirst addsInfo.tree boundFirst reachedFirst
          selectingNext
      obtain ⟨formedSecond, growsSecond, _, _⟩ :=
        selectIn_spec formedFirst boundFirst trivial selectingNext
      have addsCursor := selectIn_adds formedSecond addsNext.tree
        (Nat.lt_of_lt_of_le boundFirst growsSecond.selections.sets)
        (reachedFirst.grow growsSecond.selections) selectingCursor
      simpa using (addsInfo.trans addsNext).trans addsCursor

theorem selectAllPages_mirrors {frames : List Frame} {own : Chain}
    {nodes : FieldDefinition} (formed : before.WellFormed AnyName)
    (tree : before.selections.IsTree)
    (within : chain.position.Within before.selections)
    (tracks : chain.Tracks scopes before)
    (success : selectAllPages (chain.under frames) nodes before =
      .ok (own.under frames, after)) :
    Mirrors scopes before after chain own := by
  unfold selectAllPages at success
  have samePage : (chain.under frames).pendingPage = chain.pendingPage := rfl
  have samePosition : (chain.under frames).position = chain.position := rfl
  rw [samePage, samePosition] at success
  cases pending : chain.pendingPage with
  | none => simp [pending] at success
  | some page =>
      cases position : chain.position with
      | value program isList => simp [pending, position] at success
      | dictionary entry => simp [pending, position] at success
      | object connection =>
          simp only [pending, position] at success
          cases known : nodeType? nodes with
          | none => simp [known] at success
          | some element =>
              simp only [known, bind_eq_ok] at success
              obtain ⟨⟨pageInfo, hasNextPage, endCursor⟩, first, selectingInfo,
                selected, second, selecting, success⟩ := success
              rw [position] at within
              have reached := tracks.reached position
              have addsInfo :=
                selectPageInfo_adds formed tree within reached selectingInfo
              obtain ⟨formedFirst, growsFirst, _, _⟩ :=
                selectPageInfo_spec formed anyPageNames within selectingInfo
              have boundFirst :=
                Nat.lt_of_lt_of_le within growsFirst.selections.sets
              have reachedFirst := reached.grow growsFirst.selections
              have addsNodes :=
                selectIn_adds formedFirst addsInfo.tree boundFirst reachedFirst
                  selecting
              obtain ⟨_, growsSecond, _, holdsNodes⟩ :=
                selectIn_spec formedFirst boundFirst trivial selecting
              cases child : selected.child with
              | none => simp [child] at success
              | some set =>
                  simp only [child, bind_eq_ok, pure_eq_ok] at success
                  obtain ⟨id, _, pushing, same, rfl⟩ := success
                  have sameSelections := pushSubquery_sameSelections pushing
                  have sameOwn : own = chain.throughPages id
                      ⟨selected.key, pageInfo, hasNextPage, endCursor⟩
                      { set
                        type := element
                        absentOk := connection.absentOk || element.isNullable
                        name := nodes.name } := by
                    apply @under_injective _ _ frames
                    rw [← Chain.throughPages_under]
                    rw [← position] at same
                    exact same.symm
                  subst sameOwn
                  have adds := addsInfo.trans addsNodes
                  rw [← sameSelections] at adds
                  simp only [Chain.throughPages, mapList_eq, Chain.push,
                    List.append_assoc, List.singleton_append]
                  refine .extend tracks position rfl rfl adds ?_ ?_ ?_
                  · rw [sameSelections]
                    exact Selects.below
                      (reachedFirst.grow growsSecond.selections) holdsNodes
                      child
                  · intro spot same
                    constructor
                    · simp [leadFrames, Frame.lead, leadFrames_guardFrames,
                        Spot.below, same]
                    · simp [framesRead, Frame.reads, framesRead_guardFrames,
                        PageKeys.paths, same]
                  · intro index list
                    obtain rfl := Option.some.inj list
                    exact ⟨0, by simp⟩

/-! ### Narrowing and ending -/

theorem leadFrames_countFilter (chain : Chain) (index : Nat) (spot : Spot) :
    leadFrames spot (chain.countFilter index).frames =
      leadFrames spot chain.frames ∧
      framesRead spot (chain.countFilter index).frames =
        framesRead spot chain.frames := by
  simp only [Chain.countFilter]
  generalize chain.frames = frames
  induction frames generalizing index spot with
  | nil => simp
  | cons frame frames induction =>
      cases index with
      | zero => cases frame <;> exact ⟨rfl, rfl⟩
      | succ index =>
          obtain ⟨leads, reads⟩ := induction index (frame.lead spot)
          simp only [List.modify_succ_cons, leadFrames, framesRead, leads,
            reads, and_self]

theorem counted_mirrors (tree : before.selections.IsTree)
    (tracks : chain.Tracks scopes before) (mode : NarrowingMode) :
    Mirrors scopes before before chain (chain.counted mode) := by
  unfold Chain.counted
  split
  · rename_i index listed
    have frames :=
      fun bound => leadFrames_countFilter chain index ⟨bound, scopes.here⟩
    have sameSpot : ∀ bound,
        (chain.countFilter index).spot scopes bound = chain.spot scopes bound :=
      fun bound => (frames bound).1
    refine .of_same tree ⟨tracks.reached, ?_, ?_, tracks.dictionary⟩ ?_
    · intro object bound atObject along
      rw [sameSpot]
      exact tracks.located atObject along
    · intro other list
      obtain ⟨filters, found⟩ := tracks.listed list
      obtain rfl : index = other := Option.some.inj (listed.symm.trans list)
      exact ⟨filters + 1, by simp [Chain.countFilter, found]⟩
    · intro bound
      simp only [Chain.reads, sameSpot, (frames bound).2]
      rfl
  · exact .of_same tree tracks fun _ => rfl

theorem narrow_mirrors {frames : List Frame} {own : Chain}
    {object : ObjectPosition} {typeName : String} {mode : NarrowingMode}
    (formed : before.WellFormed AnyName) (tree : before.selections.IsTree)
    (atObject : chain.position = .object object)
    (within : chain.position.Within before.selections)
    (tracks : chain.Tracks scopes before)
    (success :
      narrow ((chain.counted mode).under frames) object typeName mode before =
        .ok (own.under frames, after)) :
    Mirrors scopes before after chain own := by
  simp only [narrow, bind_eq_ok, pure_eq_ok] at success
  obtain ⟨set, _, narrowing, same, rfl⟩ := success
  rw [atObject] at within
  have adds := fragmentIn_adds formed tree within narrowing
  obtain ⟨_, grows, _, found, _⟩ := fragmentIn_spec formed within narrowing
  have sameOwn : own = chain.narrowedTo object typeName mode set := by
    apply @under_injective _ _ frames
    rw [← same, Chain.push_under]
    rfl
  have counting := counted_mirrors tree tracks mode
  have samePlace : (chain.counted mode).position = chain.position ∧
      (chain.counted mode).path = chain.path := by
    unfold Chain.counted
    split <;> exact ⟨rfl, rfl⟩
  subst sameOwn
  apply counting.trans
  refine .extend counting.tracks (samePlace.1.trans atObject) rfl rfl adds ?_ ?_
    ?_
  · have reached := (tracks.reached atObject).grow grows.selections
    rw [← samePlace.2] at reached
    exact reached.fragment found
  · intro spot same
    constructor
    · simp only [leadFrames, Frame.lead, Chain.narrowedTo, Chain.push, ← same]
    · simp [framesRead, Frame.reads]
  · intro index list
    obtain ⟨filters, found⟩ := counting.tracks.listed list
    refine ⟨filters, ?_⟩
    obtain ⟨inside, _⟩ := List.getElem?_eq_some_iff.mp found
    simp only [Chain.narrowedTo, Chain.push]
    rw [List.getElem?_append_left inside]
    exact found

theorem castTo_mirrors {frames : List Frame} {own : Chain} {typeName : String}
    (formed : before.WellFormed AnyName) (tree : before.selections.IsTree)
    (within : chain.position.Within before.selections)
    (tracks : chain.Tracks scopes before)
    (success : castTo (chain.under frames) typeName before =
      .ok (own.under frames, after)) :
    Mirrors scopes before after chain own := by
  obtain ⟨object, atObject, _, narrows⟩ := castTo_narrows success
  exact narrow_mirrors formed tree atObject within tracks narrows

theorem filterTo_mirrors {frames : List Frame} {own : Chain} {typeName : String}
    (formed : before.WellFormed AnyName) (tree : before.selections.IsTree)
    (within : chain.position.Within before.selections)
    (tracks : chain.Tracks scopes before)
    (success : filterTo (chain.under frames) typeName before =
      .ok (own.under frames, after)) :
    Mirrors scopes before after chain own := by
  obtain ⟨object, atObject, _, _, narrows⟩ := filterTo_narrows success
  exact narrow_mirrors formed tree atObject within tracks narrows

theorem endedBy_mirrors {last : Chain}
    (mirrors : Mirrors scopes before after chain last) (step : Step) :
    Mirrors scopes before after chain (last.endedBy step) := by
  unfold Chain.endedBy
  split
  · have tracks := mirrors.tracks
    exact ⟨⟨tracks.reached, tracks.located, tracks.listed, tracks.dictionary⟩,
      mirrors.adds⟩
  · exact mirrors

theorem enforced_mirrors (tree : before.selections.IsTree)
    (tracks : chain.Tracks scopes before) (enforceSingle : Bool) :
    Mirrors scopes before before chain { chain with enforceSingle } :=
  .of_same tree
    ⟨tracks.reached, tracks.located, tracks.listed, tracks.dictionary⟩
    fun _ => rfl

/-! ### Whole pipelines -/

/-- A pipeline starts at the path of its scope and has read nothing yet. -/
theorem start_tracks {source : Source} {depth : Nat} {scope : Scope}
    (reached : scopes.Reached before)
    (resolved : scopes.resolve? source = some (depth, scope)) :
    (Chain.start [] scopes depth scope).Tracks scopes before ∧
      ∀ bound, (Chain.start [] scopes depth scope).reads scopes bound = [] := by
  have spotOf : ∀ {bound}, scopes.Along bound →
      ((Chain.start [] scopes depth scope).spot scopes bound) =
        ⟨bound, scope.path⟩ := by
    intro bound along
    obtain ⟨below, atDepth⟩ := along.resolve resolved
    unfold Chain.start
    split
    · simp [Chain.spot, leadFrames, Frame.lead, Spot.jump, atDepth]
    · rename_i innermost
      cases scopes with
      | nil => cases below
      | cons head outer =>
          have sameDepth : depth = outer.length := by
            simp only [Scopes.innermostDepth, List.length_cons,
              Nat.add_sub_cancel] at innermost below
            omega
          have samePath : head.path = scope.path := by
            rw [← along.innermost, ← sameDepth, atDepth]
          simp [Chain.spot, leadFrames, Scopes.here, samePath]
  constructor
  · constructor
    · intro object atObject
      obtain rfl := Position.object.inj atObject
      exact reached scope (Scopes.mem_of_resolve? resolved)
    · intro object bound _ along
      rw [spotOf along]
      exact ⟨rfl, fun _ _ => rfl⟩
    · intro index list
      cases list
    · intro entry same
      cases same
  · intro bound
    unfold Chain.start
    split <;> rfl

/-- The walk of a pipeline adds to the document what its program reads, whatever
is bound deeper than its scopes. -/
def Reflects (scopes : Scopes) (before after : CompileState)
    (reads : (Nat → List String) → List (List String)) : Prop :=
  ∃ added, before.selections.Adds after.selections added ∧
    ∀ {bound}, scopes.Along bound → ∀ path, path ∈ reads bound ↔ path ∈ added

theorem Reflects.tree {reads : (Nat → List String) → List (List String)}
    (reflects : Reflects scopes before after reads) : after.selections.IsTree :=
  reflects.elim fun _ facts => facts.1.tree

/-- The walk of pipelines adds to the document what the program made of them
reads. -/
def ReflectsProgram (scopes : Scopes) (before after : CompileState)
    (program : Program) :
    Prop :=
  Reflects scopes before after fun bound =>
    program.locatedPathsFrom ⟨bound, scopes.here⟩

theorem Reflects.finish {own : Chain} {program : Program}
    (reflects : Reflects scopes before after (own.reads scopes))
    (tracks : own.Tracks scopes after) (finished : own.finish = .ok program) :
    ReflectsProgram scopes before after program := by
  obtain ⟨added, adds, reads⟩ := reflects
  refine ⟨added, adds, ?_⟩
  intro bound along path
  rw [← reads along path, ← tracks.finish finished]

theorem ReflectsProgram.keyValue {middle : CompileState} {key value : Program}
    (first : ReflectsProgram scopes before middle key)
    (second : ReflectsProgram scopes middle after value) :
    ReflectsProgram scopes before after (.keyValue key value) := by
  obtain ⟨added, adds, reads⟩ := first
  obtain ⟨more, addsMore, readsMore⟩ := second
  refine ⟨added ++ more, adds.trans addsMore, ?_⟩
  intro bound along path
  simp only [Program.locatedPathsFrom, List.mem_append]
  exact or_congr (reads along path) (readsMore along path)

section projections

variable {parameter : Parameter} {object : ObjectPosition}

/-- The paths an element of a projection is read at. -/
theorem locatedPathsFrom_projected (program : Program) (scopes : Scopes)
    {spot : Spot}
    (same : spot.path = chain.path) :
    (program.bindIfRead scopes.length).locatedPathsFrom spot =
      program.locatedPathsFrom
        ⟨Function.update spot.bound scopes.length chain.path,
          Scopes.here (chain.scope parameter object :: scopes)⟩ := by
  rw [Program.locatedPathsFrom_bindIfRead]
  simp only [Spot.bind, same]
  rfl

/-- A value made of a projected element reads what its own pipelines do. -/
theorem projected_mirrors {program : Program}
    (tracks : chain.Tracks scopes before)
    (atObject : chain.position = .object object)
    (reflects :
      ReflectsProgram (chain.scope parameter object :: scopes) before after
        program)
    {position : Position}
    (made : position = .value (program.bindIfRead scopes.length) false ∨
      position = .dictionary (program.bindIfRead scopes.length) ∧
        chain.list.isSome = true) :
    Mirrors scopes before after chain { chain with position } := by
  obtain ⟨added, adds, reads⟩ := reflects
  apply Mirrors.ending tracks atObject _ _ adds
  · intro spot same along path
    have inside : Scopes.Along (chain.scope parameter object :: scopes) _ :=
      along.inside
    rw [← reads inside path]
    rcases made with rfl | ⟨rfl, _⟩
    · rw [Chain.positionReads, locatedPathsFrom_projected program scopes same]
      rfl
    · rw [Chain.positionReads, locatedPathsFrom_projected program scopes same]
      rfl
  · intro inner same
    rcases made with rfl | ⟨rfl, _⟩ <;> cases same
  · intro entry same
    rcases made with rfl | ⟨_, list⟩
    · cases same
    · exact list

/-- The chain after a projection reads what the projected chain does. -/
theorem continued_mirrors {last : Chain} (tracks : chain.Tracks scopes before)
    (atObject : chain.position = .object object)
    (inside : last.Tracks (chain.scope parameter object :: scopes) after)
    (reflects : Reflects (chain.scope parameter object :: scopes) before after
      (last.reads (chain.scope parameter object :: scopes)))
    (oneList : chain.list = none ∨ last.list = none) :
    Mirrors scopes before after chain (chain.continued scopes.length last) := by
  have alongInside : ∀ {bound}, scopes.Along bound →
      Scopes.Along (chain.scope parameter object :: scopes)
        (Function.update (chain.spot scopes bound).bound scopes.length
          chain.path) :=
    fun along => (tracks.along atObject along).inside
  have bindsAt : ∀ {bound}, scopes.Along bound →
      (chain.spot scopes bound).bind scopes.length =
        ⟨Function.update (chain.spot scopes bound).bound scopes.length
           chain.path, chain.path⟩ := by
    intro bound along
    simp only [Spot.bind, (tracks.located atObject along).1]
  have spotOf : ∀ {bound}, scopes.Along bound →
      (chain.continued scopes.length last).spot scopes bound =
        last.spot (chain.scope parameter object :: scopes)
          (Function.update (chain.spot scopes bound).bound scopes.length
            chain.path) := by
    intro bound along
    calc (chain.continued scopes.length last).spot scopes bound
        = leadFrames ((chain.spot scopes bound).bind scopes.length)
          last.frames := by
          simp only [Chain.spot, Chain.continued, Chain.under,
            leadFrames_append]
          rfl
      _ = _ := by
          rw [bindsAt along]
          rfl
  have readsOf : ∀ {bound}, scopes.Along bound →
      (chain.continued scopes.length last).reads scopes bound =
        chain.reads scopes bound ++
          last.reads (chain.scope parameter object :: scopes)
            (Function.update (chain.spot scopes bound).bound scopes.length
              chain.path) := by
    intro bound along
    rw [Chain.reads_of_object atObject]
    simp only [Chain.reads, spotOf along]
    rw [← List.append_assoc]
    congr 1
    simp only [Chain.continued, Chain.under, framesRead_append,
      leadFrames_append]
    have started := bindsAt along
    simp only [Chain.spot] at started
    simp only [framesRead, Frame.reads, leadFrames, Frame.lead, List.append_nil,
      started]
    rfl
  constructor
  · constructor
    · exact inside.reached
    · intro inner bound lastAt along
      obtain ⟨path, agree⟩ := inside.located lastAt (alongInside along)
      rw [spotOf along]
      refine ⟨path, ?_⟩
      intro depth below
      rw [agree depth (Nat.lt_succ_of_lt below),
        Function.update_of_ne (Nat.ne_of_lt below)]
      exact (tracks.located atObject along).2 depth below
    · intro index list
      cases outerList : chain.list with
      | some outer =>
          obtain ⟨filters, found⟩ := tracks.listed outerList
          obtain rfl : outer = index := by
            simpa [Chain.continued, Chain.under, outerList] using list
          refine ⟨filters, ?_⟩
          obtain ⟨before, _⟩ := List.getElem?_eq_some_iff.mp found
          simp only [Chain.continued, Chain.under, List.append_assoc]
          rw [List.getElem?_append_left before]
          exact found
      | none =>
          cases innerList : last.list with
          | none =>
            simp [Chain.continued, Chain.under, outerList, innerList] at list
          | some inner =>
              obtain ⟨filters, found⟩ := inside.listed innerList
              obtain rfl :
                  (chain.frames ++ [Frame.bind scopes.length]).length + inner =
                  index := by
                simpa [Chain.continued, Chain.under, outerList, innerList]
                  using list
              refine ⟨filters, ?_⟩
              simp only [Chain.continued, Chain.under]
              rw [List.getElem?_append_right (Nat.le_add_right _ _),
                Nat.add_sub_cancel_left]
              exact found
    · intro entry lastAt
      have list := inside.dictionary lastAt
      have noList : chain.list = none := by
        rcases oneList with none | none
        · exact none
        · rw [none] at list
          cases list
      simpa [Chain.continued, Chain.under, noList] using list
  · obtain ⟨added, adds, reads⟩ := reflects
    refine ⟨added, adds, ?_⟩
    intro bound along path
    rw [readsOf along, List.mem_append, reads (alongInside along)]

end projections

/-- The program of a pipeline of its own reads the paths its walk adds. -/
theorem finished_mirrors {pipeline : Pipeline} {program : Program}
    (success : Compile.pipeline scopes pipeline before = .ok (program, after))
    (mirrors : ∀ {own : Chain},
      walkPipeline scopes [] pipeline before = .ok (own.under [], after) →
        own.Tracks scopes after ∧
          Reflects scopes before after (own.reads scopes)) :
    ReflectsProgram scopes before after program := by
  obtain ⟨last, walking, finished⟩ := pipeline_eq_ok.mp success
  rw [← Chain.under_nil last] at walking
  obtain ⟨tracks, reflects⟩ := mirrors walking
  exact reflects.finish tracks finished

theorem scope_reached {parameter : Parameter} {object : ObjectPosition}
    (reached : scopes.Reached before) (tracks : chain.Tracks scopes before)
    (atObject : chain.position = .object object) :
    Scopes.Reached (chain.scope parameter object :: scopes) before := by
  intro scope member
  rcases List.mem_cons.mp member with rfl | outer
  · exact tracks.reached atObject
  · exact reached scope outer

mutual

/-- The walk of a pipeline adds the paths its chain reads. -/
theorem walkPipeline_mirrors {before after : CompileState} {scopes : Scopes}
    {frames : List Frame} {own : Chain} (pipeline : Pipeline)
    (formed : before.WellFormed AnyName) (tree : before.selections.IsTree)
    (bound : scopes.Within before.selections) (reached : scopes.Reached before)
    (success :
      walkPipeline scopes frames pipeline before =
        .ok (own.under frames, after)) :
    own.Tracks scopes after ∧
      Reflects scopes before after (own.reads scopes) := by
  cases pipeline with
  | mk source steps =>
      obtain ⟨depth, scope, resolved, walking⟩ := walkPipeline_eq_ok.mp success
      rw [Chain.start_under] at walking
      have within :
          (Chain.start [] scopes depth scope).position.Within
            before.selections := bound scope (Scopes.mem_of_resolve? resolved)
      obtain ⟨tracks, nothing⟩ := start_tracks reached resolved
      have mirrors := walk_mirrors steps formed tree bound reached within
        (Chain.pends_of_none rfl) tracks walking
      obtain ⟨added, adds, reads⟩ := mirrors.adds
      refine ⟨mirrors.tracks, added, adds, ?_⟩
      intro bound along path
      rw [reads along, nothing]
      simp
termination_by structural pipeline

theorem walk_mirrors {before after : CompileState} {scopes : Scopes}
    {frames : List Frame} {chain own : Chain} (steps : List Step)
    (formed : before.WellFormed AnyName) (tree : before.selections.IsTree)
    (bound : scopes.Within before.selections) (reached : scopes.Reached before)
    (within : chain.position.Within before.selections)
    (pends : chain.Pends (steps.head?.any Step.isAllPages) before)
    (tracks : chain.Tracks scopes before)
    (success : walk scopes steps (chain.under frames) before =
      .ok (own.under frames, after)) :
    Mirrors scopes before after chain own := by
  cases steps with
  | nil =>
      simp only [walk, pure_eq_ok] at success
      obtain ⟨same, rfl⟩ := success
      obtain rfl := under_injective same
      exact .of_same tree tracks fun _ => rfl
  | cons step rest =>
      obtain ⟨_, _, middle, first, others⟩ := walk_cons_eq_ok.mp success
      obtain ⟨next, rfl, arrives⟩ := walkStep_arrives step formed anyPageNames
        (Pipeline.eachFieldOfStep (fun _ _ => trivial) step) bound within pends
          first
      rw [endedBy_under] at others
      have stepMirrors :=
        endedBy_mirrors
          (walkStep_mirrors step formed tree bound reached within pends tracks
            first) step
      obtain ⟨withinNext, pendsNext⟩ := arrives.endedBy step
      exact stepMirrors.trans (walk_mirrors rest arrives.formed
        stepMirrors.tree (bound.grow arrives.grows.selections)
        (reached.grow arrives.grows) withinNext pendsNext stepMirrors.tracks
          others)
termination_by structural steps

theorem walkStep_mirrors {before after : CompileState} {scopes : Scopes}
    {frames : List Frame} {chain own : Chain} {paginate : Bool} (step : Step)
    (formed : before.WellFormed AnyName) (tree : before.selections.IsTree)
    (bound : scopes.Within before.selections) (reached : scopes.Reached before)
    (within : chain.position.Within before.selections)
    (pends : chain.Pends step.isAllPages before)
    (tracks : chain.Tracks scopes before)
    (success : walkStep scopes step paginate (chain.under frames) before =
      .ok (own.under frames, after)) :
    Mirrors scopes before after chain own := by
  cases step with
  | property field =>
    exact selectField_mirrors formed tree within tracks success
  | call field arguments =>
    exact selectField_mirrors formed tree within tracks success
  | allPages nodes =>
    exact selectAllPages_mirrors formed tree within tracks success
  | cast typeName => exact castTo_mirrors formed tree within tracks success
  | filter typeName => exact filterTo_mirrors formed tree within tracks success
  | single =>
      obtain ⟨_, same, rfl⟩ := endSingle_spec success
      obtain rfl := under_injective same
      exact enforced_mirrors tree tracks true
  | singleOrDefault =>
      obtain ⟨_, same, rfl⟩ := endSingle_spec success
      obtain rfl := under_injective same
      exact enforced_mirrors tree tracks false
  | toList =>
      obtain ⟨_, same, rfl⟩ := endList_spec success
      obtain rfl := under_injective same
      exact .of_same tree tracks fun _ => rfl
  | record parameter fields =>
      obtain ⟨object, programs, atObject, compiling, same⟩ :=
        walkStep_record_eq_ok.mp success
      have sameObject : chain.position = .object object := atObject
      obtain rfl : own = { chain with
          position := .value
            ((Program.buildRecord programs).bindIfRead scopes.length) false } :=
        under_injective same
      have reflects :
          ReflectsProgram (chain.scope parameter object :: scopes) before _
            (.buildRecord programs) :=
        compileFields_mirrors fields formed tree
          (scope_within parameter bound sameObject within)
          (scope_reached reached tracks sameObject) compiling
      exact projected_mirrors tracks sameObject reflects (Or.inl rfl)
  | value parameter inner =>
      cases ended : inner.endsTerminal with
      | true =>
          obtain ⟨object, program, atObject, compiling, same⟩ :=
            (walkStep_valueEnded_eq_ok ended).mp success
          have sameObject : chain.position = .object object := atObject
          obtain rfl : own = { chain with
              position := .value (program.bindIfRead scopes.length) false } :=
            under_injective same
          have inside := scope_within parameter bound sameObject within
          have innerReached :
              Scopes.Reached (chain.scope parameter object :: scopes) before :=
            scope_reached reached tracks sameObject
          have reflects := finished_mirrors compiling fun walking =>
            walkPipeline_mirrors inner formed tree inside innerReached walking
          exact projected_mirrors tracks sameObject reflects (Or.inl rfl)
      | false =>
          obtain ⟨object, _, middle, atObject, walking, rejoining⟩ :=
            (walkStep_valueContinued_eq_ok ended).mp success
          have sameObject : chain.position = .object object := atObject
          have inside := scope_within parameter bound sameObject within
          obtain ⟨last, rfl, arrives⟩ :=
            walkPipeline_arrives inner formed anyPageNames
              (Pipeline.eachField (fun _ _ => trivial) inner) inside walking
          obtain ⟨lastTracks, reflects⟩ :=
            walkPipeline_mirrors inner formed tree inside
              (scope_reached reached tracks sameObject) walking
          obtain ⟨oneList, same, rfl⟩ := rejoin_spec rejoining
          obtain rfl := under_injective same
          exact continued_mirrors tracks sameObject lastTracks reflects oneList
  | toDictionary parameter key value =>
      obtain ⟨object, keyProgram, valueProgram, middle, isList, atObject, keyed,
        valued, same⟩ := walkStep_toDictionary_eq_ok.mp success
      have sameObject : chain.position = .object object := atObject
      obtain rfl : own = { chain with
          position := .dictionary
            ((Program.keyValue keyProgram valueProgram).bindIfRead
              scopes.length) } := under_injective same
      have inside := scope_within parameter bound sameObject within
      have innerReached :
          Scopes.Reached (chain.scope parameter object :: scopes) before :=
        scope_reached reached tracks sameObject
      obtain ⟨formedKey, grows⟩ := pipeline_arrives formed anyPageNames
        (Pipeline.eachField (fun _ _ => trivial) key) inside keyed
      have keyReflects := finished_mirrors keyed fun walking =>
        walkPipeline_mirrors key formed tree inside innerReached walking
      have valueReflects := finished_mirrors valued fun walking =>
        walkPipeline_mirrors value formedKey keyReflects.tree
          (inside.grow grows.selections) (innerReached.grow grows) walking
      exact projected_mirrors tracks sameObject
        (keyReflects.keyValue valueReflects)
        (Or.inr ⟨rfl, isSome_list_under.mp isList⟩)
termination_by structural step

theorem compileFields_mirrors {before after : CompileState} {scopes : Scopes}
    {programs : List (String × Program)} (fields : List (String × Pipeline))
    (formed : before.WellFormed AnyName) (tree : before.selections.IsTree)
    (bound : scopes.Within before.selections) (reached : scopes.Reached before)
    (success : compileFields scopes fields before = .ok (programs, after)) :
    Reflects scopes before after fun bound =>
      Program.locatedPathsOfFields ⟨bound, scopes.here⟩ programs := by
  cases fields with
  | nil =>
      simp only [compileFields, pure_eq_ok] at success
      obtain ⟨rfl, rfl⟩ := success
      exact ⟨[], .refl tree, fun _ _ => Iff.rfl⟩
  | cons field fields =>
      obtain ⟨key, pipeline⟩ := field
      obtain ⟨program, others, middle, first, compiling, rfl⟩ :=
        compileFields_cons_eq_ok.mp success
      obtain ⟨formedMiddle, grows⟩ := pipeline_arrives formed anyPageNames
        (Pipeline.eachField (fun _ _ => trivial) pipeline) bound first
      obtain ⟨added, adds, reads⟩ := finished_mirrors first fun walking =>
        walkPipeline_mirrors pipeline formed tree bound reached walking
      obtain ⟨more, addsMore, readsMore⟩ :=
        compileFields_mirrors fields formedMiddle adds.tree
          (bound.grow grows.selections) (reached.grow grows) compiling
      refine ⟨added ++ more, adds.trans addsMore, ?_⟩
      intro bound along path
      simp only [Program.locatedPathsOfFields, List.mem_append]
      exact or_congr (reads along path) (readsMore along path)
termination_by structural fields

end

end Compile

end GraphPipeline
