import GraphPipeline.Proofs.Compile.Fitting
import GraphPipeline.Proofs.Evaluation.MappedLists

/-!
# Filters on lists

Which filters the elements of a list come to can be read off the steps of a
pipeline: some are applied to the list, and others belong to projections of its
elements.  The frames of a chain hold all of them in order, and the list counts
its own.
-/

namespace GraphPipeline

/-- A filter that the elements of a list come to.  It is one of the list or else
one inside of a projection. -/
structure ElementFilter where
  typeName : String
  onList : Bool
  deriving DecidableEq

/-- What the steps of a pipeline lead to: a single value that has come to
filters of some types, the elements of a list with the filters they have come
to, or a dictionary. -/
inductive Filtering where
  | single (types : List String)
  | list (filters : List ElementFilter)
  | dictionary

namespace Filtering

/-- A field whose values are lists of objects leads to their elements. -/
def field (before : Filtering) (definition : FieldDefinition) : Filtering :=
  match before with
  | .single types =>
      if definition.type.kind.isComposite && definition.type.isList then
        .list []
      else .single types
  | other => other

def filter (before : Filtering) (typeName : String) : Filtering :=
  match before with
  | .single types => .single (types ++ [typeName])
  | .list filters => .list (filters ++ [⟨typeName, true⟩])
  | .dictionary => .dictionary

/-- A projection goes on inside.  Its filters are not those of a list around
it. -/
def project (before inner : Filtering) : Filtering :=
  match before, inner with
  | .single types, .single more => .single (types ++ more)
  | .list filters, .single more => .list (filters ++ more.map (⟨·, false⟩))
  | _, inner => inner

end Filtering

mutual

def Pipeline.filtering : Pipeline → Filtering
  | .mk _ steps => Pipeline.filteringOfSteps steps (.single [])

def Pipeline.filteringOfSteps : List Step → Filtering → Filtering
  | [], before => before
  | step :: steps, before =>
      Pipeline.filteringOfSteps steps (Pipeline.filteringOfStep step before)

def Pipeline.filteringOfStep : Step → Filtering → Filtering
  | .property definition, before => before.field definition
  | .call definition _, before => before.field definition
  | .allPages _, _ => .list []
  | .value _ inner, before =>
      if inner.endsTerminal then before else before.project inner.filtering
  | .filter typeName, before => before.filter typeName
  | .toDictionary _ _ _, _ => .dictionary
  | .record _ _, before => before
  | .cast _, before => before
  | .single, before => before
  | .singleOrDefault, before => before
  | .toList, before => before

end

/-! ### Frames -/

namespace Frame

/-- The type of a frame that filters. -/
def filter? : Frame → Option String
  | .narrow typeName .filter => some typeName
  | _ => none

def isMapList : Frame → Bool
  | .mapList _ => true
  | _ => false

end Frame

/-- How the frames of a chain hold filters.  The list, if there is one, counts
those that are applied to it. -/
inductive Filtering.Framed : Filtering → List Frame → Option Nat → Prop where
  | single {frames : List Frame} {types : List String} :
      (∀ frame ∈ frames, frame.keepsEntry = true) →
      frames.filterMap Frame.filter? = types →
      Framed (.single types) frames none
  | list {outer inner : List Frame} {filters : List ElementFilter} :
      (∀ frame ∈ outer, frame.isMapList = false) →
      (∀ frame ∈ inner, frame.keepsEntry = true) →
      inner.filterMap Frame.filter? = filters.map ElementFilter.typeName →
      Framed (.list filters)
        (outer ++ .mapList (filters.countP ElementFilter.onList) :: inner)
        (some outer.length)

namespace Filtering.Framed

variable {filtering : Filtering} {frames more : List Frame} {list : Option Nat}

theorem isMapList_of_keepsEntry {frame : Frame}
    (keeps : frame.keepsEntry = true) :
    frame.isMapList = false := by
  cases frame with
  | mapList filters => cases keeps
  | _ => rfl

theorem filterMap_guardFrames (type : TypeRef) :
    (guardFrames type).filterMap Frame.filter? = [] := by
  unfold guardFrames
  split <;> rfl

private theorem keeps_append {first second : List Frame}
    (early : ∀ frame ∈ first, frame.keepsEntry = true)
    (late : ∀ frame ∈ second, frame.keepsEntry = true) :
    ∀ frame ∈ first ++ second, frame.keepsEntry = true :=
  fun frame member =>
    (List.mem_append.mp member).elim (early frame) (late frame)

/-- Frames more that do not filter. -/
theorem append (framed : filtering.Framed frames list)
    (keeps : ∀ frame ∈ more, frame.keepsEntry = true)
    (plain : more.filterMap Frame.filter? = []) :
    filtering.Framed (frames ++ more) list := by
  cases framed with
  | single kept same =>
      apply Framed.single (keeps_append kept keeps)
      rw [List.filterMap_append, same, plain, List.append_nil]
  | list before kept same =>
      rw [List.append_assoc, List.cons_append]
      apply Framed.list before (keeps_append kept keeps)
      rw [List.filterMap_append, same, plain, List.append_nil]

/-- A list begins. -/
theorem mapList {types : List String}
    (framed : (Filtering.single types).Framed frames none)
    (before : ∀ frame ∈ more, frame.isMapList = false) (element : TypeRef) :
    (Filtering.list []).Framed
      (frames ++ more ++ .mapList 0 :: guardFrames element)
      (some (frames ++ more).length) := by
  cases framed with
  | single kept _ =>
      have unmapped : ∀ frame ∈ frames ++ more, frame.isMapList = false := by
        intro frame member
        rcases List.mem_append.mp member with early | late
        · exact isMapList_of_keepsEntry (kept frame early)
        · exact before frame late
      have none : (guardFrames element).filterMap Frame.filter? =
          ([] : List ElementFilter).map ElementFilter.typeName :=
        filterMap_guardFrames element
      exact .list unmapped (keepsEntry_guardFrames element) none

/-- A filter on a list is counted there. -/
theorem filter {chain : Chain} {typeName : String}
    (framed : filtering.Framed chain.frames chain.list) :
    (filtering.filter typeName).Framed
      ((chain.counted .filter).frames ++ [.narrow typeName .filter])
      (chain.counted .filter).list := by
  have narrow :
      ∀ frame ∈ [Frame.narrow typeName .filter], frame.keepsEntry = true := by
    intro frame member
    obtain rfl := List.mem_singleton.mp member
    rfl
  obtain ⟨frames, position, list, path, repeated, pendingPage, terminal,
    enforceSingle⟩ := chain
  simp only [Chain.counted, Chain.countFilter] at framed ⊢
  cases framed with
  | single kept same =>
      apply Framed.single (keeps_append kept narrow)
      rw [List.filterMap_append, same]
      rfl
  | @list outer inner filters before kept same =>
      have counted : (filters ++ [(⟨typeName, true⟩ : ElementFilter)]).countP
          ElementFilter.onList = filters.countP ElementFilter.onList + 1 := by
        simp
      simp only [modify_at_length, List.append_assoc, List.cons_append]
      rw [← counted]
      apply Framed.list before (keeps_append kept narrow)
      rw [List.filterMap_append, same, List.map_append]
      rfl

/-- The frames of a projection stand inside of those of its element. -/
theorem project {inner : Filtering} {innerList : Option Nat} (depth : Nat)
    (framed : filtering.Framed frames list)
    (inside : inner.Framed more innerList)
    (oneList : list = none ∨ innerList = none) :
    (filtering.project inner).Framed (frames ++ .bind depth :: more)
      (list.or (innerList.map (frames.length + 1 + ·))) := by
  have bound :
      ∀ {frames : List Frame}, (∀ frame ∈ frames, frame.keepsEntry = true) →
        ∀ frame ∈ Frame.bind depth :: frames, frame.keepsEntry = true := by
    intro frames kept frame member
    rcases List.mem_cons.mp member with rfl | later
    · rfl
    · exact kept frame later
  cases framed with
  | single kept same =>
      cases inside with
      | single keptInside sameInside =>
          apply Framed.single (keeps_append kept (bound keptInside))
          rw [List.filterMap_append, same, List.filterMap_cons, sameInside]
          rfl
      | @list outer rest filters before keptInside sameInside =>
          have unmapped :
              ∀ frame ∈ frames ++ .bind depth :: outer,
                frame.isMapList = false := by
            intro frame member
            rcases List.mem_append.mp member with early | late
            · exact isMapList_of_keepsEntry (kept frame early)
            · rcases List.mem_cons.mp late with rfl | later
              · rfl
              · exact before frame later
          have regrouped := Framed.list unmapped keptInside sameInside
          simp only [Filtering.project]
          simpa [Nat.add_assoc, Nat.add_comm 1] using regrouped
  | @list outer rest filters before kept same =>
      cases inside with
      | @single _ types keptInside sameInside =>
          have uncounted : (filters ++ types.map (fun typeName =>
              (⟨typeName, false⟩ : ElementFilter))).countP
                ElementFilter.onList =
                filters.countP ElementFilter.onList := by
            simp [List.countP_map, Function.comp_def]
          rw [List.append_assoc, List.cons_append, ← uncounted]
          apply Framed.list before (keeps_append kept (bound keptInside))
          rw [List.filterMap_append, same, List.filterMap_cons, sameInside,
            List.map_append, List.map_map]
          simp [Frame.filter?, Function.comp_def]
      | list _ _ _ => rcases oneList with none | none <;> cases none

theorem single_of_none (framed : filtering.Framed frames none) :
    ∃ types, filtering = .single types := by
  cases framed with
  | single kept same => exact ⟨_, rfl⟩

end Filtering.Framed

/-! ### Chains -/

def Position.isDictionary : Position → Bool
  | .dictionary _ => true
  | _ => false

/-- A chain stands where some steps lead to. -/
inductive Chain.Lays (chain : Chain) : Filtering → Prop where
  | framed {filtering : Filtering} :
      filtering.Framed chain.frames chain.list →
        chain.position.isDictionary = false →
      Lays chain filtering
  | dictionary : chain.position.isDictionary = true → Lays chain .dictionary

section steps

variable {document : CompileState} {filtering : Filtering}

theorem Chain.Lays.object {chain : Chain} {object : ObjectPosition}
    (lays : chain.Lays filtering) (atObject : chain.position = .object object) :
    filtering.Framed chain.frames chain.list := by
  cases lays with
  | framed framed _ => exact framed
  | dictionary ended =>
      rw [atObject] at ended
      cases ended

theorem TypeRef.isList_eq_isSome_element? (type : TypeRef) :
    type.isList = type.element?.isSome := by
  rw [TypeRef.element?, Option.isSome_map]
  cases found : type.wrapping.element? with
  | none => exact Wrapping.element?_eq_none.mp found
  | some element =>
      cases isList : type.isList with
      | true => rfl
      | false =>
          rw [Wrapping.element?_eq_none.mpr isList] at found
          cases found

/-- The frames of a selected field. -/
theorem advance_lays {chain next : Chain} {object : ObjectPosition}
    {definition : FieldDefinition} {selected : SelectedField}
    (advanced : Compile.advance chain object definition selected = .ok next)
    (composite : selected.child.isSome = definition.type.kind.isComposite)
    (framed : filtering.Framed chain.frames chain.list)
    (noList : chain.list = none) :
    next.Lays (filtering.field definition) ∧
      (definition.type.isList = false → next.list = none) := by
  obtain ⟨types, rfl⟩ := (noList ▸ framed).single_of_none
  unfold Compile.advance at advanced
  cases child : selected.child with
  | none =>
      rw [child] at composite
      simp only [child, Except.ok.injEq] at advanced
      subst next
      have leaf :
          (Filtering.single types).field definition = .single types := by
        simp [Filtering.field, ← composite]
      rw [leaf]
      exact ⟨.framed framed rfl, fun _ => noList⟩
  | some set =>
      rw [child] at composite
      have keeps :
          ∀ frame ∈ Frame.field selected.key :: guardFrames definition.type,
            frame.keepsEntry = true := by
        intro frame member
        rcases List.mem_cons.mp member with rfl | guard
        · rfl
        · exact keepsEntry_guardFrames _ frame guard
      cases elementOf : definition.type.element? with
      | none =>
          have noLists : definition.type.isList = false := by
            rw [TypeRef.isList_eq_isSome_element?, elementOf]
            rfl
          simp only [child, elementOf, guardNull_eq, Chain.push,
            List.append_assoc, List.singleton_append,
            Except.ok.injEq] at advanced
          subst next
          have single :
              (Filtering.single types).field definition = .single types := by
            simp [Filtering.field, noLists]
          rw [single]
          refine ⟨.framed ?_ rfl, fun _ => noList⟩
          apply framed.append keeps
          exact Filtering.Framed.filterMap_guardFrames _
      | some element =>
          have isList : definition.type.isList = true := by
            rw [TypeRef.isList_eq_isSome_element?, elementOf]
            rfl
          simp only [child, elementOf, guardNull_eq, mapList_eq, Chain.push,
            List.append_assoc, List.singleton_append] at advanced
          split at advanced
          · cases advanced
          · obtain rfl := Except.ok.inj advanced
            have list :
                (Filtering.single types).field definition = .list [] := by
              simp [Filtering.field, isList, ← composite]
            rw [list]
            constructor
            · refine .framed ?_ rfl
              rw [noList] at framed
              have mapped := framed.mapList (fun frame member =>
                Filtering.Framed.isMapList_of_keepsEntry (keeps frame member))
                  element
              simpa using mapped
            · intro noLists
              rw [isList] at noLists
              cases noLists

/-- A cursor waits only before the step that asks for the pages, and not in a
list. -/
def Chain.Waits (chain : Chain) (expected : Bool) : Prop :=
  chain.pendingPage.isSome = true → expected = true ∧ chain.list = none

theorem Chain.waits_of_none {chain : Chain} {expected : Bool}
    (noPage : chain.pendingPage = none) : chain.Waits expected := by
  intro waiting
  rw [noPage] at waiting
  cases waiting

theorem Chain.Waits.none {chain : Chain} (waits : chain.Waits false) :
    chain.pendingPage = none := by
  cases pending : chain.pendingPage with
  | none => rfl
  | some page =>
      have expected := (waits (by rw [pending]; rfl)).1
      cases expected

theorem selectsField_lays {named : String → Prop}
    (formed : document.WellFormed named)
    {chain next : Chain} {definition : FieldDefinition}
    {arguments : List Argument} {paginate : Bool} (lays : chain.Lays filtering)
    (noPage : chain.pendingPage = none)
    (selects :
      Compile.SelectsField document chain definition arguments paginate next) :
    next.Lays (filtering.field definition) ∧ next.Waits paginate := by
  cases selects with
  | plain atObject noList holds advanced =>
      obtain ⟨nextLays, _⟩ := advance_lays advanced
        (holds.isSome_child formed.selections) (lays.object atObject) noList
      refine ⟨nextLays, Chain.waits_of_none ?_⟩
      rw [Compile.advance_pendingPage advanced, noPage]
  | paged atObject noList _ connection holds advanced =>
      obtain ⟨nextLays, single⟩ := advance_lays advanced
        (holds.isSome_child formed.selections) (lays.object atObject) noList
      simp only [FieldDefinition.isConnection, Bool.and_eq_true,
        Bool.not_eq_true'] at connection
      exact ⟨nextLays, fun _ => ⟨rfl, single connection.1.2⟩⟩

theorem selectsPages_lays {chain next : Chain} {nodes : FieldDefinition}
    (lays : chain.Lays filtering) (waits : chain.Waits true)
    (selects : Compile.SelectsPages document chain nodes next) :
    next.Lays (.list []) ∧ next.pendingPage = none := by
  cases selects with
  | @mk page connection element pageInfo hasNextPage endCursor selected info set
      id waiting atObject =>
      have noList : chain.list = none := (waits (by rw [waiting]; rfl)).2
      have framed := lays.object atObject
      rw [noList] at framed
      obtain ⟨types, rfl⟩ := framed.single_of_none
      simp only [Chain.throughPages, mapList_eq, Chain.push]
      refine ⟨.framed ?_ rfl, trivial⟩
      apply framed.mapList
      intro frame member
      obtain rfl := List.mem_singleton.mp member
      rfl

theorem narrows_lays {chain next : Chain} {typeName : String}
  {mode : NarrowingMode} (lays : chain.Lays filtering)
  (noPage : chain.pendingPage = none)
  (narrows : Compile.Narrows document chain typeName mode next) :
    next.Lays (match mode with
      | .filter => filtering.filter typeName
      | .cast => filtering) ∧ next.pendingPage = none := by
  cases narrows with
  | mk atObject =>
      have framed := lays.object atObject
      cases mode with
      | filter =>
          refine ⟨.framed framed.filter rfl, ?_⟩
          simp only [Chain.narrowedTo, Chain.counted]
          split
          · exact noPage
          · exact noPage
      | cast =>
          refine ⟨.framed (framed.append ?_ rfl) rfl, noPage⟩
          intro frame member
          obtain rfl := List.mem_singleton.mp member
          rfl

/-- A projection that goes on inside of its element. -/
theorem continued_lays {chain last : Chain} {inner : Filtering}
    {object : ObjectPosition}
    (depth : Nat) (lays : chain.Lays filtering)
    (atObject : chain.position = .object object) (inside : last.Lays inner)
    (oneList : chain.list = none ∨ last.list = none) :
    (chain.continued depth last).Lays (filtering.project inner) := by
  cases inside with
  | framed framed noEntry =>
      have joined := (lays.object atObject).project depth framed oneList
      refine .framed ?_ noEntry
      simpa [Chain.continued, Chain.under, Nat.add_assoc] using joined
  | dictionary ended =>
      have same : filtering.project .dictionary = .dictionary := by
        cases filtering <;> rfl
      rw [same]
      exact .dictionary ended

/-- The start of a pipeline. -/
theorem start_lays (scopes : Scopes) (depth : Nat) (scope : Scope) :
    (Chain.start [] scopes depth scope).Lays (.single []) := by
  refine .framed ?_ rfl
  unfold Chain.start
  split
  · refine .single ?_ rfl
    intro frame member
    obtain rfl := List.mem_singleton.mp member
    rfl
  · exact .single (fun frame member => by cases member) rfl

/-- What comes after the frames of a chain at an object is no matter of
filters. -/
theorem Chain.Lays.ending {chain : Chain} {object : ObjectPosition}
    (lays : chain.Lays filtering) (atObject : chain.position = .object object)
    (program : Program) (isList : Bool) :
    Chain.Lays { chain with position := .value program isList } filtering :=
  .framed (lays.object atObject) rfl

theorem Chain.Lays.enforced {chain : Chain} (lays : chain.Lays filtering)
    (enforceSingle : Bool) :
    Chain.Lays { chain with enforceSingle } filtering := by
  cases lays with
  | framed framed noEntry => exact .framed framed noEntry
  | dictionary ended => exact .dictionary ended

theorem Chain.Lays.endedBy {chain : Chain} (lays : chain.Lays filtering)
    (step : Step) :
    (chain.endedBy step).Lays filtering := by
  unfold Chain.endedBy
  split
  · cases lays with
    | framed framed noEntry => exact .framed framed noEntry
    | dictionary ended => exact .dictionary ended
  · exact lays

theorem Chain.Waits.endedBy {chain : Chain} {expected : Bool}
    (waits : chain.Waits expected) (step : Step) :
    (chain.endedBy step).Waits expected := by
  unfold Chain.endedBy
  split
  · exact waits
  · exact waits

end steps

/-! ### Walks -/

section walks

variable {document : CompileState} {named : String → Prop}

mutual

/-- The chain of a pipeline stands where its steps lead to. -/
theorem walks_lay {scopes : Scopes} {chain : Chain} (pipeline : Pipeline)
    (formed : document.WellFormed named)
    (walks : Compile.Walks document scopes pipeline chain) :
    chain.Lays pipeline.filtering ∧ chain.pendingPage = none := by
  cases pipeline with
  | mk source steps =>
      cases walks with
      | mk resolved walks =>
          exact walksSteps_lay steps formed walks (start_lays _ _ _)
            (Chain.waits_of_none rfl)
termination_by structural pipeline

theorem walksSteps_lay {scopes : Scopes} {chain last : Chain}
    {filtering : Filtering}
    (steps : List Step) (formed : document.WellFormed named)
    (walks : Compile.WalksSteps document scopes steps chain last)
    (lays : chain.Lays filtering)
    (waits : chain.Waits (steps.head?.any Step.isAllPages)) :
    last.Lays (Pipeline.filteringOfSteps steps filtering) ∧
      last.pendingPage = none := by
  cases steps with
  | nil =>
      cases walks
      exact ⟨lays, waits.none⟩
  | cons step rest =>
      cases walks with
      | cons terminal first others =>
          obtain ⟨nextLays, nextWaits⟩ :=
            walksStep_lays step formed first lays waits
          exact walksSteps_lay rest formed others (nextLays.endedBy step)
            (nextWaits.endedBy step)
termination_by structural steps

theorem walksStep_lays {scopes : Scopes} {paginate : Bool} {chain next : Chain}
    {filtering : Filtering} (step : Step) (formed : document.WellFormed named)
    (walks : Compile.WalksStep document scopes step paginate chain next)
    (lays : chain.Lays filtering) (waits : chain.Waits step.isAllPages) :
    next.Lays (Pipeline.filteringOfStep step filtering) ∧
      next.Waits paginate := by
  cases step with
  | property definition =>
      cases walks with
      | property selects =>
        exact selectsField_lays formed lays waits.none selects
  | call definition arguments =>
      cases walks with
      | call selects => exact selectsField_lays formed lays waits.none selects
  | allPages nodes =>
      cases walks with
      | allPages selects =>
          obtain ⟨nextLays, noPage⟩ := selectsPages_lays lays waits selects
          exact ⟨nextLays, Chain.waits_of_none noPage⟩
  | cast typeName =>
      cases walks with
      | cast narrows =>
          obtain ⟨nextLays, noPage⟩ := narrows_lays lays waits.none narrows
          exact ⟨nextLays, Chain.waits_of_none noPage⟩
  | filter typeName =>
      cases walks with
      | filter narrows =>
          obtain ⟨nextLays, noPage⟩ := narrows_lays lays waits.none narrows
          exact ⟨nextLays, Chain.waits_of_none noPage⟩
  | single =>
      cases walks
      exact ⟨lays.enforced true, Chain.waits_of_none waits.none⟩
  | singleOrDefault =>
      cases walks
      exact ⟨lays.enforced false, Chain.waits_of_none waits.none⟩
  | toList =>
      cases walks
      exact ⟨lays, Chain.waits_of_none waits.none⟩
  | record parameter fields =>
      cases walks with
      | record atObject compiled =>
          exact ⟨lays.ending atObject _ _, Chain.waits_of_none waits.none⟩
  | value parameter inner =>
      cases walks with
      | valueEnded atObject ended walks finished =>
          unfold Pipeline.filteringOfStep
          rw [if_pos ended]
          exact ⟨lays.ending atObject _ _, Chain.waits_of_none waits.none⟩
      | valueContinued atObject goesOn walks oneList =>
          unfold Pipeline.filteringOfStep
          rw [if_neg (by simp [goesOn])]
          obtain ⟨inside, noPage⟩ := walks_lay inner formed walks
          exact ⟨continued_lays _ lays atObject inside oneList,
            Chain.waits_of_none noPage⟩
  | toDictionary parameter key value =>
      cases walks
      exact ⟨.dictionary rfl, Chain.waits_of_none waits.none⟩
termination_by structural step

end

end walks

/-! ### Programs -/

section programs

theorem mapping?_bindIfRead (program : Program) (depth : Nat) :
    (program.bindIfRead depth).mapping? = program.mapping? := by
  unfold Program.bindIfRead
  split <;> rfl

theorem filterTypes_bindIfRead (program : Program) (depth : Nat) :
    (program.bindIfRead depth).filterTypes = program.filterTypes := by
  unfold Program.bindIfRead
  split <;> rfl

theorem mapping?_fillFrames {frames : List Frame}
    (unmapped : ∀ frame ∈ frames, frame.isMapList = false) (program : Program) :
    (fillFrames frames program).mapping? = program.mapping? := by
  induction frames with
  | nil => rfl
  | cons frame frames induction =>
      have inside := induction fun other member =>
        unmapped other (List.mem_cons_of_mem _ member)
      cases frame with
      | mapList filters => cases unmapped _ List.mem_cons_self
      | bind depth => exact (mapping?_bindIfRead _ _).trans inside
      | _ => exact inside

theorem filterTypes_fillFrames {frames : List Frame}
    (keeps : ∀ frame ∈ frames, frame.keepsEntry = true) (program : Program) :
    (fillFrames frames program).filterTypes =
      frames.filterMap Frame.filter? ++ program.filterTypes := by
  induction frames with
  | nil => rfl
  | cons frame frames induction =>
      have inside := induction fun other member =>
        keeps other (List.mem_cons_of_mem _ member)
      have kept := keeps frame List.mem_cons_self
      cases frame with
      | mapList filters => cases kept
      | subquerySink id keys => cases kept
      | bind depth => exact (filterTypes_bindIfRead _ _).trans inside
      | narrow typeName mode =>
          cases mode with
          | filter => exact congrArg (typeName :: ·) inside
          | cast => exact inside
      | field key => exact inside
      | optional => exact inside
      | parameter depth => exact inside

/-- The program of a chain in a list maps that list.  Its elements come to the
filters in order, and those that are applied to the list are counted. -/
theorem Chain.Lays.mapping {chain : Chain} {filters : List ElementFilter}
    (lays : chain.Lays (.list filters)) {program : Program}
    (finished : chain.finish = .ok program) :
    ∃ inner,
      program.mapping? = some (filters.countP ElementFilter.onList, inner) ∧
      filters.map ElementFilter.typeName <+: inner.filterTypes := by
  obtain ⟨frames, position, list, path, repeated, pendingPage, terminal,
    enforceSingle⟩ := chain
  cases lays with
  | framed framed noEntry =>
      cases framed with
      | @list outer inside filters unmapped keeps same =>
          cases position with
          | object object => cases finished
          | dictionary entry => cases noEntry
          | value element isList =>
              have filled : (fillFrames (outer ++ .mapList
                  (filters.countP ElementFilter.onList) ::
                    inside) element).mapping? =
                    some (filters.countP ElementFilter.onList,
                          fillFrames inside element) := by
                rw [fillFrames_append]
                exact mapping?_fillFrames unmapped _
              have mapped :
                  program.mapping? =
                    some (filters.countP ElementFilter.onList,
                          fillFrames inside element) := by
                obtain rfl := Except.ok.inj finished
                split
                · exact filled
                · exact filled
              refine ⟨fillFrames inside element, mapped, ?_⟩
              rw [filterTypes_fillFrames keeps, same]
              exact List.prefix_append _ _

end programs

end GraphPipeline
