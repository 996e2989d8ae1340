import GraphPipeline.Proofs.Compile.Forms
import GraphPipeline.Proofs.Compile.Sinks
import GraphPipeline.Proofs.Evaluation.Shapes
import GraphPipeline.Proofs.ListFilters
import GraphPipeline.Proofs.Conformance

/-!
# Shapes of results

A terminal step gives results of its shape, with one exception: a value
projection that ends in a list of its own counts as a single value, so that the
list can be required to be single.
-/

namespace GraphPipeline

/-- Whether the last step of a pipeline ends it with a list. -/
def Pipeline.endsInList (pipeline : Pipeline) : Bool :=
  match pipeline.steps.getLast? with
  | some .toList => true
  | _ => false

theorem Pipeline.endsInList_of_goesOn {pipeline : Pipeline}
    (goesOn : pipeline.endsTerminal = false) : pipeline.endsInList = false := by
  unfold endsTerminal at goesOn
  unfold endsInList
  split
  · rename_i last
    rw [last] at goesOn
    cases goesOn
  · rfl

mutual

/-- Whether a value projection on the way of a pipeline ends in a list of its
own. -/
def Pipeline.hidesList : Pipeline → Bool
  | .mk _ steps => Pipeline.hidesListInSteps steps

def Pipeline.hidesListInSteps : List Step → Bool
  | [] => false
  | step :: steps =>
    Pipeline.hidesListInStep step || Pipeline.hidesListInSteps steps

def Pipeline.hidesListInStep : Step → Bool
  | .value _ inner => inner.hidesList || inner.endsInList
  | _ => false

end

/-- The shape a terminal step gives to a result, nothing being wrong with lists
that are not hidden. -/
def Step.Delivers (step : Step) (hides : Bool) (shape : Shape) : Prop :=
  match step with
  | .single => shape = .list ↔ hides = true
  | .singleOrDefault => shape = .list ↔ hides = true
  | .toList => shape = .list
  | .toDictionary _ _ _ => shape = .object ∧ hides = false
  | _ => True

/-- A terminal step gives lists if it is the one for lists, or if it takes a
list for a single value. -/
theorem Step.Delivers.list_iff {step : Step} {hides : Bool} {shape : Shape}
    (delivers : step.Delivers hides shape) (terminal : step.isTerminal = true)
    {pipeline : Pipeline} (last : pipeline.steps.getLast? = some step) :
    shape = .list ↔ (hides || pipeline.endsInList) = true := by
  rw [Pipeline.endsInList, last]
  cases step with
  | single => simpa [Step.Delivers] using delivers
  | singleOrDefault => simpa [Step.Delivers] using delivers
  | toList => simpa [Step.Delivers] using delivers
  | toDictionary parameter key value =>
      obtain ⟨object, shown⟩ := delivers
      simp [object, shown]
  | _ => cases terminal

/-! ### Frames -/

section frames

variable {frames more : List Frame}

/-- The outermost list that is mapped gives its shape to the whole. -/
theorem shape?_fillFrames (frames : List Frame) (program : Program) :
    (fillFrames frames program).shape? =
      if frames.any Frame.isMapList then some .list else program.shape? := by
  induction frames with
  | nil => rfl
  | cons frame frames induction =>
      change (frame.fill (fillFrames frames program)).shape? = _
      cases frame with
      | mapList filters => simp [Frame.fill, Frame.isMapList, Program.shape?]
      | bind depth => simpa [Frame.fill, Frame.isMapList] using induction
      | _ => simpa [Frame.fill, Frame.isMapList, Program.shape?] using induction

theorem findIdx?_append_plain
    (plain : ∀ frame ∈ more, frame.isMapList = false) :
    (frames ++ more).findIdx? Frame.isMapList =
      frames.findIdx? Frame.isMapList := by
  rw [List.findIdx?_append, List.findIdx?_eq_none_iff.mpr plain,
    Option.map_none, Option.or_none]

theorem findIdx?_append_mapList
    (unmapped : frames.findIdx? Frame.isMapList = none) (filters : Nat) :
    (frames ++ .mapList filters :: more).findIdx? Frame.isMapList =
      some frames.length := by
  rw [List.findIdx?_append, unmapped, List.findIdx?_cons]
  simp [Frame.isMapList]

theorem isMapList_guardFrames (type : TypeRef) :
    ∀ frame ∈ guardFrames type, frame.isMapList = false :=
  fun frame member =>
    Filtering.Framed.isMapList_of_keepsEntry
      (keepsEntry_guardFrames type frame member)

theorem findIdx?_countFilter (chain : Chain) (index : Nat) :
    (chain.countFilter index).frames.findIdx? Frame.isMapList =
      chain.frames.findIdx? Frame.isMapList := by
  have same : (chain.countFilter index).frames.map Frame.isMapList =
      chain.frames.map Frame.isMapList :=
    map_modify_of_same (by intro frame; cases frame <;> rfl) index chain.frames
  have found : ∀ frames : List Frame, frames.findIdx? Frame.isMapList =
      (frames.map Frame.isMapList).findIdx? id := by
    intro frames
    rw [List.findIdx?_map]
    rfl
  rw [found, found, same]

end frames

/-! ### Chains -/

/-- A value at a position is a list where the position says so, or where a
projection hides a list. -/
def Position.Delivers (hides : Bool) : Position → Prop
  | .object _ => hides = false
  | .value program isList => ∃ shape, program.shape? = some shape ∧
      (shape = .list ↔ (isList || hides) = true)
  | .dictionary _ => hides = false

/-- The list of a chain is the outermost one that is mapped, and the position
delivers. A dictionary ends its chain. -/
structure Chain.Delivers (chain : Chain) (hides : Bool) : Prop where
  list : chain.list = chain.frames.findIdx? Frame.isMapList
  position : chain.position.Delivers hides
  dictionary : chain.position.kind = .dictionary →
    chain.list.isSome = true ∧ chain.terminal ≠ none

namespace Chain.Delivers

variable {chain : Chain} {hides : Bool} {program : Program}

/-- Nothing is hidden before an object. -/
theorem of_object {object : ObjectPosition}
    (atObject : chain.position = .object object)
    (list : chain.list = chain.frames.findIdx? Frame.isMapList) :
    chain.Delivers false := by
  refine ⟨list, by rw [atObject]; rfl, ?_⟩
  intro kind
  rw [atObject] at kind
  cases kind

theorem object_hides {object : ObjectPosition} (delivers : chain.Delivers hides)
    (atObject : chain.position = .object object) : hides = false := by
  have position := delivers.position
  rwa [atObject] at position

/-- A value in place of an object. -/
theorem made {object : ObjectPosition} (delivers : chain.Delivers hides)
    (atObject : chain.position = .object object) {shape : Shape} {hidden : Bool}
    (shaped : program.shape? = some shape)
    (isHidden : shape = .list ↔ hidden = true) :
    Chain.Delivers { chain with position := .value program false }
      (hides || hidden) := by
  rw [delivers.object_hides atObject]
  refine ⟨delivers.list, ⟨shape, shaped, ?_⟩, ?_⟩
  · simpa using isHidden
  · intro kind
    cases kind

/-- The program of a chain has the shape of the dictionary it builds, or else is
a list where the chain is one or hides one. -/
theorem finish (delivers : chain.Delivers hides)
    (finished : chain.finish = .ok program) :
    ∃ shape, program.shape? = some shape ∧
      (chain.position.kind = .dictionary → shape = .object ∧ hides = false) ∧
      (chain.position.kind ≠ .dictionary →
        (shape = .list ↔ (chain.isList || hides) = true)) := by
  have ended : ∀ inner : Program,
      (if chain.enforceSingle then inner.enforceSingle else inner).shape? =
        inner.shape? := by
    intro inner
    split <;> rfl
  obtain ⟨list, delivered, listed⟩ := delivers
  unfold Chain.finish at finished
  cases position : chain.position with
  | object object => simp [position] at finished
  | value inner isList =>
      rw [position] at delivered
      obtain ⟨shape, shaped, isHidden⟩ := delivered
      simp only [position, Except.ok.injEq] at finished
      have mapped : chain.frames.any Frame.isMapList = chain.list.isSome := by
        rw [list, List.findIdx?_isSome]
      rw [← finished, ended, shape?_fillFrames, mapped, Chain.isList, position]
      cases chain.list with
      | some index =>
        exact ⟨.list, rfl, fun kind => (by cases kind), fun _ => by simp⟩
      | none =>
        exact ⟨shape, shaped, fun kind => (by cases kind),
          fun _ => by simpa using isHidden⟩
  | dictionary entry =>
      rw [position] at delivered
      simp only [position, Except.ok.injEq] at finished
      obtain ⟨index, found⟩ :=
        Option.isSome_iff_exists.mp (listed (by rw [position]; rfl)).1
      obtain ⟨_, _, first⟩ :=
        List.findIdx?_eq_some_iff_getElem.mp (list ▸ found)
      have before : (chain.frames.take index).any Frame.isMapList = false := by
        rw [List.any_eq_false]
        intro frame member
        obtain ⟨other, inside, rfl⟩ := List.mem_take_iff_getElem.mp member
        exact first other (by omega)
      rw [← finished, ended, found, Option.getD_some, shape?_fillFrames, before]
      exact ⟨.object, rfl, fun _ => ⟨rfl, delivered⟩,
        fun other => absurd rfl other⟩

/-- A step at the end of a chain leaves what the chain stands for. -/
theorem enforced (delivers : chain.Delivers hides) (enforceSingle : Bool) :
    Chain.Delivers { chain with enforceSingle } hides :=
  ⟨delivers.list, delivers.position, delivers.dictionary⟩

theorem endedBy (delivers : chain.Delivers hides) (step : Step) :
    (chain.endedBy step).Delivers hides := by
  cases terminal : step.isTerminal with
  | false =>
      rw [Chain.endedBy, if_neg (by simp [terminal])]
      exact delivers
  | true =>
      rw [Chain.endedBy, if_pos terminal]
      exact ⟨delivers.list, delivers.position, fun kind =>
        ⟨(delivers.dictionary kind).1, Step.reducer?_of_isTerminal terminal⟩⟩

end Chain.Delivers

/-- What must be single is compiled so. -/
theorem Chain.enforceSingle_of_finish {chain : Chain} {program : Program}
    (enforced : chain.enforceSingle = true)
    (finished : chain.finish = .ok program) :
    ∃ inner, program = .enforceSingle inner := by
  unfold Chain.finish at finished
  cases position : chain.position with
  | object object => simp [position] at finished
  | value inner isList =>
      simp only [position, enforced, if_true, Except.ok.injEq] at finished
      exact ⟨_, finished.symm⟩
  | dictionary entry =>
      simp only [position, enforced, if_true, Except.ok.injEq] at finished
      exact ⟨_, finished.symm⟩

/-! ### Steps -/

/-- The kinds of fields whose values have a known shape. -/
def FieldDefinition.isShaped (definition : FieldDefinition) : Bool :=
  definition.type.kind.isComposite || definition.type.kind.isBuiltin

section steps

variable {document : CompileState} {named : String → Prop} {chain next : Chain}
  {hides : Bool}

theorem advance_delivers {object : ObjectPosition}
    {definition : FieldDefinition} {selected : SelectedField}
    (composite : selected.child.isSome = definition.type.kind.isComposite)
    (shaped : definition.isShaped = true) (noList : chain.list = none)
    (list : chain.list = chain.frames.findIdx? Frame.isMapList)
    (advanced : Compile.advance chain object definition selected = .ok next) :
    next.Delivers false := by
  have entered :
      ∀ frame ∈ Frame.field selected.key :: guardFrames definition.type,
        frame.isMapList = false := by
    intro frame member
    rcases List.mem_cons.mp member with rfl | guard
    · rfl
    · exact isMapList_guardFrames _ frame guard
  unfold Compile.advance at advanced
  cases child : selected.child with
  | none =>
      have leaf : definition.type.kind.isBuiltin = true := by
        rw [child] at composite
        simpa [FieldDefinition.isShaped, ← composite] using shaped
      simp only [child, Except.ok.injEq] at advanced
      subst next
      refine ⟨list, ⟨_, if_pos leaf, ?_⟩, ?_⟩
      · cases definition.type.isList <;> simp
      · intro kind
        cases kind
  | some set =>
      cases elementOf : definition.type.element? with
      | none =>
          simp only [child, elementOf, guardNull_eq, Chain.push,
            List.append_assoc, List.singleton_append,
            Except.ok.injEq] at advanced
          subst next
          apply Chain.Delivers.of_object rfl
          exact list.trans (findIdx?_append_plain entered).symm
      | some element =>
          simp only [child, elementOf, guardNull_eq, mapList_eq, Chain.push,
            List.append_assoc, List.singleton_append] at advanced
          split at advanced
          · cases advanced
          · obtain rfl := Except.ok.inj advanced
            apply Chain.Delivers.of_object rfl
            have unmapped : (chain.frames ++ .field selected.key ::
                guardFrames definition.type).findIdx? Frame.isMapList =
                  none := by
              rw [findIdx?_append_plain entered, ← list, noList]
            have mapped : ((chain.frames ++ .field selected.key ::
                guardFrames definition.type) ++ .mapList 0 ::
                      guardFrames element).findIdx? Frame.isMapList = some _ :=
                  findIdx?_append_mapList unmapped 0
            simpa using mapped.symm

theorem selectsField_delivers (formed : document.WellFormed named)
    {definition : FieldDefinition} {arguments : List Argument} {paginate : Bool}
    (shaped : definition.isShaped = true) (delivers : chain.Delivers hides)
    (selects :
      Compile.SelectsField document chain definition arguments paginate next) :
    hides = false ∧ next.Delivers false := by
  cases selects with
  | plain atObject noList holds advanced =>
      exact ⟨delivers.object_hides atObject, advance_delivers
        (holds.isSome_child formed.selections) shaped noList delivers.list
          advanced⟩
  | @paged object selected next written page atObject noList _ _ holds
      advanced =>
      let waiting : Chain := { chain with pendingPage := some page }
      have noWaitingList : waiting.list = none := noList
      exact ⟨delivers.object_hides atObject, advance_delivers
        (holds.isSome_child formed.selections) shaped noWaitingList
          delivers.list advanced⟩

theorem selectsPages_delivers {nodes : FieldDefinition}
    (delivers : chain.Delivers hides) (waits : chain.Waits true)
    (selects : Compile.SelectsPages document chain nodes next) :
    hides = false ∧ next.Delivers false := by
  cases selects with
  | @mk page connection element pageInfo hasNextPage endCursor selected info set
      id waiting atObject =>
      refine ⟨delivers.object_hides atObject, ?_⟩
      have noList : chain.list = none := (waits (by rw [waiting]; rfl)).2
      simp only [Chain.throughPages, mapList_eq, Chain.push]
      apply Chain.Delivers.of_object rfl
      have unmapped : (chain.frames ++ [Frame.subquerySink id
          ⟨selected.key, pageInfo.key, hasNextPage.key,
              endCursor.key⟩]).findIdx? Frame.isMapList = none := by
        rw [findIdx?_append_plain, ← delivers.list, noList]
        intro frame member
        obtain rfl := List.mem_singleton.mp member
        rfl
      exact (findIdx?_append_mapList unmapped 0).symm

theorem narrows_delivers {typeName : String} {mode : NarrowingMode}
    (delivers : chain.Delivers hides)
    (narrows : Compile.Narrows document chain typeName mode next) :
    hides = false ∧ next.Delivers false := by
  cases narrows with
  | @mk object set atObject =>
      refine ⟨delivers.object_hides atObject, ?_⟩
      apply Chain.Delivers.of_object rfl
      have counted :
          (chain.counted mode).list = (chain.counted mode).frames.findIdx?
          Frame.isMapList := by
        unfold Chain.counted
        split
        · exact delivers.list.trans (findIdx?_countFilter chain _).symm
        · exact delivers.list
      refine counted.trans (findIdx?_append_plain ?_).symm
      intro frame member
      obtain rfl := List.mem_singleton.mp member
      rfl

/-- A projection that goes on inside delivers what it goes on to. -/
theorem continued_delivers {object : ObjectPosition} {last : Chain}
    {inside : Bool}
    (depth : Nat) (delivers : chain.Delivers hides)
    (atObject : chain.position = .object object)
    (inner : last.Delivers inside) :
    hides = false ∧ (chain.continued depth last).Delivers inside := by
  refine ⟨delivers.object_hides atObject, ?_, inner.position, ?_⟩
  · have bind : (chain.frames ++ [Frame.bind depth]).findIdx? Frame.isMapList =
        chain.frames.findIdx? Frame.isMapList := by
      apply findIdx?_append_plain
      intro frame member
      obtain rfl := List.mem_singleton.mp member
      rfl
    simp only [Chain.continued, Chain.under]
    rw [List.findIdx?_append, bind, ← delivers.list, inner.list]
    simp only [Nat.add_comm]
  · intro kind
    obtain ⟨listed, ended⟩ := inner.dictionary kind
    refine ⟨?_, ended⟩
    obtain ⟨index, found⟩ := Option.isSome_iff_exists.mp listed
    simp [Chain.continued, Chain.under, found]

theorem start_delivers (scopes : Scopes) (depth : Nat) (scope : Scope) :
    (Chain.start [] scopes depth scope).Delivers false := by
  apply Chain.Delivers.of_object rfl
  unfold Chain.start
  split <;> rfl

/-- How a terminal step has found the chain it ends. -/
def Chain.EndsAs (chain : Chain) : Step → Prop
  | .single => chain.position.kind ≠ .dictionary ∧ chain.isList = false ∧
      chain.enforceSingle = true
  | .singleOrDefault => chain.position.kind ≠ .dictionary ∧ chain.isList = false
  | .toList => chain.position.kind ≠ .dictionary ∧ chain.isList = true
  | .toDictionary _ _ _ => chain.position.kind = .dictionary
  | _ => True

theorem Chain.EndsAs.delivers {last : Chain} {step : Step} {program : Program}
    (ends : last.EndsAs step) (delivers : last.Delivers hides)
    (finished : last.finish = .ok program) :
    ∃ shape, program.shape? = some shape ∧ step.Delivers hides shape := by
  obtain ⟨shape, shaped, dictionary, other⟩ := delivers.finish finished
  refine ⟨shape, shaped, ?_⟩
  cases step with
  | single => simpa [ends.2.1, Step.Delivers] using other ends.1
  | singleOrDefault => simpa [ends.2, Step.Delivers] using other ends.1
  | toList => simpa [ends.2, Step.Delivers] using other ends.1
  | toDictionary parameter key value => exact dictionary ends
  | _ => trivial

/-! ### Walks -/

mutual

/-- The chain of a pipeline delivers what the pipeline hides, and ends as its
last step says. -/
theorem walks_deliver {scopes : Scopes} {last : Chain} (pipeline : Pipeline)
    (formed : document.WellFormed named)
    (shaped : pipeline.EachField fun definition _ => definition.isShaped = true)
    (walks : Compile.Walks document scopes pipeline last) :
    last.Delivers pipeline.hidesList ∧
      ∀ step, pipeline.steps.getLast? = some step → last.EndsAs step := by
  cases pipeline with
  | mk source steps =>
      cases walks with
      | mk resolved walks =>
          obtain ⟨delivers, ends⟩ :=
            walksSteps_deliver steps formed shaped walks (start_lays _ _ _)
              (Chain.waits_of_none rfl) (start_delivers _ _ _)
          rw [Bool.false_or] at delivers
          exact ⟨delivers, ends⟩
termination_by structural pipeline

theorem walksSteps_deliver {scopes : Scopes} {chain last : Chain} {hides : Bool}
    {filtering : Filtering} (steps : List Step)
    (formed : document.WellFormed named)
    (shaped :
      Pipeline.EachFieldOfSteps (fun definition _ => definition.isShaped = true)
        steps)
    (walks : Compile.WalksSteps document scopes steps chain last)
    (lays : chain.Lays filtering)
    (waits : chain.Waits (steps.head?.any Step.isAllPages))
    (delivers : chain.Delivers hides) :
    last.Delivers (hides || Pipeline.hidesListInSteps steps) ∧
      ∀ step, steps.getLast? = some step → last.EndsAs step := by
  cases steps with
  | nil =>
      cases walks
      rw [Pipeline.hidesListInSteps, Bool.or_false]
      exact ⟨delivers, fun step found => by cases found⟩
  | cons step rest =>
      cases walks with
      | @cons _ _ _ _ next _ terminal first others =>
          obtain ⟨nextLays, nextWaits⟩ :=
            walksStep_lays step formed first lays waits
          obtain ⟨nextDelivers, nextEnds⟩ :=
            walksStep_delivers step formed shaped.1 first terminal waits
              delivers
          obtain ⟨lastDelivers, lastEnds⟩ :=
            walksSteps_deliver rest formed shaped.2 others
              (nextLays.endedBy step) (nextWaits.endedBy step) nextDelivers
          rw [Bool.or_assoc] at lastDelivers
          refine ⟨lastDelivers, fun other found => ?_⟩
          cases rest with
          | nil =>
              cases others
              obtain rfl := Option.some.inj found
              exact nextEnds
          | cons later rest => exact lastEnds other (by simpa using found)
termination_by structural steps

theorem walksStep_delivers {scopes : Scopes} {paginate : Bool}
    {chain next : Chain} {hides : Bool} (step : Step)
    (formed : document.WellFormed named)
    (shaped :
      Pipeline.EachFieldOfStep (fun definition _ => definition.isShaped = true)
        step)
    (walks : Compile.WalksStep document scopes step paginate chain next)
    (goesOn : chain.terminal = none) (waits : chain.Waits step.isAllPages)
    (delivers : chain.Delivers hides) :
    (next.endedBy step).Delivers (hides || Pipeline.hidesListInStep step) ∧
      (next.endedBy step).EndsAs step := by
  have noDictionary : chain.position.kind ≠ .dictionary :=
    fun kind => (delivers.dictionary kind).2 goesOn
  cases step with
  | property definition =>
      cases walks with
      | property selects =>
          obtain ⟨rfl, nextDelivers⟩ :=
            selectsField_delivers formed shaped delivers selects
          exact ⟨nextDelivers, trivial⟩
  | call definition arguments =>
      cases walks with
      | call selects =>
          obtain ⟨rfl, nextDelivers⟩ :=
            selectsField_delivers formed shaped delivers selects
          exact ⟨nextDelivers, trivial⟩
  | allPages nodes =>
      cases walks with
      | allPages selects =>
          obtain ⟨rfl, nextDelivers⟩ :=
            selectsPages_delivers delivers waits selects
          exact ⟨nextDelivers, trivial⟩
  | cast typeName =>
      cases walks with
      | cast narrows =>
          obtain ⟨rfl, nextDelivers⟩ := narrows_delivers delivers narrows
          exact ⟨nextDelivers, trivial⟩
  | filter typeName =>
      cases walks with
      | filter narrows =>
          obtain ⟨rfl, nextDelivers⟩ := narrows_delivers delivers narrows
          exact ⟨nextDelivers, trivial⟩
  | single =>
      cases walks with
      | single noList =>
          simp only [Pipeline.hidesListInStep, Bool.or_false]
          exact ⟨(delivers.enforced true).endedBy .single, noDictionary, noList,
            rfl⟩
  | singleOrDefault =>
      cases walks with
      | singleOrDefault noList =>
          simp only [Pipeline.hidesListInStep, Bool.or_false]
          exact ⟨(delivers.enforced false).endedBy .singleOrDefault,
            noDictionary, noList⟩
  | toList =>
      cases walks with
      | toList isList =>
          simp only [Pipeline.hidesListInStep, Bool.or_false]
          exact ⟨delivers.endedBy .toList, noDictionary, isList⟩
  | record parameter fields =>
      cases walks with
      | record atObject compiled =>
          have record : ∀ programs : List (String × Program),
              ((Program.buildRecord programs).bindIfRead scopes.length).shape? =
                some .object := by
            intro programs
            rw [Program.shape?_bindIfRead]
            rfl
          exact ⟨delivers.made atObject (record _)
              (by simp [Pipeline.hidesListInStep]),
            trivial⟩
  | value parameter inner =>
      cases walks with
      | valueEnded atObject ended walks finished =>
          obtain ⟨inside, ends⟩ := walks_deliver inner formed shaped walks
          obtain ⟨last, found, terminal⟩ := Option.any_eq_true _ _ |>.mp ended
          obtain ⟨shape, known, made⟩ :=
            (ends last found).delivers inside finished
          refine ⟨delivers.made atObject ?_ (made.list_iff terminal found),
            trivial⟩
          rw [Program.shape?_bindIfRead, known]
      | valueContinued atObject ended walks oneList =>
          obtain ⟨inside, _⟩ := walks_deliver inner formed shaped walks
          obtain ⟨rfl, nextDelivers⟩ :=
            continued_delivers _ delivers atObject inside
          rw [Bool.false_or, Pipeline.hidesListInStep,
            Pipeline.endsInList_of_goesOn ended, Bool.or_false]
          exact ⟨nextDelivers, trivial⟩
  | toDictionary parameter key value =>
      cases walks with
      | toDictionary listed atObject walksKey finishedKey walksValue
          finishedValue =>
          obtain rfl := delivers.object_hides atObject
          have ended :
              Step.reducer? (.toDictionary parameter key value) ≠ none :=
            Step.reducer?_of_isTerminal rfl
          exact ⟨⟨delivers.list, rfl,
              fun _ => ⟨Option.isSome_of_mem listed, ended⟩⟩, rfl⟩
termination_by structural step

end

end steps

/-- What the value of a pipeline is that ends in a step.  Lists that are hidden
from a reducer are the only ones it lets pass. -/
def Step.Results (step : Step) (hides : Bool) (value : Json) : Prop :=
  match step with
  | .single => value ≠ .null ∧ ((∃ items, value = .array items) ↔ hides = true)
  | .singleOrDefault =>
    value = .null ∨ ((∃ items, value = .array items) ↔ hides = true)
  | .toList => value = .null ∨ ∃ items, value = .array items
  | .toDictionary _ _ _ => value = .null ∨ ∃ members, value = .object members
  | _ => True

/-- A value of the shape a terminal step gives, which is there if it is
required. -/
theorem Step.Delivers.results {step : Step} {hides : Bool} {shape : Shape}
    {value : Json}
    (delivers : step.Delivers hides shape)
    (shaped : value = .null ∨ value.shape? = some shape)
    (required : step matches .single → value ≠ .null) :
    step.Results hides value := by
  have list : value.shape? = some shape →
      ((∃ items, value = .array items) ↔ shape = .list) := by
    intro same
    rw [← Json.shape?_eq_list, same, Option.some.injEq]
  cases step with
  | single =>
      have present := required rfl
      exact ⟨present, (list (shaped.resolve_left present)).trans delivers⟩
  | singleOrDefault =>
    exact shaped.imp_right fun same => (list same).trans delivers
  | toList => exact shaped.imp_right fun same => (list same).mpr delivers
  | toDictionary parameter key value =>
      refine shaped.imp_right fun same => ?_
      rw [delivers.1] at same
      exact Json.shape?_eq_object.mp same
  | _ => trivial

/-- Terminal steps give results of their shape.  Only a value projection that
ends in a list of its own can bring a list to a reducer for single values. -/
theorem compiled_result_shaped {pipeline : Pipeline}
    {compiled : CompiledOperation} {given : Option AllNodes} {data value : Json}
    {step : Step}
    (success : compile pipeline = .ok compiled)
    (shaped : pipeline.EachField fun definition _ => definition.isShaped = true)
    (last : pipeline.steps.getLast? = some step)
    (yields : compiled.program.Yields given data value) :
    step.Results pipeline.hidesList value := by
  obtain ⟨kind, document, outcome⟩ :=
    Compile.outcome_of_compile Compile.anyPageNames
      (pipeline.eachField fun _ _ => trivial) success
  obtain ⟨chain, walks, finished⟩ := outcome.walks
  obtain ⟨delivers, ends⟩ := walks_deliver pipeline outcome.formed shaped walks
  obtain ⟨shape, known, delivered⟩ :=
    (ends step last).delivers delivers finished
  obtain ⟨_, run⟩ := yields.runs
  refine delivered.results (Evaluate.program_shape compiled.program known run)
    ?_
  intro single
  cases step with
  | single =>
      obtain ⟨inner, enforced⟩ :=
        Chain.enforceSingle_of_finish (ends _ last).2.2 finished
      rw [enforced] at run
      exact Evaluate.ne_null_of_required run
  | _ => cases single

namespace Sample

/-- The login of the viewer, who must be there. -/
def viewerLogin : Pipeline :=
  (((Pipeline.root .query).property (viewer (TypeRef.object "User"))).property
    login).single

def viewerData : Json :=
  .object [("viewer", .object [("login", .string "octocat")])]

/-- The titles of all items, required to be a single value behind a
projection. -/
def singleTitles : Pipeline :=
  ((Pipeline.root .query).selectValue "q"
    (((Pipeline.parameter "q").property itemList).selectValue "i"
      ((Pipeline.parameter "i").property title)).toList).single

def titlesData : Json :=
  .object [("items", .array [.object [("title", .string "a")]])]

def titlesDocument : TypedSet :=
  .mk false
    [.mk "items" "items" itemList.type []
      (some (.mk false [.mk "title" "title" title.type [] none] []))] []

theorem titlesData_admitted : titlesDocument.Admits titlesData := by
  have item :
      TypedSet.Admits (.mk false [.mk "title" "title" title.type [] none] [])
        (.object [("title", .string "a")]) :=
    ⟨_, rfl, fun asks => (by cases asks),
     ⟨⟨_, rfl, .value rfl rfl rfl⟩, trivial⟩, trivial⟩
  have items : itemList.type.wrapping.Admits
      (TypedSet.Admits (.mk false [.mk "title" "title" title.type [] none] []))
      (.array [.object [("title", .string "a")]]) := by
    have element :
        itemList.type.wrapping.element? = some Wrapping.required := by
      decide
    apply Wrapping.Admits.list element
    intro value member
    obtain rfl := List.mem_singleton.mp member
    exact .value (by decide) rfl item
  exact ⟨_, rfl, fun asks => (by cases asks), ⟨⟨_, rfl, items⟩, trivial⟩,
    trivial⟩

end Sample

theorem viewerLogin_single :
    ∃ compiled value, compile Sample.viewerLogin = .ok compiled ∧
      compiled.program.Yields none Sample.viewerData value ∧
      Step.Results .single Sample.viewerLogin.hidesList value := by
  have evaluated : (compile Sample.viewerLogin).map (fun compiled =>
      compiled.program.collect Sample.viewerData) =
        .ok (.ok (.string "octocat", [])) := by
    cbv
  obtain ⟨compiled, success, collected⟩ := Evaluate.map_eq_ok.mp evaluated
  have shaped : Sample.viewerLogin.EachField fun definition _ =>
      definition.isShaped = true := by
    decide
  have yields :
      compiled.program.Yields none Sample.viewerData (.string "octocat") :=
    ⟨[], collected⟩
  exact ⟨compiled, _, success, yields,
    compiled_result_shaped success shaped rfl yields⟩

/-- Here a reducer for single values gives a list. -/
theorem singleTitles_listed :
    Sample.singleTitles.steps.getLast?.any (· matches .single) = true ∧
      (Sample.singleTitles.EachField
        fun definition _ => definition.isShaped = true) ∧
      ∃ compiled, compile Sample.singleTitles = .ok compiled ∧
        Sample.singleTitles.typedDocument? = some Sample.titlesDocument ∧
        Sample.titlesDocument.Admits Sample.titlesData ∧
        compiled.program.collect Sample.titlesData =
          .ok (.array [.string "a"], []) := by
  have evaluated : (compile Sample.singleTitles).map (fun compiled =>
      compiled.program.collect Sample.titlesData) =
        .ok (.ok (.array [.string "a"], [])) := by
    cbv
  obtain ⟨compiled, success, collected⟩ := Evaluate.map_eq_ok.mp evaluated
  exact ⟨rfl, by decide, compiled, success, by cbv, Sample.titlesData_admitted,
    collected⟩

end GraphPipeline
